import DesignTables.Proofs.Compile.Selection
import DesignTables.Proofs.Compile.UnknownTables
import DesignTables.Proofs.Header.Needs
import DesignTables.Proofs.Text.Lower
import DesignTables.Proofs.Text.Paths

/-!
# Where the targets of references are looked for

A `check` directive is read in small letters, and so are the origins that values are indexed under:
a column answers to a target in whatever letters the two are written. The table of a target is
looked for by the names of the sheets as they stand, though. So a sheet with such a column is found
exactly when its name has no capital letter.
-/
namespace DesignTables

/-- A table with a column that `check` directives can name as `table/field`, in any letters. -/
structure IngestedSheet.Offers (sheet : IngestedSheet) (table field : String) : Prop where
  plain : sheet.schema.kind ≠ .merge
  clean : sheet.schema.isClean = true
  column : ∃ column ∈ sheet.schema.columns, column.origin.isSome ∧
    Text.lower (sheet.name ++ "/" ++ column.title) = Text.lower (table ++ "/" ++ field)

instance (sheet : IngestedSheet) (table field : String) : Decidable (sheet.Offers table field) :=
  decidable_of_iff
    (sheet.schema.kind ≠ .merge ∧ sheet.schema.isClean = true ∧
      ∃ column ∈ sheet.schema.columns, column.origin.isSome ∧
        Text.lower (sheet.name ++ "/" ++ column.title) = Text.lower (table ++ "/" ++ field))
    ⟨fun ⟨plain, clean, column⟩ => ⟨plain, clean, column⟩,
     fun offers => ⟨offers.plain, offers.clean, offers.column⟩⟩

namespace RunContext

open Library

/-- A table of the first round with the directive `check<table/field>`, in any letters. -/
structure AsksFor (ctx : RunContext) (asking : Schema) (table field : String) : Prop where
  loaded : asking ∈ schemasOf ctx.firstRound
  directive : ∃ column ∈ asking.columns,
    .check (Text.lower (table ++ "/" ++ field)) ∈ Header.directivesOf column

instance (ctx : RunContext) (asking : Schema) (table field : String) :
    Decidable (ctx.AsksFor asking table field) :=
  decidable_of_iff
    (asking ∈ schemasOf ctx.firstRound ∧ ∃ column ∈ asking.columns,
      .check (Text.lower (table ++ "/" ++ field)) ∈ Header.directivesOf column)
    ⟨fun ⟨loaded, directive⟩ => ⟨loaded, directive⟩, fun asks => ⟨asks.loaded, asks.directive⟩⟩

variable {ctx : RunContext} {books : List Workbook} {asking : Schema} {table field : String}
  {found : IngestedSheet}

/-- After a clean first round, the target of a directive is a table and a field, and the table is
needed unless it is a merge group. -/
theorem AsksFor.target (h : ctx.AsksFor asking table field)
    (admits : CompileState.empty.AdmitsAll (ctx.ingestedOf ctx.selected)) :
    ∃ name, Text.splitOn '/' (Text.lower (table ++ "/" ++ field)) = [Text.lower table, name] ∧
      (Text.lower table ∉ ctx.catalog.mergeGroups → Text.lower table ∈ asking.needs.tables) := by
  obtain ⟨sheet, mem, rfl⟩ := ((holds_firstRound admits).schemas asking).1 h.loaded
  obtain ⟨given, origin, ingested⟩ := mem_ingestedOf mem
  have clean := (IngestedSheet.readFrom_ofSheet? ingested).2.header (admits.isClean sheet mem)
  obtain ⟨column, inside, asks⟩ := h.directive
  obtain ⟨first, second, pieces, needed⟩ := Header.needs_of_compile?
    (IngestedSheet.compile?_of_ofSheet? ingested) clean inside asks
  obtain ⟨rfl, -⟩ := Path.eq_of_splitOn_eq_pair (Text.lower_append_slash table field ▸ pieces)
  exact ⟨second, pieces, fun plain => needed (by simpa using plain)⟩

/-- A table that answers to the target has the name of the target's table, up to capital letters. -/
theorem AsksFor.lower_name (h : ctx.AsksFor asking table field)
    (admits : CompileState.empty.AdmitsAll (ctx.ingestedOf ctx.selected))
    (offers : found.Offers table field) : Text.lower found.name = Text.lower table := by
  obtain ⟨name, pieces, -⟩ := h.target admits
  obtain ⟨column, -, -, same⟩ := offers.column
  rw [← same, Text.lower_append_slash] at pieces
  exact (Path.eq_of_splitOn_eq_pair pieces).1

/-- Where no two sheets differ in capital letters only, a sheet has a name in small letters exactly
when some sheet has the name that it has in small letters. -/
theorem exists_named_iff (nodup : ((Library.sheets books).map fun s => Text.lower s.name).Nodup)
    (mem : found ∈ Library.sheets books) {name : String} (same : Text.lower found.name = name) :
    (∃ sheet ∈ Library.sheets books, sheet.name = name) ↔ Text.lower found.name = found.name := by
  constructor
  · rintro ⟨sheet, known, rfl⟩
    obtain rfl : sheet = found := eq_of_key_eq nodup known mem (by rw [← same, Text.lower_lower])
    exact same
  · intro small
    exact ⟨found, mem, small.symm.trans same⟩

theorem eq_of_unknownTarget {schema other : Schema} {first second : String}
    (h : unknownTarget schema first = unknownTarget other second) : first = second := by
  -- The message tells the table, whichever schema it was that asked for it.
  have message : "check target " ++ first ++ " is not a known table" =
      "check target " ++ second ++ " is not a known table" := congrArg Diagnostic.message h
  rwa [String.append_left_inj, String.append_right_inj] at message

/-- The target is looked for in vain exactly when the name of the table that answers to it has a
capital letter. -/
theorem Over.mem_unknownTargets_iff (h : ctx.Over books)
    (nodup : ((Library.sheets books).map fun s => Text.lower s.name).Nodup)
    (admits : CompileState.empty.AdmitsAll (ctx.ingestedOf ctx.selected))
    (asks : ctx.AsksFor asking table field) (plain : Text.lower table ∉ ctx.catalog.mergeGroups)
    (mem : found ∈ Library.sheets books) (offers : found.Offers table field) :
    unknownTarget asking (Text.lower table) ∈
        (schemasOf ctx.firstRound).flatMap (ctx.unknownTargets ctx.firstRound) ↔
      Text.lower found.name ≠ found.name := by
  have named := exists_named_iff nodup mem (asks.lower_name admits offers)
  have unknown : (!ctx.firstRound.hasTable (Text.lower table) &&
      (ctx.catalog.workbookOfSheet? (Text.lower table)).isNone) = true ↔
        Text.lower found.name ≠ found.name := by
    rw [h.isUnknown_iff admits, ne_eq, ← named]
    simp only [not_exists, not_and, ne_eq]
  rw [List.mem_flatMap, ← unknown]
  constructor
  · rintro ⟨schema, -, reported⟩
    rw [unknownTargets, List.mem_map] at reported
    obtain ⟨name, listed, same⟩ := reported
    obtain rfl := eq_of_unknownTarget same
    exact (List.mem_filter.1 listed).2
  · intro unknown
    obtain ⟨-, -, needed⟩ := asks.target admits
    exact ⟨asking, asks.loaded, List.mem_map_of_mem (List.mem_filter.2 ⟨needed plain, unknown⟩)⟩

/-- A needed table is loaded exactly when its workbook is the first of its name. -/
theorem Over.exists_mem_tables_iff (h : ctx.Over books) (ingests : ctx.Ingests)
    (nodup : ((Library.sheets books).map (·.name)).Nodup)
    (asked : asking ∈ schemasOf ctx.firstRound) (needed : found.name ∈ asking.needs.tables)
    {book : Workbook} (known : book ∈ books) (share : found ∈ shares books book)
    (plain : found.schema.kind ≠ .merge) :
    (∃ referenceOnly, found.asTable referenceOnly ∈ ctx.mergedState.tables) ↔
      ctx.workbook? book.name = some book := by
  rw [tables_mergedState ingests]
  constructor
  · rintro ⟨referenceOnly, loaded⟩
    obtain ⟨names, sheet, taken, same⟩ : ∃ names, ∃ sheet ∈ ctx.ingestedOf names,
        sheet.schema = found.schema := by
      rcases List.mem_append.1 loaded with loaded | loaded
      all_goals
        obtain ⟨sheet, mem, same⟩ := List.mem_map.1 loaded
        exact ⟨_, sheet, (List.mem_filter.1 mem).1, congrArg LoadedTable.schema same⟩
    obtain ⟨first, inside, -, own, share'⟩ := h.mem_ingestedOf_iff.1 taken
    obtain rfl := book_eq_of_name nodup inside known share' share (congrArg Schema.name same)
    obtain rfl := eq_of_shares nodup inside known share' share
    exact own
  · intro own
    have taken := h.mem_sheets_of_name nodup ingests.first asked known own share needed
    have kept : (!found.isMerge) = true := by simpa [IngestedSheet.isMerge] using plain
    rcases List.mem_append.1 taken with taken | taken
    · exact ⟨false, List.mem_append_left _ (List.mem_map_of_mem (List.mem_filter.2 ⟨taken, kept⟩))⟩
    · exact ⟨true, List.mem_append_right _ (List.mem_map_of_mem (List.mem_filter.2 ⟨taken, kept⟩))⟩

end RunContext

namespace Run

open Library RunContext

/-- In a run that gets past ingestion no target of a directive is unknown that some table answers
to, and that table is loaded where the run reaches validation. -/
def FindsTargets (books : List Workbook) (ctx : RunContext) : Prop :=
  (ofContext ctx).ingested.isClean = true →
    ∀ asking table field, ctx.AsksFor asking table field →
      Text.lower table ∉ ctx.catalog.mergeGroups →
        ∀ found ∈ Library.sheets books, found.Offers table field →
          unknownTarget asking (Text.lower table) ∉ (ofContext ctx).finalState.diagnostics ∧
            ∀ validated ∈ (ofContext ctx).validated,
              ∃ referenceOnly, found.asTable referenceOnly ∈ validated.state.tables

/-- A run reports the target of a directive as unknown exactly when it gets past ingestion and the
table that answers to it has a capital letter in its name. A run that is validated has loaded that
table exactly when its workbook is the first of its name. -/
theorem finds_target_iff {options : Options} {books : List Workbook} {selection : Selection}
    {dryRun : Bool} (nodup : ((Library.sheets books).map fun s => Text.lower s.name).Nodup)
    {asking : Schema} {table field : String}
    (asks : (RunContext.select options books selection dryRun).AsksFor asking table field)
    (plain : Text.lower table ∉ (Catalog.ofWorkbooks books).mergeGroups)
    {book : Workbook} (known : book ∈ books) {found : IngestedSheet}
    (share : found ∈ shares books book) (offers : found.Offers table field) :
    let run := ofContext (RunContext.select options books selection dryRun)
    (unknownTarget asking (Text.lower table) ∈ run.finalState.diagnostics ↔
      run.ingested.isClean = true ∧ Text.lower found.name ≠ found.name) ∧
    ∀ validated, run.validated = some validated →
      ((∃ referenceOnly, found.asTable referenceOnly ∈ validated.state.tables) ↔
        books.find? (·.name == book.name) = some book) := by
  have given : (RunContext.select options books selection dryRun).Over books := ⟨rfl, rfl⟩
  have mem : found ∈ Library.sheets books := List.mem_flatMap.2 ⟨book, known, share⟩
  refine ⟨?_, fun validated reached => ?_⟩
  · rw [mem_finalState_iff_of_unknown rfl]
    refine and_congr_right fun clean => ?_
    exact given.mem_unknownTargets_iff nodup (isClean_firstRound_iff.1 clean) asks plain mem offers
  · obtain ⟨reaches, rfl⟩ := validated_eq_some_iff.1 reached
    have small : Text.lower found.name = found.name := by
      by_contra capital
      have unknown :=
        (given.mem_unknownTargets_iff nodup reaches.first asks plain mem offers).2 capital
      rw [reaches.targets] at unknown
      exact List.not_mem_nil unknown
    obtain ⟨-, -, needed⟩ := asks.target reaches.first
    rw [(Validated.ofState_parts _).1]
    refine given.exists_mem_tables_iff reaches.toIngests ?_ asks.loaded ?_ known share offers.plain
    · exact List.Nodup.of_map Text.lower (by rw [List.map_map]; exact nodup)
    · rw [← small, asks.lower_name reaches.first offers]
      exact needed plain

/-- A workbook with items on a sheet of some name. -/
def itemsOn (name : String) : Workbook :=
  bookOf "goods.xlsx"
    [sheetOf name "#data" "" [("ID", "key,int"), ("name", "string")] [["7", "rope"]]]

/-- The items and a shop that refers to their numbers. -/
def shopAndItemsOn (name : String) : List Workbook :=
  [tableBook "shop" [("good", "int,check<Item/Id>")] [["1", "7"]], itemsOn name]

/-- The run over the shop. -/
def shopRunOn (name : String) : RunContext :=
  RunContext.select Options.standard (shopAndItemsOn name) (.named ["shop"]) false

set_option maxRecDepth 100000 in
/-- Items on the sheet `item` are found, with capital letters in the directive and in the title. -/
theorem finds_target_item : ∃ validated asking found,
    (ofContext (shopRunOn "item")).validated = some validated ∧
      (shopRunOn "item").AsksFor asking "Item" "Id" ∧
      found ∈ shares (shopAndItemsOn "item") (itemsOn "item") ∧ found.Offers "Item" "Id" ∧
      unknownTarget asking "item" ∉ (ofContext (shopRunOn "item")).finalState.diagnostics ∧
      ∃ referenceOnly, found.asTable referenceOnly ∈ validated.state.tables := by
  have reaches : (ofContext (shopRunOn "item")).validated.isSome = true := by decide +kernel
  have nodup : ((Library.sheets (shopAndItemsOn "item")).map fun s => Text.lower s.name).Nodup := by
    decide +kernel
  have plain : Text.lower "Item" ∉ (Catalog.ofWorkbooks (shopAndItemsOn "item")).mergeGroups := by
    decide +kernel
  obtain ⟨asking, -, asks⟩ : ∃ asking ∈ schemasOf (shopRunOn "item").firstRound,
      (shopRunOn "item").AsksFor asking "Item" "Id" := by
    decide +kernel
  obtain ⟨found, share, offers, small⟩ :
      ∃ found ∈ shares (shopAndItemsOn "item") (itemsOn "item"), found.Offers "Item" "Id" ∧
        Text.lower found.name = found.name := by
    decide +kernel
  obtain ⟨validated, reached⟩ := Option.isSome_iff_exists.1 reaches
  obtain ⟨unknown, loaded⟩ := finds_target_iff nodup asks plain
    (List.mem_cons_of_mem _ List.mem_cons_self) share offers
  refine ⟨validated, asking, found, reached, asks, share, offers, fun reported => ?_,
    (loaded validated reached).2 rfl⟩
  exact (unknown.1 reported).2 small

set_option maxRecDepth 100000 in
/-- Items on the sheet `Item` are not: the shop's reference to them counts as unknown. -/
theorem not_findsTargets_capital :
    ¬ ∀ (books : List Workbook) (selection : Selection),
      ((Library.sheets books).map fun s => Text.lower s.name).Nodup →
        FindsTargets books (RunContext.select Options.standard books selection false) := by
  intro all
  have clean : (ofContext (shopRunOn "Item")).ingested.isClean = true := by decide +kernel
  have nodup : ((Library.sheets (shopAndItemsOn "Item")).map fun s => Text.lower s.name).Nodup := by
    decide +kernel
  have plain : Text.lower "Item" ∉ (shopRunOn "Item").catalog.mergeGroups := by decide +kernel
  obtain ⟨asking, -, asks, reported⟩ : ∃ asking ∈ schemasOf (shopRunOn "Item").firstRound,
      (shopRunOn "Item").AsksFor asking "Item" "Id" ∧ unknownTarget asking (Text.lower "Item") ∈
        (ofContext (shopRunOn "Item")).finalState.diagnostics := by
    decide +kernel
  obtain ⟨found, mem, offers⟩ : ∃ found ∈ Library.sheets (shopAndItemsOn "Item"),
      found.Offers "Item" "Id" := by
    decide +kernel
  obtain ⟨quiet, -⟩ := all _ _ nodup clean asking "Item" "Id" asks plain found mem offers
  exact quiet reported

end Run

end DesignTables
