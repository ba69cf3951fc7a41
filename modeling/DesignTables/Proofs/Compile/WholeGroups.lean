import DesignTables.Proofs.Compile.Completeness
import DesignTables.Proofs.Compile.Integrity
import DesignTables.Proofs.Merge.Placement

/-!
# Which merge tables have all sheets of their group

A selected merge workbook brings the workbooks that the catalog knows to be of its group. The catalog
knows one kind and one group of a workbook, those of its last sheets that tell them, and looks a
workbook up by its name. So a group is whole when every workbook with a sheet of it can be told by
its name, and those that the selection does not ask for are known to share the group with the others.
-/
namespace DesignTables

/-- A merge sheet whose tuple is well formed and names the group. -/
def Sheet.MergesInto (sheet : Sheet) (group : String) : Prop :=
  Kind.detect? sheet.grid = some .merge ∧
    ((sheet.grid.text? Header.directiveRow 0).bind MergeHeader.parse?).map (·.name) = some group

instance (sheet : Sheet) (group : String) : Decidable (sheet.MergesInto group) := by
  unfold Sheet.MergesInto
  infer_instance

/-- A workbook with a sheet of the group. -/
def Workbook.MergesInto (book : Workbook) (group : String) : Prop :=
  ∃ sheet ∈ book.sheets, sheet.MergesInto group

instance (book : Workbook) (group : String) : Decidable (book.MergesInto group) := by
  unfold Workbook.MergesInto
  infer_instance

/-- A clean sheet is of the group that its tuple names. -/
theorem IngestedSheet.group?_eq_some_iff {given : Sheet} {origin : SheetOrigin}
    {mergeGroups : List String} {sheet : IngestedSheet}
    (h : ofSheet? given origin mergeGroups = some sheet) (clean : sheet.diagnostics = [])
    {group : String} : sheet.group? = some group ↔ given.MergesInto group := by
  obtain ⟨-, read⟩ := readFrom_ofSheet? h
  rw [group?, Sheet.MergesInto, read.kind, Option.some.injEq]
  by_cases merge : sheet.schema.kind = .merge
  · obtain ⟨tuple, header, cell, parsed, own⟩ :=
      Header.tuple_of_compile? (compile?_of_ofSheet? h) merge (read.header clean)
    rw [if_pos merge, own, cell, Option.bind_some, parsed]
    exact (and_iff_right merge).symm
  · rw [if_neg merge]
    exact iff_of_false (fun none => by cases none) fun both => merge both.1

namespace Library

/-- The selection itself asks for the workbook, not only for what brings it. -/
def Asks (books : List Workbook) : Selection → Workbook → Prop
  | .all, _ => True
  | .named names, book =>
    ∃ name ∈ names, (Catalog.ofWorkbooks books).resolve? name = some book.name

instance (books : List Workbook) (selection : Selection) (book : Workbook) :
    Decidable (Asks books selection book) := by
  cases selection <;> unfold Asks <;> infer_instance

/-- The workbooks of a group can be gathered: each is told by its name and, where the selection does
not ask for one, the catalog has it under the group and every other one as a merge workbook of it. -/
structure Gathers (books : List Workbook) (selection : Selection) (group : String) : Prop where
  named : ∀ book ∈ books, book.MergesInto group → books.countP (·.name == book.name) = 1
  catalogued : ∀ other ∈ books, other.MergesInto group → ¬ Asks books selection other →
    ∀ book ∈ books, book.MergesInto group → book.name ≠ other.name →
      (CatalogEntry.ofWorkbook other).mergeGroup = some group ∧
      (CatalogEntry.ofWorkbook book).kind = some .merge ∧
      (CatalogEntry.ofWorkbook book).mergeGroup = some group

instance (books : List Workbook) (selection : Selection) (group : String) :
    Decidable (Gathers books selection group) :=
  decidable_of_iff
    ((∀ book ∈ books, book.MergesInto group → books.countP (·.name == book.name) = 1) ∧
      ∀ other ∈ books, other.MergesInto group → ¬ Asks books selection other →
        ∀ book ∈ books, book.MergesInto group → book.name ≠ other.name →
          (CatalogEntry.ofWorkbook other).mergeGroup = some group ∧
          (CatalogEntry.ofWorkbook book).kind = some .merge ∧
          (CatalogEntry.ofWorkbook book).mergeGroup = some group)
    ⟨fun ⟨named, catalogued⟩ => ⟨named, catalogued⟩,
      fun gathers => ⟨gathers.named, gathers.catalogued⟩⟩

variable {books : List Workbook} {book other : Workbook} {group : String}

/-- A name that one workbook bears tells it. -/
theorem eq_of_named (named : books.countP (·.name == book.name) = 1) (mem : book ∈ books)
    (mem' : other ∈ books) (same : other.name = book.name) : other = book := by
  rw [List.countP_eq_length_filter, List.length_eq_one_iff] at named
  obtain ⟨only, found⟩ := named
  have all : ∀ given ∈ books, given.name = book.name → given = only := by
    intro given mem same
    have listed : given ∈ books.filter (·.name == book.name) :=
      List.mem_filter.2 ⟨mem, beq_iff_eq.2 same⟩
    rwa [found, List.mem_singleton] at listed
  rw [all other mem' same, all book mem rfl]

theorem find?_eq_of_named (named : books.countP (·.name == book.name) = 1) (mem : book ∈ books) :
    books.find? (·.name == book.name) = some book := by
  cases found : books.find? (·.name == book.name) with
  | none => exact absurd (beq_self_eq_true book.name) (List.find?_eq_none.1 found book mem)
  | some first =>
    have same : first.name = book.name := by simpa using List.find?_some found
    rw [eq_of_named named mem (List.mem_of_find?_eq_some found) same]

/-- The catalog has one entry under such a name. -/
theorem entry_eq_of_named (named : books.countP (·.name == book.name) = 1) (mem : book ∈ books)
    {entry : CatalogEntry} (known : entry ∈ (Catalog.ofWorkbooks books).entries)
    (same : entry.name = book.name) : entry = CatalogEntry.ofWorkbook book := by
  obtain ⟨other, inside, rfl⟩ := List.mem_map.1 known
  rw [CatalogEntry.name_ofWorkbook] at same
  rw [eq_of_named named mem inside same]

theorem kind_of_mem_workbooksOfKind (named : books.countP (·.name == book.name) = 1)
    (mem : book ∈ books) {kind : Kind}
    (listed : book.name ∈ (Catalog.ofWorkbooks books).workbooksOfKind kind) :
    (CatalogEntry.ofWorkbook book).kind = some kind := by
  obtain ⟨entry, known, same⟩ := List.mem_map.1 listed
  obtain ⟨known, sort⟩ := List.mem_filter.1 known
  rw [← entry_eq_of_named named mem known same]
  exact beq_iff_eq.1 sort

theorem mergeGroup_of_mem_workbooksInGroup (named : books.countP (·.name == book.name) = 1)
    (mem : book ∈ books) (listed : book.name ∈ (Catalog.ofWorkbooks books).workbooksInGroup group) :
    (CatalogEntry.ofWorkbook book).mergeGroup = some group := by
  obtain ⟨entry, known, same⟩ := List.mem_map.1 listed
  obtain ⟨known, own⟩ := List.mem_filter.1 known
  rw [← entry_eq_of_named named mem known same]
  exact beq_iff_eq.1 own

/-- What brings a workbook of the group brings every other one that the catalog knows to be of the
group. -/
theorem mem_brings_of_group (named : books.countP (·.name == book.name) = 1) (mem : book ∈ books)
    (kind : (CatalogEntry.ofWorkbook book).kind = some .merge)
    (own : (CatalogEntry.ofWorkbook book).mergeGroup = some group) (mem' : other ∈ books)
    (shared : (CatalogEntry.ofWorkbook other).mergeGroup = some group) {entry : CatalogEntry}
    (known : entry ∈ (Catalog.ofWorkbooks books).entries)
    (brought : book.name ∈ (Catalog.ofWorkbooks books).brings entry) :
    other.name ∈ (Catalog.ofWorkbooks books).brings entry := by
  have whole : other.name ∈ (Catalog.ofWorkbooks books).workbooksInGroup group := by
    rw [← CatalogEntry.name_ofWorkbook other]
    exact List.mem_map_of_mem
      (List.mem_filter.2 ⟨List.mem_map_of_mem mem', beq_iff_eq.2 shared⟩)
  have unshared : ∀ sort ≠ Kind.merge,
      book.name ∉ (Catalog.ofWorkbooks books).workbooksOfKind sort := by
    intro sort apart listed
    have same := kind_of_mem_workbooksOfKind named mem listed
    rw [kind, Option.some.injEq] at same
    exact apart same.symm
  rw [Catalog.brings, List.mem_cons] at brought ⊢
  rcases brought with same | brought
  · rw [entry_eq_of_named named mem known same.symm, kind, own]
    exact .inr whole
  · right
    -- Only as a merge workbook of this group can the entry have brought the workbook.
    split at brought
    next => exact absurd brought (unshared _ (by decide))
    next => exact absurd brought (unshared _ (by decide))
    next =>
      cases given : entry.mergeGroup with
      | none =>
        rw [given] at brought
        exact absurd brought List.not_mem_nil
      | some brings =>
        rw [given, Option.map_some, Option.getD_some] at brought
        have same := mergeGroup_of_mem_workbooksInGroup named mem brought
        rw [own, Option.some.injEq] at same
        rw [Option.map_some, Option.getD_some, ← same]
        exact whole
    next => exact absurd brought List.not_mem_nil
    next => exact absurd brought List.not_mem_nil

/-- A workbook that the selection asks for is selected. -/
theorem chosen_of_asks {names : List String} (mem : book ∈ books)
    (asks : Asks books (.named names) book) :
    chosen books (names.filterMap (Catalog.ofWorkbooks books).resolve?) book = true := by
  obtain ⟨name, listed, resolved⟩ := asks
  have known : ((Catalog.ofWorkbooks books).find? book.name).isSome := by
    rw [Catalog.find?, List.find?_isSome]
    exact ⟨_, List.mem_reverse.2 (List.mem_map_of_mem mem),
      beq_iff_eq.2 (CatalogEntry.name_ofWorkbook book)⟩
  obtain ⟨entry, found⟩ := Option.isSome_iff_exists.1 known
  have own : entry.name = book.name := by simpa using List.find?_some found
  rw [chosen, List.contains_iff_mem, List.mem_flatMap]
  refine ⟨entry, List.mem_filterMap.2 ⟨_, List.mem_filterMap.2 ⟨name, listed, resolved⟩, found⟩, ?_⟩
  rw [Catalog.brings, own]
  exact List.mem_cons_self

/-- With one workbook of the group every other one is selected. -/
theorem Gathers.chosen {names : List String} (h : Gathers books (.named names) group)
    (mem : book ∈ books) (share : book.MergesInto group) (mem' : other ∈ books)
    (share' : other.MergesInto group)
    (first : Library.chosen books (names.filterMap (Catalog.ofWorkbooks books).resolve?) book =
      true) :
    Library.chosen books (names.filterMap (Catalog.ofWorkbooks books).resolve?) other = true := by
  by_cases same : book.name = other.name
  · rw [Library.chosen, ← same]
    exact first
  · by_cases asks : Asks books (.named names) other
    · exact chosen_of_asks mem' asks
    · obtain ⟨shared, kind, own⟩ := h.catalogued other mem' share' asks book mem share same
      rw [Library.chosen, List.contains_iff_mem, List.mem_flatMap] at first ⊢
      obtain ⟨entry, taken, brought⟩ := first
      obtain ⟨name, -, found⟩ := List.mem_filterMap.1 taken
      exact ⟨entry, taken, mem_brings_of_group (h.named book mem share) mem kind own mem' shared
        (List.mem_reverse.1 (List.mem_of_find?_eq_some found)) brought⟩

end Library

namespace Run

open Library

variable {books : List Workbook} {ctx : RunContext} {group : String}

/-- Where the first round has a sheet of the group, every workbook with one is selected. -/
theorem name_mem_selected {options : Options} {selection : Selection} {dryRun : Bool}
    (gathers : Gathers books selection group) {sheet : IngestedSheet}
    (first : sheet ∈ (RunContext.select options books selection dryRun).ingestedOf
      (RunContext.select options books selection dryRun).selected)
    (clean : sheet.diagnostics = []) (own : sheet.group? = some group) {book : Workbook}
    (mem : book ∈ books) (share : book.MergesInto group) :
    book.name ∈ (RunContext.select options books selection dryRun).selected := by
  cases selection with
  | all =>
    rw [RunContext.selects_all.selected]
    refine List.mem_map_of_mem (List.mem_filter.2 ⟨mem, ?_⟩)
    obtain ⟨given, inside, merge, -⟩ := share
    exact CatalogEntry.isSome_kind_ofWorkbook inside (by rw [merge]; rfl)
  | named names =>
    obtain ⟨name, listed, known, found, given, inside, ingested⟩ :=
      RunContext.mem_ingestedOf_iff.1 first
    have share' : known.MergesInto group :=
      ⟨given, inside, (IngestedSheet.group?_eq_some_iff ingested clean).1 own⟩
    obtain rfl : known.name = name := by simpa using List.find?_some found
    rw [(RunContext.selects_named names).selected] at listed ⊢
    obtain ⟨namesake, chosen, same⟩ := List.mem_map.1 listed
    have chosen : Library.chosen books (names.filterMap (Catalog.ofWorkbooks books).resolve?)
        known = true := by
      rw [Library.chosen, ← same]
      exact (List.mem_filter.1 chosen).2
    exact List.mem_map_of_mem (List.mem_filter.2
      ⟨mem, gathers.chosen (List.mem_of_find?_eq_some found) share' mem share chosen⟩)

/-- Every merge table that a run validates has all sheets of its group among its sources. -/
def Whole (books : List Workbook) (ctx : RunContext) : Prop :=
  ∀ validated ∈ (ofContext ctx).validated, ∀ table ∈ validated.state.merges,
    table.referenceOnly = false → ∀ book ∈ books, ∀ sheet ∈ book.sheets,
      sheet.MergesInto table.name → book.originOf sheet.name ∈ table.sources

instance (books : List Workbook) (ctx : RunContext) : Decidable (Whole books ctx) := by
  unfold Whole
  infer_instance

/-- A merge table that serves more than look-ups has a sheet from the first round, and the places of
all sheets of its group that the run took. -/
theorem sources_of_mem_merges (h : ctx.Ingests) {table : MergeTable}
    (mem : table ∈ ctx.mergedState.merges) (own : table.referenceOnly = false) :
    (∃ sheet ∈ ctx.ingestedOf ctx.selected, sheet.group? = some table.name) ∧
      table.sources = (ctx.sheets.filter (inGroup table.name)).map (·.schema.origin) := by
  rcases (RunContext.mem_targets_iff h).1 (CompileState.merged_mem_targets mem own) with
    ⟨_, -, -, apart⟩ | ⟨group, outcome, first, merges, same⟩
  · cases apart
  · obtain ⟨shards, sharded⟩ := CompileState.shardMerge_table outcome.table
    obtain ⟨name, -⟩ := CompileState.name_of_mergeOutcome? merges
    obtain rfl := (ValidationTarget.merged.inj same).trans sharded
    rw [RunContext.mergeOutcome?_secondRound h] at merges
    obtain ⟨given, composed⟩ := MergeOutcome.exists_composed merges
    dsimp only
    rw [name]
    exact ⟨first, composed.sources⟩

/-- A merge table of a run, other than one for look-ups, has all sheets of a group that can be
gathered among its sources. -/
theorem mem_sources_of_gathers {options : Options} {selection : Selection} {dryRun : Bool}
    {validated : Validated}
    (h : (ofContext (RunContext.select options books selection dryRun)).validated = some validated)
    {table : MergeTable} (mem : table ∈ validated.state.merges) (own : table.referenceOnly = false)
    (gathers : Gathers books selection table.name) {book : Workbook} (inside : book ∈ books)
    {sheet : Sheet} (held : sheet ∈ book.sheets) (share : sheet.MergesInto table.name) :
    book.originOf sheet.name ∈ table.sources := by
  obtain ⟨reaches, same⟩ := validated_eq_some_iff.1 h
  rw [same, (Validated.ofState_parts _).2.1] at mem
  obtain ⟨⟨first, chosen, grouped⟩, sources⟩ := sources_of_mem_merges reaches.toIngests mem own
  have clean := reaches.first.isClean
  have listed := name_mem_selected gathers chosen (clean first chosen) grouped inside
    ⟨sheet, held, share⟩
  have found : (RunContext.select options books selection dryRun).workbook? book.name =
      some book :=
    find?_eq_of_named (gathers.named book inside ⟨sheet, held, share⟩) inside
  obtain ⟨taken, ingested⟩ : ∃ taken, IngestedSheet.ofSheet? sheet (book.originOf sheet.name)
      (RunContext.select options books selection dryRun).catalog.mergeGroups = some taken := by
    rw [← Option.isSome_iff_exists, IngestedSheet.isSome_ofSheet?, share.1]
    rfl
  have read := RunContext.mem_ingestedOf_iff.2 ⟨_, listed, book, found, sheet, held, ingested⟩
  rw [sources, ← Header.origin_of_compile? (IngestedSheet.compile?_of_ofSheet? ingested)]
  refine List.mem_map_of_mem (List.mem_filter.2 ⟨List.mem_append_left _ read, ?_⟩)
  exact beq_iff_eq.2 ((IngestedSheet.group?_eq_some_iff ingested (clean taken read)).2 share)

set_option maxRecDepth 100000 in
/-- The crates of the market are merged as a whole when one of their workbooks is selected. -/
theorem mem_sources_market : ∃ validated,
    (ofContext (RunContext.select Options.standard market (.named ["crate1"]) false)).validated =
      some validated ∧
      ∃ table ∈ validated.state.merges, table.name = "crates" ∧ table.referenceOnly = false ∧
        Gathers market (.named ["crate1"]) "crates" ∧
        ∀ book ∈ market, ∀ sheet ∈ book.sheets, sheet.MergesInto "crates" →
          book.originOf sheet.name ∈ table.sources := by
  have run : (ofContext (RunContext.select Options.standard market (.named ["crate1"])
      false)).validated.map (fun validated =>
        validated.state.merges.map fun table => (table.name, table.referenceOnly)) =
      some [("crates", false)] := by
    decide
  have gathers : Gathers market (.named ["crate1"]) "crates" := by
    decide
  obtain ⟨validated, reached, merges⟩ := Option.map_eq_some_iff.1 run
  obtain ⟨table, _, only, same, -⟩ := List.map_eq_cons_iff.1 merges
  obtain ⟨name, own⟩ := Prod.mk.inj same
  have mem : table ∈ validated.state.merges := by
    rw [only]
    exact List.mem_cons_self
  refine ⟨validated, reached, table, mem, name, own, gathers, fun book inside sheet held share => ?_⟩
  exact mem_sources_of_gathers reached mem own (name ▸ gathers) inside held (name ▸ share)

/-- A share of a group in a workbook that cannot be found by its name. -/
def namesakes : List Workbook :=
  [bookOf "A.xlsx" [], bookOf "A.xlsx" [sheetOf "s1" "#merge" "g,id,0" things [["1", "a"]]],
   bookOf "B.xlsx" [sheetOf "s2" "#merge" "g,id,0" things [["2", "b"]]]]

/-- A share of a group in a workbook that enumerations make one of their kind. -/
def shareAmongTypes : List Workbook :=
  [bookOf "W1.xlsx" [sheetOf "s1" "#merge" "g,id,0" things [["1", "a"]],
     sheetOf "types" "#type" "" enumColumns [["1", "color", "red", "1", "x"]]],
   bookOf "W2.xlsx" [sheetOf "s2" "#merge" "g,id,0" things [["2", "b"]]]]

set_option maxRecDepth 100000 in
/-- Where a workbook of the group is not found by its name, or the catalog knows another group or
another kind of it, a merge table can lack a sheet of its group. -/
theorem not_whole :
    ¬ Whole namesakes (RunContext.select Options.standard namesakes .all false) ∧
    ¬ Whole mixedGroups (RunContext.select Options.standard mixedGroups (.named ["M2.xlsx"]) false) ∧
    ¬ Whole shareAmongTypes
      (RunContext.select Options.standard shareAmongTypes (.named ["W1.xlsx"]) false) := by
  refine ⟨?_, ?_, ?_⟩ <;> decide

end Run

end DesignTables
