import DesignTables.Proofs.Compile.Parts
import DesignTables.Proofs.Compile.TableNames
import DesignTables.Proofs.Output.Values

/-!
# A selection gives what a run over everything gives

Two runs over one library are compared: one ingests all sheets, the other what it selected and what
that asks for. Where the library is well kept, everything that a selected table is validated
against reads the same in both. So the smaller run is as clean as the larger one, and its record
and shard files are among those of the larger one.
-/
namespace DesignTables

namespace RunContext

open Library

namespace PartOf

variable {few many : RunContext} {books : List Workbook}

theorem mem_targets (h : PartOf few many books) {target : ValidationTarget}
    (mem : target ∈ few.mergedState.targets) : target ∈ many.mergedState.targets := by
  rcases (mem_targets_iff h.ingests).1 mem with
    ⟨sheet, asked, data, rfl⟩ | ⟨group, outcome, held, found, rfl⟩
  · refine (mem_targets_iff h.reaches.toIngests).2 (.inl ⟨sheet, ?_, data, rfl⟩)
    rw [h.all]
    exact h.mem_first asked
  · refine (mem_targets_iff h.reaches.toIngests).2 (.inr ⟨group, outcome, ?_, ?_, rfl⟩)
    · obtain ⟨sheet, asked, named⟩ := held
      rw [h.all]
      exact ⟨sheet, h.mem_first asked, named⟩
    · rw [← h.mergeOutcome?_eq held]
      exact found

/-- A selected table is validated as in the run over everything. -/
theorem ofTarget_eq (h : PartOf few many books) {target : ValidationTarget}
    (mem : target ∈ few.mergedState.targets) :
    TableValidation.ofTarget target few.mergedState.validationContext =
      TableValidation.ofTarget target many.mergedState.validationContext :=
  TableValidation.ofTarget_congr (h.agreeOn mem)

theorem isClean_few (h : PartOf few many books)
    (clean : (Validated.ofState many.mergedState).state.isClean = true) :
    (Validated.ofState few.mergedState).state.isClean = true := by
  have all := (Run.isClean_ofState_iff.1 clean).2
  refine Run.isClean_ofState_iff.2 ⟨isClean_mergedState_iff.2 h.reaches_few, fun target mem => ?_⟩
  rw [h.ofTarget_eq mem]
  exact all target (h.mem_targets mem)

end PartOf

/-- In a well kept library no data table bears the name of a merge table. -/
theorem not_clashes {ctx : RunContext} {books : List Workbook} (kept : WellKept books)
    (h : ctx.Ingests) (sub : ctx.sheets ⊆ Library.sheets books) :
    ¬ (Validated.ofState ctx.mergedState).Clashes := by
  obtain ⟨tables, merges, -, -, -⟩ := Validated.ofState_parts ctx.mergedState
  rintro ⟨table, mem, -, data, merge, mem', -, same⟩
  rw [tables, tables_mergedState h] at mem
  rw [merges] at mem'
  have group : merge.name ∈ ctx.secondRound.mergeGroups := by
    rw [← names_merges h]
    exact List.mem_map_of_mem mem'
  obtain ⟨member, known, named⟩ := (mem_mergeGroups_secondRound_iff h).1 group
  have own : ∃ sheet ∈ ctx.sheets, sheet.schema = table.schema := by
    rcases List.mem_append.1 mem with mem | mem
    · obtain ⟨sheet, inside, rfl⟩ := List.mem_map.1 mem
      exact ⟨sheet, List.mem_append_left _ (List.mem_filter.1 inside).1, rfl⟩
    · obtain ⟨sheet, inside, rfl⟩ := List.mem_map.1 mem
      exact ⟨sheet, List.mem_append_right _ (List.mem_filter.1 inside).1, rfl⟩
  obtain ⟨sheet, known', schema⟩ := own
  refine kept.tables sheet (sub known') (by rw [schema, data]; decide) member (sub known) ?_
  rw [named, same, IngestedSheet.name, schema]

/-- Nothing is validated under the name of an enumeration table. -/
theorem absent_of_enumeration {ctx : RunContext} {books : List Workbook} (kept : WellKept books)
    (h : ctx.Ingests) (sub : ctx.sheets ⊆ Library.sheets books) {sheet : IngestedSheet}
    (known : sheet ∈ ctx.sheets) (enumeration : sheet.schema.kind = .enumeration) :
    ∀ target ∈ ctx.mergedState.targets, target.schema.name ≠ sheet.name := by
  intro target mem same
  rcases (mem_targets_iff h).1 mem with
    ⟨other, asked, data, rfl⟩ | ⟨group, outcome, held, found, rfl⟩
  · have one := eq_of_key_eq (nodup_names h) (List.mem_append_left _ asked) known same
    rw [one, enumeration] at data
    cases data
  · obtain ⟨member, asked, named⟩ := held
    have name : group = sheet.name := (CompileState.name_shardMerge found).symm.trans same
    exact kept.tables sheet (sub known) (by rw [enumeration]; decide) member
      (sub (List.mem_append_left _ asked)) (name ▸ named)

/-- In a well kept library every table is written with what its own validation gave. -/
theorem keepsApart {ctx : RunContext} {books : List Workbook} (kept : WellKept books)
    (h : ctx.Ingests) (sub : ctx.sheets ⊆ Library.sheets books) {validated : Validated}
    (done : (Run.ofContext ctx).validated = some validated) : validated.KeepsApart := by
  obtain ⟨-, same⟩ := Run.validated_eq_some_iff.1 done
  rw [Validated.keepsApart_iff_not_clashes done, same]
  exact not_clashes kept h sub

/-- Nothing is written over the cells of an enumeration table. -/
theorem unread_of_enumeration {ctx : RunContext} {books : List Workbook} (kept : WellKept books)
    (h : ctx.Ingests) (sub : ctx.sheets ⊆ Library.sheets books) {validated : Validated}
    (done : (Run.ofContext ctx).validated = some validated) {sheet : IngestedSheet}
    (known : sheet ∈ ctx.sheets) (enumeration : sheet.schema.kind = .enumeration) :
    validated.changedOf sheet.name = [] ∧
      ∀ row slot, validated.overlay.get? sheet.name row slot = none := by
  obtain ⟨-, same⟩ := Run.validated_eq_some_iff.1 done
  obtain ⟨-, -, targets, -, -⟩ := Validated.ofState_parts ctx.mergedState
  refine Validated.unread_of_absent done ?_
  rw [same, targets]
  exact absent_of_enumeration kept h sub known enumeration

namespace PartOf

variable {few many : RunContext} {books : List Workbook} {a b : Validated}

theorem subset_many (h : PartOf few many books) : many.sheets ⊆ Library.sheets books := by
  rw [h.sheets_many]
  exact List.Subset.refl _

/-- A validated table of the smaller run is written by the larger one, with the same values. -/
theorem mem_tables_of_target (h : PartOf few many books)
    (ha : (Run.ofContext few).validated = some a) (hb : (Run.ofContext many).validated = some b)
    {target : ValidationTarget} (known : target ∈ few.mergedState.targets) :
    target.written (a.changedOf target.schema.name) ∈ b.output.tables ∧
      ∀ row slot, (target.written (a.changedOf target.schema.name)).valueOf a.overlay row slot =
        (target.written (a.changedOf target.schema.name)).valueOf b.overlay row slot := by
  have apart := keepsApart h.kept h.ingests h.subset ha
  have apart' := keepsApart h.kept h.reaches.toIngests h.subset_many hb
  obtain ⟨-, eqa⟩ := Run.validated_eq_some_iff.1 ha
  obtain ⟨-, eqb⟩ := Run.validated_eq_some_iff.1 hb
  obtain ⟨-, -, targets, -, -⟩ := Validated.ofState_parts few.mergedState
  obtain ⟨-, -, targets', -, -⟩ := Validated.ofState_parts many.mergedState
  have mem : target ∈ a.state.targets := by rwa [eqa, targets]
  have mem' : target ∈ b.state.targets := by
    rw [eqb, targets']
    exact h.mem_targets known
  have result : a.resultOf target = b.resultOf target := by
    rw [eqa, eqb, Validated.resultOf_ofState, Validated.resultOf_ofState, h.ofTarget_eq known]
  obtain ⟨-, values⟩ := apart.written target mem
  obtain ⟨written, values'⟩ := apart'.written target mem'
  rw [apart.changedOf ha mem, result]
  refine ⟨written, fun row slot => ?_⟩
  rw [values' row slot, ← result]
  exact values row slot

/-- A selected enumeration table is written by the larger run as well, with the values that it has. -/
theorem mem_tables_of_enumeration (h : PartOf few many books)
    (ha : (Run.ofContext few).validated = some a) (hb : (Run.ofContext many).validated = some b)
    {sheet : IngestedSheet} (asked : sheet ∈ few.ingestedOf few.selected)
    (enumeration : sheet.schema.kind = .enumeration) :
    ⟨sheet.schema, sheet.rows, a.changedOf sheet.name, none⟩ ∈ b.output.tables ∧
      ∀ row slot, OutputTable.valueOf ⟨sheet.schema, sheet.rows, a.changedOf sheet.name, none⟩
        a.overlay row slot = OutputTable.valueOf
          ⟨sheet.schema, sheet.rows, a.changedOf sheet.name, none⟩ b.overlay row slot := by
  have asked' : sheet ∈ many.ingestedOf many.selected := by
    rw [h.all]
    exact h.mem_first asked
  obtain ⟨changed, unread⟩ := unread_of_enumeration h.kept h.ingests h.subset ha
    (List.mem_append_left _ asked) enumeration
  obtain ⟨changed', unread'⟩ := unread_of_enumeration h.kept h.reaches.toIngests h.subset_many hb
    (List.mem_append_left _ asked') enumeration
  obtain ⟨-, eqb⟩ := Run.validated_eq_some_iff.1 hb
  obtain ⟨tables, -, -, -, -⟩ := Validated.ofState_parts many.mergedState
  constructor
  · refine (Validated.mem_tables_output_iff hb).2
      (.inr ⟨sheet.asTable false, ?_, rfl, enumeration, ?_⟩)
    · rw [eqb, tables, tables_mergedState h.reaches.toIngests]
      refine List.mem_append_left _ (List.mem_map_of_mem (List.mem_filter.2 ⟨asked', ?_⟩))
      rw [IngestedSheet.isMerge, enumeration]
      rfl
    · rw [changed]
      exact congrArg (OutputTable.mk sheet.schema sheet.rows · none) changed'.symm
  · intro row slot
    have name (overlay : Overlay) : (⟨sheet.schema, sheet.rows, a.changedOf sheet.name, none⟩ :
        OutputTable).schema.name = sheet.name := rfl
    rw [OutputTable.valueOf, OutputTable.valueOf, name a.overlay, unread, unread']

/-- What the smaller run writes the larger one writes as well, with the same values. -/
theorem mem_tables (h : PartOf few many books) (ha : (Run.ofContext few).validated = some a)
    (hb : (Run.ofContext many).validated = some b) {table : OutputTable}
    (mem : table ∈ a.output.tables) :
    table ∈ b.output.tables ∧
      ∀ row slot, table.valueOf a.overlay row slot = table.valueOf b.overlay row slot := by
  obtain ⟨-, eqa⟩ := Run.validated_eq_some_iff.1 ha
  obtain ⟨tables, -, targets, -, -⟩ := Validated.ofState_parts few.mergedState
  rcases (Validated.mem_tables_output_iff ha).1 mem with
    ⟨target, known, rfl⟩ | ⟨loaded, known, own, enumeration, rfl⟩
  · rw [eqa, targets] at known
    exact h.mem_tables_of_target ha hb known
  · rw [eqa, tables, tables_mergedState h.ingests] at known
    rcases List.mem_append.1 known with first | second
    · obtain ⟨sheet, inside, rfl⟩ := List.mem_map.1 first
      exact h.mem_tables_of_enumeration ha hb (List.mem_filter.1 inside).1 enumeration
    · obtain ⟨sheet, -, rfl⟩ := List.mem_map.1 second
      cases own

/-- The record and shard files of the smaller run are files of the larger one. -/
theorem mem_files (h : PartOf few many books) {a b : Validated}
    (ha : (Run.ofContext few).validated = some a) (hb : (Run.ofContext many).validated = some b)
    {options : Options} {file : OutputFile} (mem : file ∈ a.output.files options)
    (records : file.role = .records ∨ file.role = .shard) : file ∈ b.output.files options := by
  obtain ⟨table, known, mem'⟩ := Output.mem_dataFiles_of_mem_files mem records
  obtain ⟨known', same⟩ := h.mem_tables ha hb known
  have file' : file ∈ Output.dataFiles options b.overlay table :=
    Output.dataFiles_congr same options ▸ mem'
  rw [Output.files, List.mem_append, List.mem_append, List.mem_flatMap]
  exact .inl (.inl ⟨table, known', List.mem_append_left _ file'⟩)

end PartOf

section

variable {options : Options} {books : List Workbook} {dryRun : Bool}

theorem selects_all : (select options books .all dryRun).Selects books
    fun book => (CatalogEntry.ofWorkbook book).kind.isSome where
  workbooks := rfl
  catalog := rfl
  selected := map_name_filter_entries books fun entry => entry.kind.isSome

theorem selects_named (names : List String) : (select options books (.named names) dryRun).Selects
    books (chosen books (names.filterMap (Catalog.ofWorkbooks books).resolve?)) where
  workbooks := rfl
  catalog := rfl
  selected := expand_eq books _

/-- Selecting everything ingests every table sheet. -/
theorem ingestedOf_all (kept : WellKept books) :
    (select options books .all dryRun).ingestedOf (select options books .all dryRun).selected =
      Library.sheets books := by
  rw [selects_all.ingested kept, Library.sheets]
  refine flatMap_filter_of_empty fun book _ none => ?_
  by_contra filled
  rw [isSome_kind_iff.2 filled] at none
  cases none

/-- Selecting everything leaves nothing to look for. -/
theorem secondary_all (kept : WellKept books)
    (admits : CompileState.empty.AdmitsAll (Library.sheets books)) :
    (select options books .all dryRun).secondary = [] := by
  have selects : (select options books .all dryRun).Selects books _ := selects_all
  have first : CompileState.empty.AdmitsAll ((select options books .all dryRun).ingestedOf
      (select options books .all dryRun).selected) := by
    rw [ingestedOf_all kept]
    exact admits
  rw [List.eq_nil_iff_forall_not_mem]
  intro name mem
  obtain ⟨wanted, new⟩ := mem_secondary_iff.1 mem
  have listed := selects.toOver.wanted_subset kept admits.isClean wanted
  obtain ⟨book, inside, rfl⟩ := List.mem_map.1 listed
  obtain ⟨known, held⟩ := List.mem_filter.1 inside
  obtain ⟨sheet, share, -⟩ := holds_iff.1 held
  have loaded := (selects.isLoaded_iff kept first known).2
    (isSome_kind_iff.2 (List.ne_nil_of_mem share))
  rw [new] at loaded
  cases loaded

/-- A selection takes part of what a run over everything takes, when that one reaches validation. -/
theorem partOf_select (kept : WellKept books) (names : List String)
    (reaches : (select options books .all dryRun).Reaches) :
    (select options books (.named names) dryRun).PartOf (select options books .all dryRun)
      books := by
  have all : (select options books .all dryRun).ingestedOf
      (select options books .all dryRun).selected = Library.sheets books := ingestedOf_all kept
  have admits : CompileState.empty.AdmitsAll (Library.sheets books) := by
    rw [← all]
    exact reaches.first
  have selects : (select options books (.named names) dryRun).Selects books _ := selects_named names
  have sub : ((select options books (.named names) dryRun).ingestedOf
      (select options books (.named names) dryRun).selected).Subperm (Library.sheets books) := by
    rw [selects.ingested kept]
    exact subperm_flatMap List.filter_sublist.subperm _
  have first := CompileState.admitsAll_of_subperm admits sub
  refine ⟨kept, all, ?_, reaches, ?_, ?_⟩
  · rw [secondary_all kept admits]
    rfl
  · exact selects.suffices kept admits.isClean admits.nodup first fun a ha b hb chosen near =>
      chosen_of_companions kept admits.isClean ha hb chosen near
  · refine (selects.toOver.unknownTargets_eq_nil_iff first).2 fun asking mem name needed => ?_
    exact (selects_all.toOver.unknownTargets_eq_nil_iff reaches.first).1 reaches.targets asking
      (all ▸ sub.subset mem) name needed

end

end RunContext

namespace Run

open Library

/-- When a run over everything finds no problem, a run over names that all select something finds
none either, and each of its record and shard files is a file of the run over everything, with the
same path and the same text. -/
def Complete (options : Options) (books : List Workbook) (names : List String) (dryRun : Bool) :
    Prop :=
  let named := RunContext.select options books (.named names) dryRun
  let all := RunContext.select options books .all dryRun
  named.unknown = [] → (ofContext all).finalState.diagnostics = [] →
    (ofContext named).finalState.diagnostics = [] ∧
      ∀ file ∈ (ofContext named).files named, file.role = .records ∨ file.role = .shard →
        file ∈ (ofContext all).files all

instance (options : Options) (books : List Workbook) (names : List String) (dryRun : Bool) :
    Decidable (Complete options books names dryRun) := by
  unfold Complete
  infer_instance

/-- Over a well kept library reference loading is complete. -/
theorem complete_of_wellKept {books : List Workbook} (kept : Library.WellKept books)
    (options : Options) (names : List String) (dryRun : Bool) :
    Complete options books names dryRun := by
  intro _ clean
  let named := RunContext.select options books (.named names) dryRun
  let all := RunContext.select options books .all dryRun
  obtain ⟨reaches, validated⟩ := stage_eq_emit_iff.1 (stage_of_clean clean)
  have part : named.PartOf all books := RunContext.partOf_select kept names reaches
  have cleanNamed := part.isClean_few validated
  have emits : (ofContext named).stage = .emit :=
    stage_eq_emit_iff.2 ⟨part.reaches_few, cleanNamed⟩
  refine ⟨?_, fun file mem records => ?_⟩
  · rw [finalState_of_emit emits]
    exact CompileState.isClean_iff.1 cleanNamed
  · have found := validated_eq_some_iff.2 ⟨part.reaches_few, rfl⟩
    have found' := validated_eq_some_iff.2 ⟨reaches, rfl⟩
    obtain ⟨⟨-, wet⟩, mem⟩ := (mem_files_iff found).1 mem
    exact (mem_files_iff found').2 ⟨⟨validated, wet⟩, part.mem_files found found' mem records⟩

/-- The columns of a table of named things. -/
def things : List (String × String) := [("id", "key,int"), ("name", "string")]

/-- The columns of an enumeration sheet. -/
def enumColumns : List (String × String) :=
  [("type_id", "key,int"), ("type_group", "string"), ("type_text", "string"),
   ("type_value", "string"), ("type_desc", "string")]

/-- A shop whose goods have a color, a label and an item, and the workbooks it refers to. -/
def market : List Workbook :=
  [bookOf "shop.xlsx" [sheetOf "shop" "#data" "" [("id", "key,int"), ("color", "type<color>"),
     ("label", "localtext"), ("good", "int,check<item/id>"), ("crate", "int,check<crates/id>")]
     [["1", "RED", "hello", "7", "2"]]],
   bookOf "types.xlsx" [sheetOf "types" "#type" "" enumColumns [["1", "color", "red", "1", "x"]]],
   bookOf "texts.xlsx" [sheetOf "texts" "#localtext" "" [("key", "key,string"), ("en", "string")]
     [["hello", "Hello"]]],
   bookOf "crate1.xlsx" [sheetOf "crate1" "#merge" "crates,id,1" things [["1", "oak"]]],
   bookOf "item.xlsx" [sheetOf "item" "#data" "" things [["7", "rope"]]],
   bookOf "crate2.xlsx" [sheetOf "crate2" "#merge" "crates,id,1" things [["2", "fir"]]],
   bookOf "other.xlsx" [sheetOf "other" "#data" "" things [["1", "spare"]]]]

set_option maxRecDepth 100000 in
/-- The shop alone is compiled as in the run over the whole market: its workbooks are brought for
look-ups, the crates in both parts, and the rest of the market is left out. -/
theorem complete_market :
    let named := RunContext.select Options.standard market (.named ["shop"]) false
    Library.WellKept market ∧ named.unknown = [] ∧
      (ofContext (RunContext.select Options.standard market .all false)).finalState.diagnostics =
        [] ∧
      named.selected = ["shop.xlsx"] ∧
      named.secondary = ["types.xlsx", "texts.xlsx", "crate1.xlsx", "crate2.xlsx", "item.xlsx"] ∧
      ((ofContext named).files named).map (·.role) =
        [.records, .schemaCode, .enumCode, .localization] ∧
      Complete Options.standard market ["shop"] false := by
  have kept : Library.WellKept market := by decide +kernel
  exact ⟨kept, by decide +kernel, by decide +kernel, by decide +kernel, by decide +kernel,
    by decide +kernel, complete_of_wellKept kept Options.standard ["shop"] false⟩

/-- Two workbooks of one name: the one that is looked up by the name has no sheets. -/
def twice : List Workbook :=
  [bookOf "A.xlsx" [sheetOf "item" "#data" "" things [["1", "a"]]], bookOf "A.xlsx" []]

set_option maxRecDepth 100000 in
theorem not_complete_twice :
    ¬ Complete Options.standard twice ["A.xlsx"] false := by
  decide +kernel

/-- Enumerations in a workbook that localized strings make one of their kind. -/
def mixedKinds : List Workbook :=
  [bookOf "D.xlsx" [sheetOf "shop" "#data" "" [("id", "key,int"), ("color", "type<color>")]
     [["1", "RED"]]],
   bookOf "M.xlsx" [sheetOf "types" "#type" "" enumColumns [["1", "color", "red", "1", "x"]],
     sheetOf "texts" "#localtext" "" [("key", "key,string"), ("en", "string")]
       [["hello", "Hello"]]]]

set_option maxRecDepth 100000 in
theorem not_complete_mixedKinds :
    ¬ Complete Options.standard mixedKinds ["D.xlsx"] false := by
  decide +kernel

/-- What only the run over the names writes under a path keeps reference loading from being
complete. -/
theorem not_complete_of_recordsAt {options : Options} {books : List Workbook} {names : List String}
    {dryRun : Bool} (resolved : (RunContext.select options books (.named names) dryRun).unknown = [])
    (clean : (ofContext (RunContext.select options books .all dryRun)).finalState.diagnostics = [])
    {path : String} {content : Rendered}
    (own : content ∈ recordsAt (RunContext.select options books (.named names) dryRun) path)
    (other : content ∉ recordsAt (RunContext.select options books .all dryRun) path) :
    ¬ Complete options books names dryRun := by
  intro complete
  obtain ⟨file, wrote, place, records, rfl⟩ := mem_recordsAt_iff.1 own
  obtain ⟨-, files⟩ := complete resolved clean
  exact other (mem_recordsAt_iff.2 ⟨file, files file wrote records, place, records, rfl⟩)

set_option maxRecDepth 100000 in
/-- A run over a name does not write a table that is only looked up. -/
example :
    let book : String → String → Workbook := fun name other =>
      bookOf (name ++ ".xlsx")
        [sheetOf name "#data" "" [("id", "key,int"), ("other", other)] [["1", "1"]]]
    let ctx := RunContext.select Options.standard
      [book "shop" "int,check<item/id>", book "item" "int"] (.named ["shop"]) false
    ((ofContext ctx).files ctx).map (·.path) =
      ["output/tables/ShopTable.json", "output/scripts/ShopTable.cs"] := by
  decide +kernel

/-- A share of a group in a workbook that a later share makes one of another group. -/
def mixedGroups : List Workbook :=
  [bookOf "M1.xlsx" [sheetOf "s1" "#merge" "g1,id,0" things [["1", "a"]],
     sheetOf "s2" "#merge" "g2,id,0" things [["1", "a"]]],
   bookOf "M2.xlsx" [sheetOf "s3" "#merge" "g1,id,0" things [["2", "b"]]]]

set_option maxRecDepth 100000 in
theorem not_complete_mixedGroups :
    ¬ Complete Options.standard mixedGroups ["M2.xlsx"] false := by
  decide +kernel

/-- Tables whose origins have one name in small letters. -/
def twoSpellings : List Workbook :=
  [bookOf "D.xlsx" [sheetOf "shop" "#data" "" [("id", "key,int"), ("good", "int,check<item/id>")]
     [["1", "7"]]],
   bookOf "I.xlsx" [sheetOf "item" "#data" "" things [["8", "a"]]],
   bookOf "J.xlsx" [sheetOf "Item" "#data" "" things [["7", "b"]]]]

set_option maxRecDepth 100000 in
theorem not_complete_twoSpellings :
    ¬ Complete Options.standard twoSpellings ["D.xlsx"] false := by
  decide +kernel

/-- A table that is referred to in a workbook with a later share of such a group. -/
def sharedBook : List Workbook :=
  let tagged := [("id", "key,string"), ("tag", "string,origin,change<txt>"), ("txt", "string")]
  [bookOf "W1.xlsx" [sheetOf "p1" "#merge" "g,id,0" tagged [["p", "x", "a"]]],
   bookOf "W2.xlsx" [sheetOf "i" "#data" "" [("id", "key,string")] [["k"]],
     sheetOf "p2" "#merge" "g,id,0" tagged [["q", "x", "b"]]],
   bookOf "D.xlsx" [sheetOf "d1" "#data" "" [("id", "key,string,check<i/id>")] [["k"]],
     sheetOf "d2" "#data" "" [("id", "key,string"), ("tag", "string,check<g/tag>")]
       [["u", "x"]]]]

set_option maxRecDepth 100000 in
theorem not_complete_sharedBook : ¬ Complete Options.standard sharedBook ["D.xlsx"] false := by
  have own : ⟨"[\n\t\x7b\n\t\t\"id\": \"u\",\n\t\t\"tag\": \"b\"\n\t\x7d\n]", 1⟩ ∈
      recordsAt (RunContext.select Options.standard sharedBook (.named ["D.xlsx"]) false)
        "output/tables/D2Table.json" := by decide +kernel
  exact not_complete_of_recordsAt (by decide +kernel) (by decide +kernel) own (by decide +kernel)

/-- A table that bears the name of a merge group. -/
def sharedName : List Workbook :=
  let noted := [("id", "key,string"), ("note", "string,change<id>")]
  [bookOf "A.xlsx" [sheetOf "g" "#data" "" noted [["a", "x"]]],
   bookOf "B.xlsx" [sheetOf "p" "#merge" "g,id,0" noted
     [["k", "x"], ["l", "x"], ["m", "x"], ["n", "x"]]]]

set_option maxRecDepth 100000 in
theorem not_complete_sharedName : ¬ Complete Options.standard sharedName ["B.xlsx"] false := by
  have own : ⟨"[\n\t\x7b\n\t\t\"id\": \"k\",\n\t\t\"note\": \"k\"\n\t\x7d," ++
        "\n\t\x7b\n\t\t\"id\": \"l\",\n\t\t\"note\": \"l\"\n\t\x7d," ++
        "\n\t\x7b\n\t\t\"id\": \"m\",\n\t\t\"note\": \"m\"\n\t\x7d," ++
        "\n\t\x7b\n\t\t\"id\": \"n\",\n\t\t\"note\": \"n\"\n\t\x7d\n]", 4⟩ ∈
      recordsAt (RunContext.select Options.standard sharedName (.named ["B.xlsx"]) false)
        "output/tables/GTable.json" := by decide +kernel
  exact not_complete_of_recordsAt (by decide +kernel) (by decide +kernel) own (by decide +kernel)

/-- Without any one of the conditions of a well kept library, taken in their order, reference
loading is not complete. -/
theorem not_complete :
    ¬ Complete Options.standard twice ["A.xlsx"] false ∧
    ¬ Complete Options.standard mixedKinds ["D.xlsx"] false ∧
    ¬ Complete Options.standard mixedGroups ["M2.xlsx"] false ∧
    ¬ Complete Options.standard twoSpellings ["D.xlsx"] false ∧
    ¬ Complete Options.standard sharedBook ["D.xlsx"] false ∧
    ¬ Complete Options.standard sharedName ["B.xlsx"] false :=
  ⟨not_complete_twice, not_complete_mixedKinds, not_complete_mixedGroups,
    not_complete_twoSpellings, not_complete_sharedBook, not_complete_sharedName⟩

end Run

end DesignTables
