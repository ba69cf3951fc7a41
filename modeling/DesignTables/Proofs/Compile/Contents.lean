import DesignTables.Proofs.Compile.Course
import DesignTables.Proofs.Index.Unions

/-!
# What the state of a run holds when it is validated

Its tables are the sheets of both rounds in order, those of merge groups left out; these wait, and
their groups bring the merge tables. The names of all sheets are pairwise different. An index reads
as in the first sheet that has the key, and where no sheet has it as in the first merge group.
-/
namespace DesignTables

namespace RunContext

/-- All sheets of a run in the order in which they are taken. -/
def sheets (ctx : RunContext) : List IngestedSheet :=
  ctx.ingestedOf ctx.selected ++ ctx.ingestedOf ctx.secondary

/-- The tables of some sheets. -/
def tablesOf (sheets : List IngestedSheet) (referenceOnly : Bool) : List LoadedTable :=
  (sheets.filter (!·.isMerge)).map (·.asTable referenceOnly)

/-- The sheets that wait for their merge groups. -/
def pendingOf (sheets : List IngestedSheet) (referenceOnly : Bool) : List MergeSheet :=
  (sheets.filter (·.isMerge)).map (·.asPending referenceOnly)

variable {ctx : RunContext}

/-- The sheets of some names are those of the first workbooks of these names. -/
theorem mem_ingestedOf_iff {names : List String} {sheet : IngestedSheet} :
    sheet ∈ ctx.ingestedOf names ↔ ∃ name ∈ names, ∃ book, ctx.workbook? name = some book ∧
      ∃ given ∈ book.sheets, IngestedSheet.ofSheet? given (book.originOf given.name)
        ctx.catalog.mergeGroups = some sheet := by
  simp only [ingestedOf, sheetsOf, ingestSheet, List.mem_filterMap, List.mem_flatMap, List.mem_map]
  constructor
  · rintro ⟨_, ⟨book, ⟨name, listed, found⟩, given, mem, rfl⟩, ingested⟩
    exact ⟨name, listed, book, found, given, mem, ingested⟩
  · rintro ⟨name, listed, book, found, given, mem, ingested⟩
    exact ⟨(book, given), ⟨book, ⟨name, listed, found⟩, given, mem, rfl⟩, ingested⟩

theorem mem_ingestedOf {names : List String} {sheet : IngestedSheet}
    (h : sheet ∈ ctx.ingestedOf names) :
    ∃ given origin, IngestedSheet.ofSheet? given origin ctx.catalog.mergeGroups = some sheet := by
  obtain ⟨_, -, _, -, given, -, ingested⟩ := mem_ingestedOf_iff.1 h
  exact ⟨given, _, ingested⟩

theorem mem_sheets {sheet : IngestedSheet} (h : sheet ∈ ctx.sheets) :
    ∃ given origin, IngestedSheet.ofSheet? given origin ctx.catalog.mergeGroups = some sheet :=
  (List.mem_append.1 h).elim mem_ingestedOf mem_ingestedOf

theorem names_firstRound
    (h : CompileState.empty.AdmitsAll (ctx.ingestedOf ctx.selected)) :
    ctx.firstRound.names = (ctx.ingestedOf ctx.selected).map (·.name) := by
  rw [firstRound_eq h, CompileState.names_gatherAll]
  exact List.nil_append _

/-- No two sheets of a run that ingests them without a problem share a name. -/
theorem nodup_names (h : ctx.Ingests) : (ctx.sheets.map (·.name)).Nodup := by
  rw [sheets, List.map_append, List.nodup_append']
  refine ⟨h.first.nodup, h.second.nodup, ?_⟩
  intro name first second
  obtain ⟨sheet, mem, rfl⟩ := List.mem_map.1 second
  exact h.second.isNew sheet mem (by rw [names_firstRound h.first]; exact first)

theorem tables_firstRound
    (h : CompileState.empty.AdmitsAll (ctx.ingestedOf ctx.selected)) :
    ctx.firstRound.tables = tablesOf (ctx.ingestedOf ctx.selected) false := by
  rw [firstRound_eq h, CompileState.tables_gatherAll]
  exact List.nil_append _

theorem mergeSheets_firstRound
    (h : CompileState.empty.AdmitsAll (ctx.ingestedOf ctx.selected)) :
    ctx.firstRound.mergeSheets = pendingOf (ctx.ingestedOf ctx.selected) false := by
  rw [firstRound_eq h, CompileState.mergeSheets_gatherAll]
  exact List.nil_append _

theorem tables_secondRound (h : ctx.Ingests) :
    ctx.secondRound.tables = tablesOf (ctx.ingestedOf ctx.selected) false ++
      tablesOf (ctx.ingestedOf ctx.secondary) true := by
  rw [secondRound_eq h, ← tables_firstRound h.first]
  exact CompileState.tables_gatherAll ..

theorem mergeSheets_secondRound (h : ctx.Ingests) :
    ctx.secondRound.mergeSheets = pendingOf (ctx.ingestedOf ctx.selected) false ++
      pendingOf (ctx.ingestedOf ctx.secondary) true := by
  rw [secondRound_eq h, ← mergeSheets_firstRound h.first]
  exact CompileState.mergeSheets_gatherAll ..

theorem merges_secondRound (h : ctx.Ingests) : ctx.secondRound.merges = [] := by
  rw [secondRound_eq h, CompileState.merges_gatherAll, firstRound_eq h.first,
    CompileState.merges_gatherAll]
  rfl

theorem tables_mergedState (h : ctx.Ingests) :
    ctx.mergedState.tables = tablesOf (ctx.ingestedOf ctx.selected) false ++
      tablesOf (ctx.ingestedOf ctx.secondary) true := by
  rw [mergedState, CompileState.buildMerges_eq, ← tables_secondRound h, CompileState.withOutcomes]

theorem schemas_mergedState (h : ctx.Ingests) :
    ctx.mergedState.tables.map (·.schema) =
      (ctx.sheets.filter (!·.isMerge)).map (·.schema) := by
  rw [tables_mergedState h, List.map_append, sheets, List.filter_append, List.map_append, tablesOf,
    tablesOf, List.map_map, List.map_map]
  rfl

/-- No two tables that are not merged share a name. -/
theorem nodup_tables (h : ctx.Ingests) :
    (ctx.mergedState.tables.map (·.schema.name)).Nodup := by
  have names : ctx.mergedState.tables.map (·.schema.name) =
      (ctx.sheets.filter (!·.isMerge)).map (·.name) := by
    have schemas := congrArg (List.map Schema.name) (schemas_mergedState h)
    rw [List.map_map, List.map_map] at schemas
    exact schemas
  rw [names]
  exact (nodup_names h).sublist (List.filter_sublist.map _)

theorem merges_mergedState (h : ctx.Ingests) :
    ctx.mergedState.merges = ctx.secondRound.mergeOutcomes.map fun outcome =>
      (CompileState.shardMerge outcome.table).1 := by
  rw [mergedState, CompileState.buildMerges_eq, CompileState.withOutcomes, merges_secondRound h]
  exact List.nil_append _

theorem name_of_mem_merges (h : ctx.Ingests) {table : MergeTable}
    (mem : table ∈ ctx.mergedState.merges) : table.schema.name = table.name := by
  rw [merges_mergedState h, List.mem_map] at mem
  obtain ⟨outcome, mem, same⟩ := mem
  obtain ⟨name, schema⟩ := CompileState.name_of_mem_mergeOutcomes mem
  rw [← same, name, schema]

/-- The merge tables are named after the groups, in the order of these. -/
theorem names_merges (h : ctx.Ingests) :
    ctx.mergedState.merges.map (·.name) = ctx.secondRound.mergeGroups := by
  rw [merges_mergedState h, List.map_map, ← CompileState.names_mergeOutcomes]
  exact List.map_congr_left fun outcome mem => (CompileState.name_of_mem_mergeOutcomes mem).1

/-- No two merge tables share a name. -/
theorem nodup_merges (h : ctx.Ingests) : (ctx.mergedState.merges.map (·.name)).Nodup := by
  rw [names_merges h]
  exact CompileState.nodup_mergeGroups _

/-- A value of an origin resolves as in the first sheet that indexes it, and else as in the first
merge group. -/
theorem resolve?_mergedState (h : ctx.Ingests) (origin raw : String) :
    ctx.mergedState.references.resolve? origin raw =
      (ctx.sheets.findSome? fun sheet => sheet.indexedOrigins.resolve? origin raw).or
        (ctx.secondRound.mergeOutcomes.findSome? fun outcome =>
          outcome.origins.resolve? origin raw) := by
  have first : ctx.firstRound.references.resolve? origin raw =
      (ctx.ingestedOf ctx.selected).findSome? fun sheet =>
        sheet.indexedOrigins.resolve? origin raw := by
    rw [firstRound_eq h.first, CompileState.references_gatherAll, ReferenceIndex.resolve?_foldl_absorb]
    exact Option.none_or
  have second : ctx.secondRound.references.resolve? origin raw =
      ctx.sheets.findSome? fun sheet => sheet.indexedOrigins.resolve? origin raw := by
    rw [secondRound_eq h, CompileState.references_gatherAll, ReferenceIndex.resolve?_foldl_absorb,
      first, sheets, List.findSome?_append]
  rw [mergedState, CompileState.buildMerges_eq, CompileState.withOutcomes,
    ReferenceIndex.resolve?_foldl_absorb, second]

/-- A cell has the element count of the first sheet that counts it, and else that of the first
merge group. -/
theorem size_mergedState (h : ctx.Ingests) (table : String) (slot row : Nat) :
    ctx.mergedState.sizes.get? table slot row =
      (ctx.sheets.findSome? fun sheet => sheet.indexedSizes.get? table slot row).or
        (ctx.secondRound.mergeOutcomes.findSome? fun outcome =>
          outcome.sizes.get? table slot row) := by
  have first : ctx.firstRound.sizes.get? table slot row =
      (ctx.ingestedOf ctx.selected).findSome? fun sheet =>
        sheet.indexedSizes.get? table slot row := by
    rw [firstRound_eq h.first, CompileState.sizes_gatherAll, SizeIndex.get?_foldl_absorb]
    exact Option.none_or
  have second : ctx.secondRound.sizes.get? table slot row =
      ctx.sheets.findSome? fun sheet => sheet.indexedSizes.get? table slot row := by
    rw [secondRound_eq h, CompileState.sizes_gatherAll, SizeIndex.get?_foldl_absorb, first, sheets,
      List.findSome?_append]
  rw [mergedState, CompileState.buildMerges_eq, CompileState.withOutcomes,
    SizeIndex.get?_foldl_absorb, second]

end RunContext

namespace Validated

/-- The result of validating a table of the run. -/
def resultOf (validated : Validated) (target : ValidationTarget) : TableValidation :=
  TableValidation.ofTarget target validated.state.validationContext

theorem resultOf_ofState (state : CompileState) (target : ValidationTarget) :
    (Validated.ofState state).resultOf target =
      TableValidation.ofTarget target state.validationContext := rfl

/-- Validating changes nothing of a state but its diagnostics. -/
theorem ofState_parts (state : CompileState) :
    let validated := Validated.ofState state
    validated.state.tables = state.tables ∧ validated.state.merges = state.merges ∧
      validated.state.targets = state.targets ∧
      validated.results = validated.state.targets.map validated.resultOf ∧
      validated.overlay = validated.results.foldl
        (fun overlay result => overlay.absorb result.overlay) Overlay.empty :=
  ⟨rfl, rfl, rfl, rfl, rfl⟩

end Validated

end DesignTables
