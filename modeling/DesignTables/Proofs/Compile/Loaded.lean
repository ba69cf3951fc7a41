import DesignTables.Proofs.Compile.TableNames
import DesignTables.Proofs.Compile.Integrity
import DesignTables.Proofs.Ingest.Rows
import DesignTables.Proofs.Merge.Placement

/-!
# The tables of a run beside its index of origins and its overlay

The index of a run is that of its tables, one after the other and the merge tables last. A value
that is written is the one that the validation of its own table gave, where no other validated
table bears the name.
-/
namespace DesignTables

namespace CompileState

/-- All tables of a state, also those that serve look-ups only. -/
def loadedTargets (state : CompileState) : List ValidationTarget :=
  (state.tables.map fun table => .sheet table.schema table.rows) ++ state.merges.map .merged

theorem targets_subset_loadedTargets (state : CompileState) : state.targets ⊆ state.loadedTargets := by
  intro target mem
  rcases List.mem_append.1 mem with mem | mem
  · obtain ⟨table, known, rfl⟩ := List.mem_map.1 mem
    exact List.mem_append_left _ (List.mem_map.2 ⟨table, (List.mem_filter.1 known).1, rfl⟩)
  · obtain ⟨table, known, rfl⟩ := List.mem_map.1 mem
    exact List.mem_append_right _ (List.mem_map_of_mem (List.mem_filter.1 known).1)

end CompileState

namespace ValidationTarget

deriving instance DecidableEq for ValidationTarget

/-- The values of the table by their origins. -/
def origins (target : ValidationTarget) : ReferenceIndex :=
  RowIngest.originsOf target.schema target.rows

/-- What the index of a table knows are values of its rows. -/
theorem tracesTo_origins (target : ValidationTarget) :
    target.origins.TracesTo target.schema target.rows :=
  RowIngest.tracesTo_originsOf target.schema target.rows

/-- Only what some column is indexed under resolves. -/
theorem exists_origin {target : ValidationTarget} {origin raw : String}
    (found : (target.origins.resolve? origin raw).isSome) :
    ∃ given ∈ target.schema.slots, given.1.origin.map Text.lower = some origin := by
  obtain ⟨column, slot, mem, ⟨name, named, rfl⟩, -⟩ := target.tracesTo_origins origin raw found
  exact ⟨(column, slot), mem, by rw [named]; rfl⟩

end ValidationTarget

namespace MergeOutcome

variable {group : String} {sheets : List IngestedSheet} {referenceOnly : Bool}
  {outcome : MergeOutcome}

/-- The rows of a merge table are numbered from one. -/
theorem nodup_numbers_ofSheets? (h : ofSheets? group sheets referenceOnly = some outcome) :
    (outcome.table.rows.map (·.row)).Nodup := by
  obtain ⟨given, composed⟩ := exists_composed h
  have numbers : outcome.table.rows.map (·.row) = (given.zipIdx.map Prod.snd).map (· + 1) := by
    rw [composed.rows, List.map_map, List.map_map]
    rfl
  rw [numbers, List.zipIdx_map_snd]
  exact List.Nodup.map (fun _ _ => Nat.succ.inj) List.nodup_range'

end MergeOutcome

namespace RunContext

variable {ctx : RunContext}

/-- A value of an origin resolves as in the first table of the run that has it. -/
theorem resolve?_loadedTargets (h : ctx.Ingests) (origin raw : String) :
    ctx.mergedState.references.resolve? origin raw =
      ctx.mergedState.loadedTargets.findSome? fun target => target.origins.resolve? origin raw := by
  have tables : ctx.mergedState.tables.map (fun table : LoadedTable =>
      ValidationTarget.sheet table.schema table.rows) =
        (ctx.sheets.filter (!·.isMerge)).map fun sheet => .sheet sheet.schema sheet.rows := by
    rw [tables_mergedState h, List.map_append, sheets, List.filter_append, List.map_append, tablesOf,
      tablesOf, List.map_map, List.map_map]
    rfl
  have sheets : ((ctx.sheets.filter (!·.isMerge)).findSome? fun sheet =>
      (ValidationTarget.sheet sheet.schema sheet.rows).origins.resolve? origin raw) =
        ctx.sheets.findSome? fun sheet => sheet.indexedOrigins.resolve? origin raw := by
    refine Eq.trans (findSome?_congr fun sheet mem => ?_)
      (findSome?_filter_of_none fun sheet _ merge => ?_)
    · obtain ⟨mem, plain⟩ := List.mem_filter.1 mem
      obtain ⟨given, place, ingested⟩ := mem_sheets mem
      rw [Bool.not_eq_true'] at plain
      rw [IngestedSheet.indexedOrigins, plain, if_neg Bool.false_ne_true,
        IngestedSheet.origins_ofSheet? ingested]
      rfl
    · rw [Bool.not_eq_false'] at merge
      rw [IngestedSheet.indexedOrigins, merge, if_pos rfl]
      rfl
  have merges : (ctx.secondRound.mergeOutcomes.findSome? fun outcome =>
      (ValidationTarget.merged (CompileState.shardMerge outcome.table).1).origins.resolve? origin
        raw) =
        ctx.secondRound.mergeOutcomes.findSome? fun outcome => outcome.origins.resolve? origin raw := by
    refine findSome?_congr fun outcome mem => ?_
    obtain ⟨group, -, merged⟩ := List.mem_filterMap.1 mem
    obtain ⟨shards, same⟩ := CompileState.shardMerge_table outcome.table
    rw [ValidationTarget.origins, same, MergeOutcome.origins_ofSheets? merged]
    rfl
  rw [resolve?_mergedState h, CompileState.loadedTargets, tables, merges_mergedState h, List.map_map,
    List.findSome?_append, List.findSome?_map, List.findSome?_map, ← sheets, ← merges]
  rfl

/-- A loaded table is that of a sheet or of a merge group. -/
theorem exists_source_of_mem_loadedTargets (h : ctx.Ingests) {target : ValidationTarget}
    (mem : target ∈ ctx.mergedState.loadedTargets) :
    (∃ sheet given origin mergeGroups,
      IngestedSheet.ofSheet? given origin mergeGroups = some sheet ∧
        target.schema = sheet.schema ∧ target.rows = sheet.rows) ∨
    ∃ group sheets referenceOnly outcome,
      MergeOutcome.ofSheets? group sheets referenceOnly = some outcome ∧
        target.schema = outcome.table.schema ∧ target.rows = outcome.table.rows := by
  rcases List.mem_append.1 mem with mem | mem
  · left
    obtain ⟨table, loaded, rfl⟩ := List.mem_map.1 mem
    have sheets : ∃ sheet ∈ ctx.sheets, table.schema = sheet.schema ∧ table.rows = sheet.rows := by
      rw [tables_mergedState h] at loaded
      rcases List.mem_append.1 loaded with loaded | loaded
      · obtain ⟨sheet, inside, rfl⟩ := List.mem_map.1 loaded
        exact ⟨sheet, List.mem_append_left _ (List.mem_filter.1 inside).1, rfl, rfl⟩
      · obtain ⟨sheet, inside, rfl⟩ := List.mem_map.1 loaded
        exact ⟨sheet, List.mem_append_right _ (List.mem_filter.1 inside).1, rfl, rfl⟩
    obtain ⟨sheet, inside, schema, rows⟩ := sheets
    obtain ⟨given, origin, ingested⟩ := mem_sheets inside
    exact ⟨sheet, given, origin, _, ingested, schema, rows⟩
  · right
    obtain ⟨table, loaded, rfl⟩ := List.mem_map.1 mem
    rw [merges_mergedState h, List.mem_map] at loaded
    obtain ⟨outcome, inside, rfl⟩ := loaded
    obtain ⟨group, -, merged⟩ := List.mem_filterMap.1 inside
    obtain ⟨shards, same⟩ := CompileState.shardMerge_table outcome.table
    refine ⟨group, _, _, outcome, merged, ?_, ?_⟩
    · rw [ValidationTarget.schema, same]
    · rw [ValidationTarget.rows, same]

/-- In a loaded table no two rows have one number. -/
theorem nodup_numbers (h : ctx.Ingests) {target : ValidationTarget}
    (mem : target ∈ ctx.mergedState.loadedTargets) : (target.rows.map (·.row)).Nodup := by
  rcases exists_source_of_mem_loadedTargets h mem with
    ⟨sheet, given, origin, _, ingested, -, rows⟩ | ⟨group, sheets, _, outcome, merged, -, rows⟩
  · rw [rows]
    exact IngestedSheet.nodup_numbers_ofSheet? ingested
  · rw [rows]
    exact MergeOutcome.nodup_numbers_ofSheets? merged

/-- The origins of a loaded table are named after it. -/
theorem ownsOrigins (h : ctx.Ingests) {target : ValidationTarget}
    (mem : target ∈ ctx.mergedState.loadedTargets) : target.schema.OwnsOrigins := by
  rcases exists_source_of_mem_loadedTargets h mem with
    ⟨sheet, given, origin, _, ingested, schema, -⟩ | ⟨group, sheets, _, outcome, merged, schema, -⟩
  · rw [schema]
    exact (IngestedSheet.readFrom_ofSheet? ingested).2.origins
  · rw [schema]
    exact (MergeOutcome.ofSheets?_eq_some merged).2.origins

end RunContext

namespace Validated

variable {ctx : RunContext} {validated : Validated} {target : ValidationTarget}

/-- Validating changes neither the index of a state nor its tables. -/
theorem ofState_loaded (state : CompileState) :
    (Validated.ofState state).state.references = state.references ∧
      (Validated.ofState state).state.loadedTargets = state.loadedTargets :=
  ⟨rfl, rfl⟩

/-- A validated table is one of the tables that were loaded. -/
theorem mem_loadedTargets (h : (Run.ofContext ctx).validated = some validated)
    (mem : target ∈ validated.state.targets) : target ∈ ctx.mergedState.loadedTargets := by
  rw [(Run.validated_eq_some_iff.1 h).2] at mem
  obtain ⟨-, -, targets, -, -⟩ := ofState_parts ctx.mergedState
  rw [targets] at mem
  exact CompileState.targets_subset_loadedTargets _ mem

/-- No two validated tables bear a name. -/
def NamesOnce (validated : Validated) (name : String) : Prop :=
  ∀ target ∈ validated.state.targets, ∀ other ∈ validated.state.targets,
    target.schema.name = name → other.schema.name = name → target = other

instance (validated : Validated) (name : String) : Decidable (validated.NamesOnce name) := by
  unfold NamesOnce
  infer_instance

/-- A cell of a table with a name of its own reads as the validation of the table wrote it. -/
theorem get?_overlay (h : (Run.ofContext ctx).validated = some validated)
    (mem : target ∈ validated.state.targets) (once : validated.NamesOnce target.schema.name)
    (row slot : Nat) :
    validated.overlay.get? target.schema.name row slot =
      (validated.resultOf target).overlay.get? target.schema.name row slot := by
  obtain ⟨-, same⟩ := Run.validated_eq_some_iff.1 h
  obtain ⟨-, -, -, results, overlay⟩ := same ▸ ofState_parts ctx.mergedState
  rw [overlay, Overlay.get?_foldl_absorb, results, List.findSome?_map]
  refine findSome?_only mem fun other known apart => ?_
  refine (TableValidation.belongsTo_ofTarget other _).get?_eq_none (fun name => apart ?_) _ _
  exact once other known target mem name.symm rfl

end Validated

end DesignTables
