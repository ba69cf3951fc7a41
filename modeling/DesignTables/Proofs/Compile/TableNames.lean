import DesignTables.Proofs.Compile.Contents
import DesignTables.Proofs.Lists
import DesignTables.Proofs.Validation.Ownership

/-!
# Whether the tables of a run can be told apart by their names

The sheets of a run have different names, and so have its merge groups. Nothing compares a sheet
with a group, though, so a data table may bear the name of a merge table. Then both write cells
under one key, one loses values, and both are written with the slots of the later one. Exactly
where no data table bears the name of a merge table each is written with the values that its own
validation gave.
-/
namespace DesignTables

/-- A table to validate as it is written, with the slots that come from the overlay. -/
def ValidationTarget.written (target : ValidationTarget) (changed : List Nat) : OutputTable :=
  match target with
  | .sheet schema rows => ⟨schema, rows, changed, none⟩
  | .merged table => OutputTable.ofMerge table changed

namespace Validated

/-- The validated tables are told apart by their names, and each is written with the values and
the slots that its own validation gave. -/
structure KeepsApart (validated : Validated) : Prop where
  names : (validated.state.targets.map (·.schema.name)).Nodup
  disjoint : validated.results.Pairwise fun a b => List.Disjoint a.overlay.cells b.overlay.cells
  /-- No value is dropped. -/
  size : validated.overlay.size = (validated.results.map (·.overlay.size)).sum
  /-- No set of slots is replaced. -/
  changed : ∀ result ∈ validated.results, validated.changedOf result.table = result.changed
  written : ∀ target ∈ validated.state.targets,
    target.written (validated.resultOf target).changed ∈ validated.output.tables ∧
      ∀ row slot,
        (target.written (validated.resultOf target).changed).valueOf validated.overlay row slot =
          (target.written (validated.resultOf target).changed).valueOf
            (validated.resultOf target).overlay row slot
  /-- What is written besides are the enumeration tables, which are not validated. -/
  complete : ∀ table ∈ validated.output.tables, table.schema.kind = .enumeration ∨
    ∃ target ∈ validated.state.targets,
      table = target.written (validated.resultOf target).changed

/-- Some data table bears the name of a merge table, both written. -/
def Clashes (validated : Validated) : Prop :=
  ∃ table ∈ validated.state.tables, table.referenceOnly = false ∧ table.schema.kind = .data ∧
    ∃ merge ∈ validated.state.merges, merge.referenceOnly = false ∧ merge.name = table.schema.name

end Validated

namespace Validated

theorem name_written (target : ValidationTarget) (changed : List Nat) :
    (target.written changed).schema = target.schema := by
  cases target <;> rfl

variable {ctx : RunContext} {validated : Validated}

/-- The names of the validated tables are different unless a data table bears the name of a merge
table. -/
theorem nodup_targets_iff (h : (Run.ofContext ctx).validated = some validated) :
    (validated.state.targets.map (·.schema.name)).Nodup ↔ ¬ validated.Clashes := by
  obtain ⟨reaches, rfl⟩ := Run.validated_eq_some_iff.1 h
  obtain ⟨tables, merges, targets, -, -⟩ := ofState_parts ctx.mergedState
  have plain := RunContext.nodup_tables reaches.toIngests
  have merged : (ctx.mergedState.merges.map (·.schema.name)).Nodup := by
    have same : ctx.mergedState.merges.map (·.schema.name) = ctx.mergedState.merges.map (·.name) :=
      List.map_congr_left fun table mem => RunContext.name_of_mem_merges reaches.toIngests mem
    rw [same]
    exact RunContext.nodup_merges reaches.toIngests
  rw [targets, CompileState.targets, List.map_append, List.map_map, List.map_map,
    List.nodup_append', Clashes, tables, merges]
  constructor
  · rintro ⟨-, -, disjoint⟩ ⟨table, mem, own, kind, merge, mem', own', same⟩
    refine disjoint (List.mem_map.2 ⟨table, List.mem_filter.2 ⟨mem, ?_⟩, rfl⟩)
      (List.mem_map.2 ⟨merge, List.mem_filter.2 ⟨mem', ?_⟩, ?_⟩)
    · simp [own, kind]
    · simp [own']
    · exact (RunContext.name_of_mem_merges reaches.toIngests mem').trans same
  · intro apart
    refine ⟨plain.sublist (List.filter_sublist.map _), merged.sublist (List.filter_sublist.map _), ?_⟩
    intro name first second
    obtain ⟨table, mem, rfl⟩ := List.mem_map.1 first
    obtain ⟨merge, mem', same⟩ := List.mem_map.1 second
    obtain ⟨mem, own⟩ := List.mem_filter.1 mem
    obtain ⟨mem', own'⟩ := List.mem_filter.1 mem'
    rw [Bool.and_eq_true, Bool.not_eq_true', beq_iff_eq] at own
    rw [Bool.not_eq_true'] at own'
    exact apart ⟨table, mem, own.1, own.2, merge, mem', own',
      (RunContext.name_of_mem_merges reaches.toIngests mem').symm.trans same⟩

/-- What is written are the validated tables and the enumeration tables. -/
theorem mem_tables_output_iff (h : (Run.ofContext ctx).validated = some validated)
    {table : OutputTable} : table ∈ validated.output.tables ↔
      (∃ target ∈ validated.state.targets,
        table = target.written (validated.changedOf target.schema.name)) ∨
      ∃ loaded ∈ validated.state.tables, loaded.referenceOnly = false ∧
        loaded.schema.kind = .enumeration ∧
        table = ⟨loaded.schema, loaded.rows, validated.changedOf loaded.schema.name, none⟩ := by
  obtain ⟨reaches, same⟩ := Run.validated_eq_some_iff.1 h
  have name : ∀ merge ∈ validated.state.merges, merge.schema.name = merge.name := by
    obtain ⟨-, merges, -, -, -⟩ := ofState_parts ctx.mergedState
    intro merge mem
    rw [same, merges] at mem
    exact RunContext.name_of_mem_merges reaches.toIngests mem
  rw [output, CompileState.targets]
  simp only [List.mem_append, List.mem_map, List.mem_filter, Bool.and_eq_true, Bool.not_eq_true',
    Bool.or_eq_true, beq_iff_eq]
  constructor
  · rintro (⟨loaded, ⟨known, own, data | enumeration⟩, rfl⟩ | ⟨merge, ⟨known, own⟩, rfl⟩)
    · exact .inl ⟨.sheet loaded.schema loaded.rows, .inl ⟨loaded, ⟨known, own, data⟩, rfl⟩, rfl⟩
    · exact .inr ⟨loaded, known, own, enumeration, rfl⟩
    · refine .inl ⟨.merged merge, .inr ⟨merge, ⟨known, own⟩, rfl⟩, ?_⟩
      rw [← name merge known]
      rfl
  · rintro (⟨target, ⟨loaded, ⟨known, own, data⟩, rfl⟩ | ⟨merge, ⟨known, own⟩, rfl⟩, rfl⟩ |
      ⟨loaded, known, own, enumeration, rfl⟩)
    · exact .inl ⟨loaded, ⟨known, own, .inl data⟩, rfl⟩
    · refine .inr ⟨merge, ⟨known, own⟩, ?_⟩
      rw [← name merge known]
      rfl
    · exact .inl ⟨loaded, ⟨known, own, .inr enumeration⟩, rfl⟩

/-- A name that no validated table bears has no changed slots and no values in the overlay. -/
theorem unread_of_absent (h : (Run.ofContext ctx).validated = some validated) {name : String}
    (absent : ∀ target ∈ validated.state.targets, target.schema.name ≠ name) :
    validated.changedOf name = [] ∧ ∀ row slot, validated.overlay.get? name row slot = none := by
  obtain ⟨-, same⟩ := Run.validated_eq_some_iff.1 h
  obtain ⟨-, -, -, results, overlay⟩ := same ▸ ofState_parts ctx.mergedState
  constructor
  · have none : validated.results.reverse.find? (·.table == name) = none := by
      rw [List.find?_eq_none]
      intro result mem
      rw [List.mem_reverse, results, List.mem_map] at mem
      obtain ⟨target, known, rfl⟩ := mem
      have apart : (validated.resultOf target).table ≠ name := absent target known
      simpa using apart
    rw [changedOf, none]
    rfl
  · intro row slot
    rw [overlay, Overlay.get?_foldl_absorb, results, List.findSome?_map]
    refine Option.or_eq_none_iff.2 ⟨rfl, List.findSome?_eq_none_iff.2 fun target known => ?_⟩
    exact (TableValidation.belongsTo_ofTarget target _).get?_eq_none
      (Ne.symm (absent target known)) _ _

/-- With different names the overlays are disjoint, nothing is lost in their union, and each table
is written as its own validation says. -/
theorem keepsApart_of_nodup (h : (Run.ofContext ctx).validated = some validated)
    (nodup : (validated.state.targets.map (·.schema.name)).Nodup) : validated.KeepsApart := by
  obtain ⟨-, same⟩ := Run.validated_eq_some_iff.1 h
  obtain ⟨-, -, -, results, overlay⟩ := same ▸ ofState_parts ctx.mergedState
  have owned : ∀ target, (validated.resultOf target).overlay.BelongsTo target.schema.name :=
    fun target => TableValidation.belongsTo_ofTarget target _
  have tables : (validated.results.map (·.table)).Nodup := by
    rw [results, List.map_map]
    exact nodup
  have disjoint : validated.results.Pairwise fun a b =>
      List.Disjoint a.overlay.cells b.overlay.cells := by
    rw [results, List.pairwise_map]
    exact (List.pairwise_map.1 nodup).imp fun apart => (owned _).disjoint (owned _) apart
  have changed : ∀ result ∈ validated.results, validated.changedOf result.table = result.changed := by
    intro result mem
    have reversed : (validated.results.reverse.map (·.table)).Nodup := by
      rw [List.map_reverse]
      exact List.nodup_reverse.2 tables
    have found := find?_key reversed (List.mem_reverse.2 mem)
    rw [changedOf, found]
    rfl
  have ownChanged : ∀ target ∈ validated.state.targets,
      validated.changedOf target.schema.name = (validated.resultOf target).changed :=
    fun target mem => changed _ (results ▸ List.mem_map_of_mem mem)
  refine ⟨nodup, disjoint, ?_, changed, ?_, ?_⟩
  · rw [overlay, Overlay.size_foldl_absorb Overlay.empty disjoint]
    · exact Nat.zero_add _
    · intro member _ cell known
      exact absurd known List.not_mem_nil
  · intro target mem
    refine ⟨?_, fun row slot => ?_⟩
    · rw [← ownChanged target mem]
      exact (mem_tables_output_iff h).2 (.inl ⟨target, mem, rfl⟩)
    · have reading : validated.overlay.get? target.schema.name row.row slot =
          (validated.resultOf target).overlay.get? target.schema.name row.row slot := by
        rw [overlay, Overlay.get?_foldl_absorb, results, List.findSome?_map]
        exact findSome?_key nodup mem fun other _ apart =>
          (owned other).get?_eq_none (Ne.symm apart) _ _
      rw [OutputTable.valueOf, OutputTable.valueOf, name_written, reading]
  · intro table mem
    rcases (mem_tables_output_iff h).1 mem with ⟨target, known, same⟩ | ⟨_, _, _, enumeration, rfl⟩
    · exact .inr ⟨target, known, by rw [same, ownChanged target known]⟩
    · exact .inl enumeration

/-- Tables that are kept apart are written with their own slots. -/
theorem KeepsApart.changedOf (apart : validated.KeepsApart)
    (h : (Run.ofContext ctx).validated = some validated) {target : ValidationTarget}
    (mem : target ∈ validated.state.targets) :
    validated.changedOf target.schema.name = (validated.resultOf target).changed := by
  obtain ⟨-, same⟩ := Run.validated_eq_some_iff.1 h
  obtain ⟨-, -, -, results, -⟩ := same ▸ ofState_parts ctx.mergedState
  exact apart.changed (validated.resultOf target) (results ▸ List.mem_map_of_mem mem)

/-- The tables of a validated run are kept apart exactly when no data table bears the name of a
merge table. -/
theorem keepsApart_iff_not_clashes (h : (Run.ofContext ctx).validated = some validated) :
    validated.KeepsApart ↔ ¬ validated.Clashes := by
  rw [← nodup_targets_iff h]
  exact ⟨fun apart => apart.names, keepsApart_of_nodup h⟩

end Validated

/-- A data sheet `stage` of two rows and a merge group of five. -/
def sheetAndGroup (group : String) : List Workbook :=
  let header (tag options : String) : List (List String) :=
    [["", "", "", ""], [tag, "id", "note", "shown"],
     [options, "key,int", "string", "string,change<note>"], ["", "data", "data", "data"]]
  [⟨"A.xlsx", "design/A.xlsx",
     [⟨"stage", Grid.ofTexts (header "#data" "" ++ [["", "1", "a", "x"], ["", "2", "b", "y"]])⟩]⟩,
   ⟨"B.xlsx", "design/B.xlsx",
     [⟨"parts", Grid.ofTexts (header "#merge" (group ++ ",id,2") ++
       [["", "1", "m1", "z"], ["", "2", "m2", "z"], ["", "3", "m3", "z"], ["", "4", "m4", "z"],
        ["", "5", "m5", "z"]])⟩]⟩]

/-- The run over the sheet and the group. -/
def sheetAndGroupRun (group : String) : RunContext :=
  RunContext.select Options.standard (sheetAndGroup group) .all false

set_option maxRecDepth 100000 in
/-- Under different names sheet and group are kept apart. -/
theorem keepsApart_board : ∃ validated : Validated,
    (Run.ofContext (sheetAndGroupRun "board")).validated = some validated ∧
      validated.KeepsApart := by
  have run : ((Run.ofContext (sheetAndGroupRun "board")).validated.map fun validated =>
      (validated.state.tables.map (·.schema.name), validated.state.merges.map (·.name))) =
        some (["stage"], ["board"]) := by decide
  obtain ⟨validated, found, same⟩ := Option.map_eq_some_iff.1 run
  obtain ⟨tables, merges⟩ := Prod.mk.inj same
  refine ⟨validated, found, (Validated.keepsApart_iff_not_clashes found).2 ?_⟩
  rintro ⟨table, mem, -, -, merge, mem', -, clash⟩
  have name : table.schema.name ∈ ["stage"] := tables ▸ List.mem_map_of_mem mem
  have group : merge.name ∈ ["board"] := merges ▸ List.mem_map_of_mem mem'
  rw [List.mem_singleton] at name group
  rw [name, group] at clash
  exact absurd clash (by decide)

set_option maxRecDepth 100000 in
/-- Where the group is named like the sheet, two of the seven written values are lost. -/
theorem not_keepsApart_stage :
    ¬ ∀ (ctx : RunContext) (validated : Validated),
      (Run.ofContext ctx).validated = some validated → validated.KeepsApart := by
  intro all
  have run : ((Run.ofContext (sheetAndGroupRun "stage")).validated.map fun validated =>
      (validated.state.isClean, validated.state.targets.map (·.schema.name),
        validated.overlay.size, (validated.results.map (·.overlay.size)).sum)) =
        some (true, ["stage", "stage"], 5, 7) := by decide
  obtain ⟨validated, found, same⟩ := Option.map_eq_some_iff.1 run
  have sizes := (all _ validated found).size
  simp only [Prod.mk.injEq] at same
  omega

end DesignTables
