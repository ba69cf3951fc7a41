import DesignTables.Compile.Run
import DesignTables.Proofs.Compile.Absorption
import DesignTables.Proofs.Lists
import DesignTables.Proofs.Merge.Columns

/-!
# What the merge stage comes to

The sheets of the groups are not touched while the groups are unified, so each outcome depends on
the state before the stage alone. Every group that some sheet names has an outcome, and the table
of the outcome bears the name of the group.
-/
namespace DesignTables

namespace MergeOutcome

/-- The table of a group bears its name. -/
theorem ofSheets?_eq_some {group : String} {sheets : List IngestedSheet} {referenceOnly : Bool}
    {outcome : MergeOutcome} (h : ofSheets? group sheets referenceOnly = some outcome) :
    outcome.table.name = group ∧ Merge.BearsName group outcome.table.schema := by
  obtain ⟨first, _, h⟩ := Option.bind_eq_some_iff.1 h
  obtain ⟨header, _, h⟩ := Option.bind_eq_some_iff.1 h
  have start : Merge.BearsName group { Schema.blank first.schema.origin .merge with
      name := group, merge := some header } := ⟨rfl, rfl, fun _ mem => absurd mem List.not_mem_nil⟩
  have merged := Merge.bearsName_addSheets ⟨_, [], []⟩ start sheets
  obtain rfl := Option.some.inj h
  exact ⟨rfl, merged⟩

theorem referenceOnly_ofSheets? {group : String} {sheets : List IngestedSheet}
    {referenceOnly : Bool} {outcome : MergeOutcome}
    (h : ofSheets? group sheets referenceOnly = some outcome) :
    outcome.table.referenceOnly = referenceOnly := by
  obtain ⟨first, _, h⟩ := Option.bind_eq_some_iff.1 h
  obtain ⟨header, _, h⟩ := Option.bind_eq_some_iff.1 h
  obtain rfl := Option.some.inj h
  rfl

theorem isSome_ofSheets? {group : String} {first : IngestedSheet} {sheets : List IngestedSheet}
    {referenceOnly : Bool} (h : first.schema.merge.isSome) :
    (ofSheets? group (first :: sheets) referenceOnly).isSome := by
  obtain ⟨header, found⟩ := Option.isSome_iff_exists.1 h
  simp [ofSheets?, found]

end MergeOutcome

namespace CompileState

/-- The outcomes of all merge groups, in the order of their first sheets. -/
def mergeOutcomes (state : CompileState) : List MergeOutcome :=
  state.mergeGroups.filterMap state.mergeOutcome?

/-- The problems of a merge group: those of its unification, then those of sharding its table. -/
def mergeProblems (outcome : MergeOutcome) : List Diagnostic :=
  outcome.diagnostics ++ (shardMerge outcome.table).2

/-- The state with some merge outcomes, each at the end of what was there. -/
def withOutcomes (state : CompileState) (outcomes : List MergeOutcome) : CompileState :=
  { state with
    merges := state.merges ++ outcomes.map fun outcome => (shardMerge outcome.table).1
    references := outcomes.foldl (fun index outcome => index.absorb outcome.origins)
      state.references
    sizes := outcomes.foldl (fun index outcome => index.absorb outcome.sizes) state.sizes
    diagnostics := state.diagnostics ++ outcomes.flatMap mergeProblems }

theorem withOutcomes_nil (state : CompileState) : state.withOutcomes [] = state := by
  simp [withOutcomes]

theorem withOutcomes_cons (state : CompileState) (outcome : MergeOutcome)
    (outcomes : List MergeOutcome) :
    state.withOutcomes (outcome :: outcomes) =
      (state.withOutcomes [outcome]).withOutcomes outcomes := by
  simp [withOutcomes]

theorem mergeOutcome?_withOutcomes (state : CompileState) (outcomes : List MergeOutcome)
    (group : String) : (state.withOutcomes outcomes).mergeOutcome? group =
      state.mergeOutcome? group := rfl

theorem buildMerge_eq (state : CompileState) (group : String) :
    state.buildMerge group = state.withOutcomes (state.mergeOutcome? group).toList := by
  rw [buildMerge]
  cases state.mergeOutcome? group with
  | none => exact (withOutcomes_nil state).symm
  | some outcome => simp [withOutcomes, report, mergeProblems]

/-- The merge stage adds the outcomes of all groups. -/
theorem buildMerges_eq (state : CompileState) :
    state.buildMerges = state.withOutcomes state.mergeOutcomes := by
  have run : ∀ (groups : List String) (now : CompileState),
      (∀ group, now.mergeOutcome? group = state.mergeOutcome? group) →
        groups.foldl buildMerge now = now.withOutcomes (groups.filterMap state.mergeOutcome?) := by
    intro groups
    induction groups with
    | nil => intro now _; exact (withOutcomes_nil now).symm
    | cons group groups ih =>
      intro now same
      rw [List.foldl_cons, buildMerge_eq, same, ih, List.filterMap_cons]
      · cases state.mergeOutcome? group with
        | none => rw [Option.toList_none, withOutcomes_nil]
        | some outcome => exact (withOutcomes_cons now outcome _).symm
      · intro later
        rw [mergeOutcome?_withOutcomes, same]
  exact run state.mergeGroups state fun _ => rfl

theorem isClean_buildMerges_iff {state : CompileState} :
    state.buildMerges.isClean = true ↔
      state.isClean = true ∧ ∀ outcome ∈ state.mergeOutcomes, mergeProblems outcome = [] := by
  rw [buildMerges_eq, isClean_iff, isClean_iff, withOutcomes, List.append_eq_nil_iff,
    List.flatMap_eq_nil_iff]

/-- Sharding changes nothing of a table but its shards. -/
theorem shardMerge_table (table : MergeTable) :
    ∃ shards, (shardMerge table).1 = { table with shards := shards } := by
  rw [shardMerge]
  split
  · cases table.partition with
    | ok plan => exact ⟨some plan, rfl⟩
    | error found => exact ⟨table.shards, rfl⟩
  · exact ⟨table.shards, rfl⟩

theorem mem_mergeGroups_iff {state : CompileState} {group : String} :
    group ∈ state.mergeGroups ↔ ∃ pending ∈ state.mergeSheets, pending.group? = some group := by
  rw [mergeGroups, List.mem_eraseDups, List.mem_filterMap]

/-- Every group that a sheet names has an outcome. -/
theorem isSome_mergeOutcome? {state : CompileState} {group : String}
    (h : group ∈ state.mergeGroups) : (state.mergeOutcome? group).isSome := by
  obtain ⟨pending, mem, named⟩ := mem_mergeGroups_iff.1 h
  have inGroup : pending ∈ state.sheetsOfGroup group :=
    List.mem_filter.2 ⟨mem, by rw [named, beq_self_eq_true]⟩
  rw [mergeOutcome?]
  cases sheets : state.sheetsOfGroup group with
  | nil =>
    rw [sheets] at inGroup
    exact absurd inGroup List.not_mem_nil
  | cons first rest =>
    have member : first ∈ state.sheetsOfGroup group := by rw [sheets]; exact List.mem_cons_self
    have own : first.group? = some group := by
      simpa using (List.mem_filter.1 member).2
    apply MergeOutcome.isSome_ofSheets?
    rw [MergeSheet.group?, Option.map_eq_some_iff] at own
    obtain ⟨header, found, _⟩ := own
    exact Option.isSome_iff_exists.2 ⟨header, found⟩

theorem name_of_mergeOutcome? {state : CompileState} {group : String} {outcome : MergeOutcome}
    (h : state.mergeOutcome? group = some outcome) :
    outcome.table.name = group ∧ outcome.table.schema.name = group :=
  have known := MergeOutcome.ofSheets?_eq_some h
  ⟨known.1, known.2.name⟩

/-- Also when it is sharded, the table of a group bears its name. -/
theorem name_shardMerge {state : CompileState} {group : String} {outcome : MergeOutcome}
    (h : state.mergeOutcome? group = some outcome) :
    (shardMerge outcome.table).1.schema.name = group := by
  obtain ⟨shards, same⟩ := shardMerge_table outcome.table
  rw [same]
  exact (name_of_mergeOutcome? h).2

/-- The outcomes stand in the order of the groups, one for each. -/
theorem names_mergeOutcomes (state : CompileState) :
    state.mergeOutcomes.map (·.table.schema.name) = state.mergeGroups := by
  have all : ∀ groups : List String, (∀ group ∈ groups, group ∈ state.mergeGroups) →
      (groups.filterMap state.mergeOutcome?).map (·.table.schema.name) = groups := by
    intro groups
    induction groups with
    | nil => intro _; rfl
    | cons group groups ih =>
      intro known
      obtain ⟨outcome, found⟩ :=
        Option.isSome_iff_exists.1 (isSome_mergeOutcome? (known group List.mem_cons_self))
      rw [List.filterMap_cons_some found, List.map_cons, (name_of_mergeOutcome? found).2,
        ih fun later mem => known later (List.mem_cons_of_mem _ mem)]
  exact all _ fun _ mem => mem

/-- A merge table of the merge stage bears the name of its group, in its schema as well. -/
theorem name_of_mem_mergeOutcomes {state : CompileState} {outcome : MergeOutcome}
    (h : outcome ∈ state.mergeOutcomes) :
    (shardMerge outcome.table).1.name = outcome.table.schema.name ∧
      (shardMerge outcome.table).1.schema = outcome.table.schema := by
  obtain ⟨group, _, found⟩ := List.mem_filterMap.1 h
  obtain ⟨shards, same⟩ := shardMerge_table outcome.table
  obtain ⟨name, schema⟩ := name_of_mergeOutcome? found
  rw [same]
  exact ⟨name.trans schema.symm, rfl⟩

theorem nodup_mergeGroups (state : CompileState) : state.mergeGroups.Nodup :=
  nodup_eraseDups _

end CompileState

end DesignTables
