import DesignTables.Proofs.Compile.Course
import DesignTables.Proofs.Compile.Integrity
import DesignTables.Proofs.Ingest.Readings
import DesignTables.Proofs.Validation.Concerns

/-!
# Who reports references to unknown tables

Headers, cells, registries, merge groups and the checks of cells have problems of their own, and
none of them is that a table is unknown. So a run reports an unknown table exactly when it comes to
look for the tables that the ingested ones refer to, and does not find this one.
-/
namespace DesignTables

/-- None of some diagnostics tells of a reference to an unknown table. -/
def Quiet (found : List Diagnostic) : Prop := ∀ d ∈ found, d.code ≠ .unknownTableReference

namespace Quiet

variable {first second found : List Diagnostic}

theorem nil : Quiet [] := fun _ mem => absurd mem List.not_mem_nil

theorem append (h : Quiet first) (h' : Quiet second) : Quiet (first ++ second) :=
  List.forall_mem_append.2 ⟨h, h'⟩

theorem flatMap {α : Type} {xs : List α} {f : α → List Diagnostic} (h : ∀ x ∈ xs, Quiet (f x)) :
    Quiet (xs.flatMap f) := by
  intro d mem
  obtain ⟨x, known, mem⟩ := List.mem_flatMap.1 mem
  exact h x known d mem

theorem singleton {d : Diagnostic} (h : d.code ≠ .unknownTableReference) : Quiet [d] :=
  List.forall_mem_singleton.2 h

theorem when {p : Prop} [Decidable p] (h : Quiet found) : Quiet (if p then found else []) := by
  split
  · exact h
  · exact .nil

theorem alone {p : Prop} [Decidable p] {d : Diagnostic} (h : d.code ≠ .unknownTableReference) :
    Quiet (if p then [d] else []) :=
  .when (.singleton h)

/-- Problems with other codes, wherever they are pinned. -/
theorem map_of {problems : List Problem} {origin : SheetOrigin} {label : String} {row col : Nat}
    (h : ∀ problem ∈ problems, problem.code ≠ .unknownTableReference) :
    Quiet (problems.map fun problem => Diagnostic.of problem origin label row col) := by
  intro d mem
  obtain ⟨problem, known, rfl⟩ := List.mem_map.1 mem
  exact h problem known

end Quiet

namespace Header

variable {mergeGroups : List String} {column : Column} {slot : Nat} {schema : Schema}

theorem Step.quiet {after : Schema} {directive : Directive}
    (step : Step mergeGroups column slot schema directive after) (h : Quiet schema.diagnostics) :
    Quiet after.diagnostics := by
  cases step with
  | refused code => exact h.append (.singleton (ne_of_mem_of_not_mem code (by decide)))
  | passed | key | changed | compared => exact h

theorem quiet_applyDirectives (h : Quiet schema.diagnostics) :
    Quiet (applyDirectives mergeGroups schema).diagnostics :=
  applyDirectives_induction (P := fun now => Quiet now.diagnostics) h
    fun _ quiet _ _ _ directive _ => (step_applyDirective directive).quiet quiet

theorem quiet_columnProblems (origin : SheetOrigin) (earlier : List String) (column : Column) :
    Quiet (columnProblems origin earlier column) := by
  refine (((Quiet.alone ?_).append (.alone ?_)).append (.alone ?_)).append (.when ?roles)
  case roles =>
    intro d mem
    obtain ⟨role, -, rfl⟩ := List.mem_map.1 mem
    cases role <;> exact Code.noConfusion
  all_goals exact Code.noConfusion

theorem quiet_headerProblems (schema : Schema) : Quiet (headerProblems schema) := by
  refine (((Quiet.alone ?_).append (.alone ?_)).append (.alone ?_)).append
    (.flatMap fun _ _ => quiet_columnProblems _ _ _)
  all_goals exact Code.noConfusion

theorem quiet_linkEnumSources (h : Quiet schema.diagnostics) :
    Quiet (linkEnumSources schema).diagnostics :=
  linkEnumSources_induction (P := fun now => Quiet now.diagnostics) h
    (fun _ quiet _ _ _ _ _ _ _ => quiet)
    fun _ quiet _ _ => quiet.append (.singleton Code.noConfusion)

theorem quiet_compile? {sheet : Sheet} {origin : SheetOrigin}
    (h : compile? sheet origin mergeGroups = some schema) : Quiet schema.diagnostics := by
  rw [compile?_eq] at h
  obtain ⟨kind, -, rfl⟩ := Option.map_eq_some_iff.1 h
  have start : Quiet (start sheet origin kind).diagnostics := by
    cases kind
    case merge =>
      rw [Header.start, readTableCells]
      dsimp only [Schema.blank]
      split
      · exact .nil
      · exact .singleton Code.noConfusion
    all_goals exact .nil
  exact quiet_linkEnumSources ((quiet_applyDirectives start).append (quiet_headerProblems _))

end Header

namespace RowIngest

variable {schema : Schema} {grid : Grid} {ingest : RowIngest}

theorem quiet_store (h : Quiet ingest.diagnostics) (row : Nat) :
    Quiet (store schema grid ingest row).diagnostics := by
  refine h.append (.flatMap fun reading mem => .map_of fun problem found => ?_)
  obtain ⟨_, -, rfl⟩ := List.mem_map.1 mem
  exact ne_of_mem_of_not_mem (CellReading.mem_problemCodes found) (by decide)

theorem quiet_ofGrid (schema : Schema) (grid : Grid) : Quiet (ofGrid schema grid).diagnostics :=
  ofGrid_induction (P := fun now => Quiet now.diagnostics) .nil
    (fun _ row quiet _ => quiet_store quiet row)
    fun _ _ _ quiet => quiet.append (.singleton Code.noConfusion)

end RowIngest

theorem IngestedSheet.quiet_ofSheet? {given : Sheet} {origin : SheetOrigin}
    {mergeGroups : List String} {sheet : IngestedSheet}
    (h : ofSheet? given origin mergeGroups = some sheet) : Quiet sheet.diagnostics := by
  obtain ⟨schema, compiled, rfl⟩ := Option.map_eq_some_iff.1 h
  dsimp only
  split
  · exact RowIngest.quiet_ofGrid _ _
  · exact Header.quiet_compile? compiled

theorem EnumRegistry.quiet_takeSheet (registry : EnumRegistry) (sheet : IngestedSheet) :
    Quiet (registry.takeSheet sheet).2 := by
  rw [takeSheet]
  split
  · rw [registerSheet]
    split
    next slots _ =>
      refine List.foldlRecOn (motive := fun now : EnumRegistry × List Diagnostic => Quiet now.2)
        sheet.rows _ .nil ?_
      intro now quiet row _
      simp only [takeRow]
      split
      · exact quiet
      next fault _ => exact quiet.append (.singleton (by cases fault <;> exact Code.noConfusion))
    · exact .singleton Code.noConfusion
  · exact .nil

theorem LocalizationRegistry.quiet_takeSheet (registry : LocalizationRegistry)
    (sheet : IngestedSheet) : Quiet (registry.takeSheet sheet).2 := by
  rw [takeSheet]
  split
  · rw [registerSheet]
    split
    next keySlot _ =>
      refine List.foldlRecOn
        (motive := fun now : LocalizationRegistry × List Diagnostic => Quiet now.2)
        sheet.rows _ .nil ?_
      intro now quiet row _
      simp only [takeRow]
      split
      · exact quiet
      · exact quiet.append (.singleton Code.noConfusion)
    · exact .nil
  · exact .nil

namespace Merge

theorem quiet_disagreements {known incoming : Column} {problem : Problem}
    (h : problem ∈ disagreements known incoming) : problem.code ≠ .unknownTableReference := by
  simp only [disagreements, List.mem_append] at h
  rcases h with (h | h) | h
  all_goals
    split at h
    · rw [List.mem_singleton.1 h]
      exact Code.noConfusion
    · cases h

theorem quiet_addSheet {group : String} {merged : Structure} (h : Quiet merged.diagnostics)
    (sheet : IngestedSheet) : Quiet (addSheet group merged sheet).diagnostics := by
  refine h.append ?_
  refine List.foldlRecOn (motive := fun now : Unified => Quiet now.diagnostics)
    sheet.schema.columns _ .nil ?_
  intro now quiet column _
  rw [placeColumn]
  split
  next slot _ =>
    refine quiet.append (.map_of fun problem mem => ?_)
    cases found : now.schema.column? slot with
    | none =>
      rw [found] at mem
      cases mem
    | some known =>
      rw [found] at mem
      exact quiet_disagreements mem
  · exact quiet

theorem quiet_addSheets {group : String} {merged : Structure} (h : Quiet merged.diagnostics)
    (sheets : List IngestedSheet) : Quiet (sheets.foldl (addSheet group) merged).diagnostics :=
  List.foldlRecOn (motive := fun now : Structure => Quiet now.diagnostics) sheets _ h
    fun _ quiet sheet _ => quiet_addSheet quiet sheet

end Merge

namespace MergeTable

/-- What stands in the way of sharding a table is its group field. -/
theorem quiet_partition {table : MergeTable} {found : List Diagnostic}
    (h : table.partition = .error found) : Quiet found := by
  rw [partition] at h
  split at h
  · obtain rfl := Except.error.inj h
    exact .singleton Code.noConfusion
  · dsimp only at h
    split at h
    · cases h
    · obtain rfl := Except.error.inj h
      intro d mem
      obtain ⟨⟨row, position⟩, -, refused⟩ := List.mem_filterMap.1 mem
      dsimp only at refused
      split at refused
      · cases refused
      · obtain ⟨_, -, rfl⟩ := Option.map_eq_some_iff.1 refused
        exact Code.noConfusion

end MergeTable

namespace CompileState

variable {state : CompileState}

theorem quiet_mergeProblems {outcome : MergeOutcome} (h : outcome ∈ state.mergeOutcomes) :
    Quiet (mergeProblems outcome) := by
  refine .append ?_ ?_
  · obtain ⟨group, -, found⟩ := List.mem_filterMap.1 h
    obtain ⟨first, _, found⟩ := Option.bind_eq_some_iff.1 found
    obtain ⟨header, _, found⟩ := Option.bind_eq_some_iff.1 found
    obtain rfl := Option.some.inj found
    exact Merge.quiet_addSheets .nil _
  · rw [shardMerge]
    split
    · split
      · exact .nil
      next refused => exact MergeTable.quiet_partition refused
    · exact .nil

theorem quiet_absorb (h : Quiet state.diagnostics) {sheet : IngestedSheet}
    (own : Quiet sheet.diagnostics) (referenceOnly : Bool) :
    Quiet (state.absorb sheet referenceOnly).diagnostics := by
  by_cases known : sheet.name ∈ state.names
  · rw [absorb_of_known referenceOnly known]
    exact h.append (.singleton Code.noConfusion)
  · rw [absorb_of_new referenceOnly known]
    exact h.append ((own.append (EnumRegistry.quiet_takeSheet _ _)).append
      (LocalizationRegistry.quiet_takeSheet _ _))

theorem quiet_buildMerges (h : Quiet state.diagnostics) : Quiet state.buildMerges.diagnostics := by
  rw [buildMerges_eq]
  exact h.append (.flatMap fun _ mem => quiet_mergeProblems mem)

end CompileState

theorem RunContext.quiet_ingestRound {ctx : RunContext} {state : CompileState}
    (h : Quiet state.diagnostics) (names : List String) (referenceOnly : Bool) :
    Quiet (ctx.ingestRound names referenceOnly state).diagnostics := by
  rw [ingestRound_eq]
  refine List.foldlRecOn (motive := fun now : CompileState => Quiet now.diagnostics)
    (ctx.ingestedOf names) _ h ?_
  intro now quiet sheet mem
  obtain ⟨_, _, _, _, _, _, ingested⟩ := mem_ingestedOf_iff.1 mem
  exact CompileState.quiet_absorb quiet (IngestedSheet.quiet_ofSheet? ingested) referenceOnly

theorem TableValidation.quiet_ofTarget (target : ValidationTarget) (ctx : ValidationContext) :
    Quiet (ofTarget target ctx).diagnostics := by
  intro d mem unknown
  obtain ⟨row, position, -, column, slot, -, own⟩ := mem_diagnostics_ofTarget_iff.1 mem
  obtain ⟨problem, found, rfl⟩ := List.mem_map.1 own
  have silent : problem.code.concern? = none := congrArg Code.concern? unknown
  rcases CheckedCell.mem_check_iff.1 found with h | h | h | h | h
  · cases silent.symm.trans (CheckedCell.concern_of_checkUnique h)
  · cases silent.symm.trans (CheckedCell.concern_of_checkEnum h)
  · cases silent.symm.trans (CheckedCell.concern_of_checkLocalText h)
  · cases silent.symm.trans (CheckedCell.concern_of_checkSize h)
  · cases silent.symm.trans (CheckedCell.concern_of_checkReference h)

theorem Validated.quiet_ofState {state : CompileState} (h : Quiet state.diagnostics) :
    Quiet (ofState state).state.diagnostics := by
  refine h.append (.flatMap fun result mem => ?_)
  obtain ⟨target, -, rfl⟩ := List.mem_map.1 mem
  exact TableValidation.quiet_ofTarget target _

namespace Run

open RunContext

variable {ctx : RunContext} {state : CompileState}

/-- A run reports an unknown table exactly when its first round is clean and a table that it brought
refers to a table that is neither there nor in a workbook. -/
theorem mem_finalState_iff_of_unknown {d : Diagnostic} (unknown : d.code = .unknownTableReference) :
    d ∈ (ofContext ctx).finalState.diagnostics ↔ ctx.firstRound.isClean = true ∧
      d ∈ (schemasOf ctx.firstRound).flatMap (ctx.unknownTargets ctx.firstRound) := by
  have first : Quiet ctx.firstRound.diagnostics := quiet_ingestRound .nil _ _
  -- After a clean look-up nobody reports an unknown table any more.
  have later {state : CompileState} (clean : (lookUp ctx ctx.firstRound).1.isClean = true)
      (quiet : Quiet (lookUp ctx ctx.firstRound).1.diagnostics → Quiet state.diagnostics) :
      d ∈ state.diagnostics ↔ ctx.firstRound.isClean = true ∧
        d ∈ (schemasOf ctx.firstRound).flatMap (ctx.unknownTargets ctx.firstRound) := by
    have none := CompileState.isClean_iff.1 clean
    refine iff_of_false (fun mem => quiet (none ▸ .nil) d mem unknown) fun found => ?_
    rw [(CompileState.isClean_report_iff.1 clean).2] at found
    exact List.not_mem_nil found.2
  have second (quiet : Quiet (lookUp ctx ctx.firstRound).1.diagnostics) :
      Quiet ctx.secondRound.diagnostics := quiet_ingestRound quiet _ _
  have merged (quiet : Quiet (lookUp ctx ctx.firstRound).1.diagnostics) :
      Quiet ctx.mergedState.diagnostics := CompileState.quiet_buildMerges (second quiet)
  have ends := ends_finalState ctx
  generalize (ofContext ctx).finalState = state at ends ⊢
  cases ends with
  | ingest faulty =>
    refine iff_of_false (fun mem => first d mem unknown) fun found => ?_
    rw [faulty] at found
    cases found.1
  | targets clean =>
    rw [lookUp, CompileState.report, CompileState.isClean_iff.1 clean, List.nil_append,
      and_iff_right clean]
  | references clean => exact later clean second
  | merge clean => exact later (isClean_ingestRound_iff.1 clean).1 merged
  | validate reaches =>
    have clean : ctx.secondRound.isClean = true := isClean_secondRound_iff.2 reaches.toIngests
    exact later (isClean_ingestRound_iff.1 clean).1 fun quiet =>
      Validated.quiet_ofState (merged quiet)

end Run

end DesignTables
