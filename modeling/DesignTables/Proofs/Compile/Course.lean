import DesignTables.Proofs.Compile.Merging

/-!
# The course of a run in closed form

A run ends with the first stage that finds something wrong, and one that reaches validation found
nothing wrong before. So the state that is validated is the merge stage of two rounds of ingestion,
and each round appended its sheets to an empty state in their order.
-/
namespace DesignTables

namespace CompileState

/-- The state with some workbooks noted as ingested. -/
theorem foldl_markLoaded (state : CompileState) (names : List String) :
    names.foldl markLoaded state = { state with loaded := state.loaded ++ names } := by
  induction names generalizing state with
  | nil => simp
  | cons name names ih => rw [List.foldl_cons, ih]; simp [markLoaded]

theorem isClean_report_iff {state : CompileState} {found : List Diagnostic} :
    (state.report found).isClean = true ↔ state.isClean = true ∧ found = [] := by
  rw [isClean_iff, isClean_iff, report, List.append_eq_nil_iff]

end CompileState

namespace RunContext

/-- The workbooks among some names. -/
def known (ctx : RunContext) (names : List String) : List String :=
  names.filter fun name => (ctx.workbook? name).isSome

theorem ingestRound_eq (ctx : RunContext) (names : List String) (referenceOnly : Bool)
    (state : CompileState) :
    ctx.ingestRound names referenceOnly state =
      (ctx.ingestedOf names).foldl (·.absorb · referenceOnly)
        { state with loaded := state.loaded ++ ctx.known names } := by
  rw [ingestRound, CompileState.foldl_markLoaded, known]

/-- The state after the selected workbooks. -/
def firstRound (ctx : RunContext) : CompileState :=
  ctx.ingestRound ctx.selected false CompileState.empty

/-- The workbooks that are ingested for look-ups only. -/
def secondary (ctx : RunContext) : List String := ctx.missingWorkbooks ctx.firstRound

/-- The state after all workbooks. -/
def secondRound (ctx : RunContext) : CompileState :=
  ctx.ingestRound ctx.secondary true (Run.lookUp ctx ctx.firstRound).1

/-- The state that is validated. -/
def mergedState (ctx : RunContext) : CompileState := ctx.secondRound.buildMerges

/-- A round is clean when the state before it is, and the state admits the sheets of the round. -/
theorem isClean_ingestRound_iff {ctx : RunContext} {names : List String} {referenceOnly : Bool}
    {state : CompileState} :
    (ctx.ingestRound names referenceOnly state).isClean = true ↔
      state.isClean = true ∧ state.AdmitsAll (ctx.ingestedOf names) := by
  rw [ingestRound_eq, CompileState.isClean_foldl_absorb_iff]
  constructor
  · rintro ⟨clean, admits⟩
    exact ⟨clean, ⟨admits.isNew, admits.nodup, admits.isClean, admits.enums, admits.localization⟩⟩
  · rintro ⟨clean, admits⟩
    exact ⟨clean, ⟨admits.isNew, admits.nodup, admits.isClean, admits.enums, admits.localization⟩⟩

/-- A clean round appends what its sheets hold. -/
theorem ingestRound_of_admitsAll {ctx : RunContext} {names : List String} {state : CompileState}
    (referenceOnly : Bool) (h : state.AdmitsAll (ctx.ingestedOf names)) :
    ctx.ingestRound names referenceOnly state =
      { state with loaded := state.loaded ++ ctx.known names }.gatherAll
        (ctx.ingestedOf names) referenceOnly := by
  rw [ingestRound_eq]
  exact CompileState.foldl_absorb_of_admitsAll referenceOnly
    ⟨h.isNew, h.nodup, h.isClean, h.enums, h.localization⟩

/-- What two clean rounds need. -/
structure Ingests (ctx : RunContext) : Prop where
  first : CompileState.empty.AdmitsAll (ctx.ingestedOf ctx.selected)
  targets : (schemasOf ctx.firstRound).flatMap (ctx.unknownTargets ctx.firstRound) = []
  second : ctx.firstRound.AdmitsAll (ctx.ingestedOf ctx.secondary)

theorem isClean_firstRound_iff {ctx : RunContext} :
    ctx.firstRound.isClean = true ↔
      CompileState.empty.AdmitsAll (ctx.ingestedOf ctx.selected) := by
  rw [firstRound, isClean_ingestRound_iff]
  exact and_iff_right rfl

theorem isClean_secondRound_iff {ctx : RunContext} :
    ctx.secondRound.isClean = true ↔ ctx.Ingests := by
  rw [secondRound, isClean_ingestRound_iff, Run.lookUp, CompileState.isClean_report_iff,
    isClean_firstRound_iff]
  constructor
  · rintro ⟨⟨first, targets⟩, second⟩
    exact ⟨first, targets,
      ⟨second.isNew, second.nodup, second.isClean, second.enums, second.localization⟩⟩
  · rintro ⟨first, targets, second⟩
    exact ⟨⟨first, targets⟩,
      ⟨second.isNew, second.nodup, second.isClean, second.enums, second.localization⟩⟩

/-- The state after a clean first round. -/
theorem firstRound_eq {ctx : RunContext}
    (h : CompileState.empty.AdmitsAll (ctx.ingestedOf ctx.selected)) :
    ctx.firstRound =
      { CompileState.empty with loaded := ctx.known ctx.selected }.gatherAll
        (ctx.ingestedOf ctx.selected) false :=
  ingestRound_of_admitsAll false h

/-- The state after two clean rounds. -/
theorem secondRound_eq {ctx : RunContext} (h : ctx.Ingests) :
    ctx.secondRound =
      { ctx.firstRound with loaded := ctx.firstRound.loaded ++ ctx.known ctx.secondary }.gatherAll
        (ctx.ingestedOf ctx.secondary) true := by
  have same : (Run.lookUp ctx ctx.firstRound).1 = ctx.firstRound := by
    rw [Run.lookUp, CompileState.report, h.targets, List.append_nil]
  rw [secondRound, same]
  exact ingestRound_of_admitsAll true h.second

/-- What a run needs to reach validation. -/
structure Reaches (ctx : RunContext) : Prop extends Ingests ctx where
  merges : ∀ outcome ∈ ctx.secondRound.mergeOutcomes, CompileState.mergeProblems outcome = []

theorem isClean_mergedState_iff {ctx : RunContext} :
    ctx.mergedState.isClean = true ↔ ctx.Reaches := by
  rw [mergedState, CompileState.isClean_buildMerges_iff, isClean_secondRound_iff]
  constructor
  · rintro ⟨ingests, merges⟩
    exact ⟨ingests, merges⟩
  · rintro ⟨ingests, merges⟩
    exact ⟨ingests, merges⟩

end RunContext

namespace Run

variable {ctx : RunContext} {state : CompileState}

/-- A stage after another one is reached exactly when what the other one gives passes a check. -/
theorem next_eq_some_iff {α β : Type} {before : Option α} {given : α} {reached : Prop}
    (only : ∀ x, before = some x ↔ reached ∧ x = given) {passes : α → Bool}
    (implied : passes given = true → reached) (next : α → β) {after : β} :
    (before.filter passes).map next = some after ↔ passes given = true ∧ after = next given := by
  rw [Option.map_eq_some_iff]
  constructor
  · rintro ⟨x, found, rfl⟩
    obtain ⟨found, passed⟩ := Option.filter_eq_some_iff.1 found
    obtain ⟨-, rfl⟩ := (only x).1 found
    exact ⟨passed, rfl⟩
  · rintro ⟨passed, rfl⟩
    have found := (only given).2 ⟨implied passed, rfl⟩
    exact ⟨given, Option.filter_eq_some_iff.2 ⟨found, passed⟩, rfl⟩

theorem lookedUp_eq_some_iff {looked : CompileState × List String} :
    (ofContext ctx).lookedUp = some looked ↔
      ctx.firstRound.isClean = true ∧ looked = lookUp ctx ctx.firstRound := by
  have stage : (ofContext ctx).lookedUp =
      if ctx.firstRound.isClean then some (lookUp ctx ctx.firstRound) else none := rfl
  rw [stage, Option.ite_none_right_eq_some, Option.some.injEq, eq_comm (a := looked)]

theorem referenced_eq_some_iff : (ofContext ctx).referenced = some state ↔
    (lookUp ctx ctx.firstRound).1.isClean = true ∧ state = ctx.secondRound :=
  next_eq_some_iff (fun _ => lookedUp_eq_some_iff)
    (fun clean => (CompileState.isClean_report_iff.1 clean).1)
    fun looked => ctx.ingestRound looked.2 true looked.1

theorem merged_eq_some_iff : (ofContext ctx).merged = some state ↔
    ctx.secondRound.isClean = true ∧ state = ctx.mergedState :=
  next_eq_some_iff (fun _ => referenced_eq_some_iff)
    (fun clean => (RunContext.isClean_ingestRound_iff.1 clean).1) CompileState.buildMerges

/-- A run is validated exactly when everything before was clean. -/
theorem validated_eq_some_iff {validated : Validated} :
    (ofContext ctx).validated = some validated ↔
      ctx.Reaches ∧ validated = Validated.ofState ctx.mergedState := by
  rw [← RunContext.isClean_mergedState_iff]
  exact next_eq_some_iff (fun _ => merged_eq_some_iff)
    (fun clean => (CompileState.isClean_buildMerges_iff.1 clean).1) Validated.ofState

/-- How a run ends: in the state of the first stage with a problem, or in the validated one. -/
inductive Ends (ctx : RunContext) : CompileState → Prop
  | ingest (faulty : ctx.firstRound.isClean = false) : Ends ctx ctx.firstRound
  | targets (clean : ctx.firstRound.isClean = true)
      (faulty : (lookUp ctx ctx.firstRound).1.isClean = false) :
      Ends ctx (lookUp ctx ctx.firstRound).1
  | references (clean : (lookUp ctx ctx.firstRound).1.isClean = true)
      (faulty : ctx.secondRound.isClean = false) : Ends ctx ctx.secondRound
  | merge (clean : ctx.secondRound.isClean = true) (faulty : ctx.mergedState.isClean = false) :
      Ends ctx ctx.mergedState
  | validate (reaches : ctx.Reaches) : Ends ctx (Validated.ofState ctx.mergedState).state

theorem ends_finalState (ctx : RunContext) : Ends ctx (ofContext ctx).finalState := by
  have stopped {α : Type} {stage : Option α} {given : α} {clean : Bool}
      (only : ∀ x, stage = some x ↔ clean = true ∧ x = given) (none : stage = none) :
      clean = false := by
    rw [← Bool.not_eq_true]
    intro passed
    rw [(only given).2 ⟨passed, rfl⟩] at none
    cases none
  rw [finalState]
  cases validated : (ofContext ctx).validated with
  | some validated =>
    obtain ⟨reaches, rfl⟩ := validated_eq_some_iff.1 validated
    exact .validate reaches
  | none =>
    cases merged : (ofContext ctx).merged with
    | some state =>
      obtain ⟨clean, same⟩ := merged_eq_some_iff.1 merged
      have faulty : ctx.mergedState.isClean = false := stopped (fun _ => by
        rw [validated_eq_some_iff, RunContext.isClean_mergedState_iff]) validated
      exact same ▸ .merge clean faulty
    | none =>
      cases referenced : (ofContext ctx).referenced with
      | some state =>
        obtain ⟨clean, same⟩ := referenced_eq_some_iff.1 referenced
        exact same ▸ .references clean (stopped (fun _ => merged_eq_some_iff) merged)
      | none =>
        cases lookedUp : (ofContext ctx).lookedUp with
        | some looked =>
          obtain ⟨clean, rfl⟩ := lookedUp_eq_some_iff.1 lookedUp
          exact .targets clean (stopped (fun _ => referenced_eq_some_iff) referenced)
        | none => exact .ingest (stopped (fun _ => lookedUp_eq_some_iff) lookedUp)

/-- Validation finds nothing wrong exactly when nothing was before and no table has a problem. -/
theorem isClean_ofState_iff {state : CompileState} :
    (Validated.ofState state).state.isClean = true ↔ state.isClean = true ∧
      ∀ target ∈ state.targets,
        (TableValidation.ofTarget target state.validationContext).diagnostics = [] := by
  rw [Validated.ofState, CompileState.isClean_report_iff, List.flatMap_eq_nil_iff]
  refine and_congr_right fun _ => ⟨fun none target mem => ?_, fun none result mem => ?_⟩
  · exact none _ (List.mem_map_of_mem mem)
  · obtain ⟨target, known, rfl⟩ := List.mem_map.1 mem
    exact none target known

/-- A run ends with writing exactly when validation finds nothing wrong. -/
theorem stage_eq_emit_iff {ctx : RunContext} :
    (ofContext ctx).stage = .emit ↔
      ctx.Reaches ∧ (Validated.ofState ctx.mergedState).state.isClean = true := by
  rw [stage]
  cases found : (ofContext ctx).validated with
  | some validated =>
    obtain ⟨reaches, rfl⟩ := validated_eq_some_iff.1 found
    dsimp only
    split
    next clean => exact ⟨fun _ => ⟨reaches, clean⟩, fun _ => rfl⟩
    next faulty => exact ⟨fun h => (by cases h), fun h => absurd h.2 faulty⟩
  | none =>
    constructor
    · intro h
      exfalso
      revert h
      cases (ofContext ctx).merged <;> cases (ofContext ctx).lookedUp <;> exact Stage.noConfusion
    · rintro ⟨reaches, _⟩
      have := validated_eq_some_iff.2 ⟨reaches, rfl⟩
      rw [found] at this
      cases this

/-- A run that found no problem came to writing. -/
theorem stage_of_clean {ctx : RunContext} (h : (ofContext ctx).finalState.diagnostics = []) :
    (ofContext ctx).stage = .emit := by
  have ends := ends_finalState ctx
  rw [← CompileState.isClean_iff] at h
  generalize (ofContext ctx).finalState = state at h ends
  cases ends with
  | validate reaches => exact stage_eq_emit_iff.2 ⟨reaches, h⟩
  | ingest faulty | targets _ faulty | references _ faulty | merge _ faulty =>
    rw [faulty] at h
    cases h

/-- The state at the end of a run that writes is the one it validated. -/
theorem finalState_of_emit {ctx : RunContext} (h : (ofContext ctx).stage = .emit) :
    (ofContext ctx).finalState = (Validated.ofState ctx.mergedState).state := by
  have found := validated_eq_some_iff.2 ⟨(stage_eq_emit_iff.1 h).1, rfl⟩
  rw [finalState, found]

/-- A run that found no problem writes everything, unless it is dry. -/
theorem mem_files_iff {ctx : RunContext} {validated : Validated}
    (h : (ofContext ctx).validated = some validated) {file : OutputFile} :
    file ∈ (ofContext ctx).files ctx ↔
      (validated.state.isClean = true ∧ ctx.dryRun = false) ∧
        file ∈ validated.output.files ctx.options := by
  rw [files, h]
  dsimp only
  split
  next writes =>
    rw [Bool.and_eq_true, Bool.not_eq_true'] at writes
    exact (and_iff_right writes).symm
  next idle =>
    rw [Bool.and_eq_true, Bool.not_eq_true'] at idle
    exact iff_of_false List.not_mem_nil fun h => idle h.1

/-- The records that a run writes under a path. -/
def recordsAt (ctx : RunContext) (path : String) : List Rendered :=
  (((ofContext ctx).files ctx).filter fun file =>
    file.path == path && (file.role == .records || file.role == .shard)).map (·.content)

theorem mem_recordsAt_iff {ctx : RunContext} {path : String} {content : Rendered} :
    content ∈ recordsAt ctx path ↔ ∃ file ∈ (ofContext ctx).files ctx,
      file.path = path ∧ (file.role = .records ∨ file.role = .shard) ∧ file.content = content := by
  rw [recordsAt, List.mem_map]
  refine exists_congr fun file => ?_
  rw [List.mem_filter, Bool.and_eq_true, Bool.or_eq_true, beq_iff_eq, beq_iff_eq, beq_iff_eq,
    and_assoc, and_assoc]

end Run

end DesignTables
