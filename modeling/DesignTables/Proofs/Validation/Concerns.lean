import DesignTables.Proofs.Validation.Problems

/-!
# Which check reports which problem

Every code that validation can report belongs to one check. So the diagnostics of a table with the
codes of one check are those that this check alone gives, cell by cell.
-/
namespace DesignTables

/-- What a check of a cell is about. -/
inductive Concern where
  | uniqueness | enumeration | localText | size | reference
deriving DecidableEq, Repr

/-- The check that reports a code, if one does. -/
def Code.concern? : Code → Option Concern
  | .duplicateUniqueValue => some .uniqueness
  | .undefinedTypeGroup | .typeNoneRequired | .invalidTypeText | .emptyTypeValue =>
    some .enumeration
  | .unknownLocalTextKey => some .localText
  | .arraySizeMissing | .arraySizeRefMissing | .arraySizeRefMismatch => some .size
  | .referenceValueNotFound | .referenceOriginMissing => some .reference
  | _ => none

namespace CheckedCell

variable {cell : CheckedCell} {problem : Problem}

theorem mem_lookUp_iff {elements : List String} {find? : String → Option String}
    {problemOf : String → Problem} :
    problem ∈ (lookUp elements find? problemOf).1 ↔
      ∃ element ∈ elements, find? element = none ∧ problem = problemOf element := by
  rw [lookUp, List.mem_filterMap]
  refine exists_congr fun element => and_congr_right fun _ => ?_
  cases find? element with
  | some value => simp
  | none => simp [eq_comm]

theorem eq_of_mem_refuse {given : Problem}
    (h : problem ∈ (CellOutcome.refuse given).problems) : problem = given :=
  List.mem_singleton.1 h

theorem not_mem_clean : problem ∉ CellOutcome.clean.problems := List.not_mem_nil

theorem not_mem_resolve {value : String} : problem ∉ (CellOutcome.resolve value).problems :=
  List.not_mem_nil

theorem concern_of_checkUnique (h : problem ∈ cell.checkUnique.problems) :
    problem.code.concern? = some .uniqueness := by
  rw [checkUnique] at h
  split at h
  · rw [eq_of_mem_refuse h]
    rfl
  · exact absurd h not_mem_clean

theorem concern_of_checkInGroup {enums : EnumRegistry} {group : String}
    (h : problem ∈ (cell.checkInGroup enums group).problems) :
    problem.code.concern? = some .enumeration := by
  rw [checkInGroup] at h
  split at h
  · rw [checkNone] at h
    split at h
    · exact absurd h not_mem_resolve
    · split at h
      · exact absurd h not_mem_resolve
      · rw [eq_of_mem_refuse h]
        rfl
  · split at h
    · rw [eq_of_mem_refuse h]
      rfl
    · split at h
      · split at h
        · exact absurd h not_mem_clean
        · rw [eq_of_mem_refuse h]
          rfl
      · obtain ⟨element, -, -, rfl⟩ := mem_lookUp_iff.1 h
        rfl

theorem concern_of_checkEnum {enums : EnumRegistry}
    (h : problem ∈ (cell.checkEnum enums).problems) :
    problem.code.concern? = some .enumeration := by
  rw [checkEnum] at h
  split at h
  · exact concern_of_checkInGroup h
  · split at h
    · exact concern_of_checkInGroup h
    · rw [eq_of_mem_refuse h]
      rfl
  · exact absurd h not_mem_clean

theorem concern_of_checkLocalText {localization : LocalizationRegistry}
    (h : problem ∈ (cell.checkLocalText localization).problems) :
    problem.code.concern? = some .localText := by
  rw [checkLocalText] at h
  split at h
  · obtain ⟨key, -, rfl⟩ := List.mem_map.1 h
    rfl
  · exact absurd h not_mem_clean

theorem concern_of_checkSize {sizes : SizeIndex} (h : problem ∈ (cell.checkSize sizes).problems) :
    problem.code.concern? = some .size := by
  rw [checkSize] at h
  split at h
  · exact absurd h not_mem_clean
  · dsimp only at h
    split at h
    · rw [eq_of_mem_refuse h]
      rfl
    · rw [eq_of_mem_refuse h]
      rfl
    · split at h
      · exact absurd h not_mem_clean
      · rw [eq_of_mem_refuse h]
        rfl

theorem concern_of_checkReference {references : ReferenceIndex} {substituted : Bool}
    (h : problem ∈ (cell.checkReference references substituted).problems) :
    problem.code.concern? = some .reference := by
  rw [checkReference] at h
  split at h
  · exact absurd h not_mem_clean
  · split at h
    · rw [eq_of_mem_refuse h]
      rfl
    · split at h
      · split at h
        · exact absurd h not_mem_resolve
        · exact absurd h not_mem_clean
      · obtain ⟨element, -, -, rfl⟩ := mem_lookUp_iff.1 h
        rfl

theorem mem_check_iff {ctx : ValidationContext} {substituted : Bool} :
    problem ∈ (cell.check ctx substituted).problems ↔
      problem ∈ cell.checkUnique.problems ∨ problem ∈ (cell.checkEnum ctx.enums).problems ∨
        problem ∈ (cell.checkLocalText ctx.localization).problems ∨
        problem ∈ (cell.checkSize ctx.sizes).problems ∨
        problem ∈ (cell.checkReference ctx.references substituted).problems := by
  simp only [check, problems_andThen, List.mem_append, or_assoc]

/-- The problems that the check of a concern finds. -/
def problemsOf (cell : CheckedCell) (ctx : ValidationContext) (substituted : Bool) :
    Concern → List Problem
  | .uniqueness => cell.checkUnique.problems
  | .enumeration => (cell.checkEnum ctx.enums).problems
  | .localText => (cell.checkLocalText ctx.localization).problems
  | .size => (cell.checkSize ctx.sizes).problems
  | .reference => (cell.checkReference ctx.references substituted).problems

theorem concern_of_problemsOf {ctx : ValidationContext} {substituted : Bool} {concern : Concern}
    (h : problem ∈ cell.problemsOf ctx substituted concern) :
    problem.code.concern? = some concern := by
  cases concern with
  | uniqueness => exact concern_of_checkUnique h
  | enumeration => exact concern_of_checkEnum h
  | localText => exact concern_of_checkLocalText h
  | size => exact concern_of_checkSize h
  | reference => exact concern_of_checkReference h

/-- Among the problems of a cell those of a concern are the ones that its check finds. -/
theorem filter_check (cell : CheckedCell) (ctx : ValidationContext) (substituted : Bool)
    (concern : Concern) :
    (cell.check ctx substituted).problems.filter (·.code.concern? == some concern) =
      cell.problemsOf ctx substituted concern := by
  have own (other : Concern) :
      (cell.problemsOf ctx substituted other).filter (·.code.concern? == some concern) =
        if other = concern then cell.problemsOf ctx substituted other else [] := by
    split
    next same =>
      refine List.filter_eq_self.2 fun problem mem => ?_
      rw [concern_of_problemsOf mem, same, beq_self_eq_true]
    next apart =>
      refine List.filter_eq_nil_iff.2 fun problem mem => ?_
      rw [concern_of_problemsOf mem, beq_iff_eq]
      exact fun same => apart (Option.some.inj same)
  have parts : (cell.check ctx substituted).problems =
      [.uniqueness, .enumeration, .localText, .size, .reference].flatMap
        (cell.problemsOf ctx substituted) := by
    simp only [check, problems_andThen, List.flatMap_cons, List.flatMap_nil, List.append_nil,
      List.append_assoc, problemsOf]
  rw [parts, List.filter_flatMap]
  simp only [own]
  cases concern <;> simp

/-- A problem of a concern comes from its check. -/
theorem mem_check_iff_of_concern {ctx : ValidationContext} {substituted : Bool} {concern : Concern}
    (h : problem.code.concern? = some concern) :
    problem ∈ (cell.check ctx substituted).problems ↔
      problem ∈ cell.problemsOf ctx substituted concern := by
  rw [← filter_check, List.mem_filter, h, beq_self_eq_true]
  exact (and_iff_left rfl).symm

/-- Element counts fit when both are recorded and the same. -/
theorem checkSize_problems_eq_nil_iff {sizes : SizeIndex} :
    (cell.checkSize sizes).problems = [] ↔ ∀ source, cell.column.arraySizeRef = some source →
      ∃ count, sizes.get? cell.schema.name cell.slot cell.row.row = some count ∧
        sizes.get? cell.schema.name source cell.row.row = some count := by
  rw [checkSize]
  cases cell.column.arraySizeRef with
  | none => exact iff_of_true rfl fun _ none => by cases none
  | some source =>
    simp only [Option.some.injEq, forall_eq']
    cases own : sizes.get? cell.schema.name cell.slot cell.row.row with
    | none => simp [CellOutcome.refuse]
    | some count =>
      cases other : sizes.get? cell.schema.name source cell.row.row with
      | none => simp [CellOutcome.refuse]
      | some count' =>
        dsimp only
        split
        next same => simp [same, CellOutcome.clean]
        next apart => simp [Ne.symm apart, CellOutcome.refuse]

end CheckedCell

namespace ValidationTarget

/-- What the checks report of a cell of the table. -/
def cellDiagnostics (target : ValidationTarget) (ctx : ValidationContext) (column : Column)
    (slot : Nat) (row : TableRow) (position : Nat) : List Diagnostic :=
  let (origin, gridRow, gridColumn) := target.locate position slot row column
  (target.outcome ctx column slot row position).problems.map fun problem =>
    Diagnostic.of problem origin column.title gridRow gridColumn

end ValidationTarget

namespace TableValidation

variable {target : ValidationTarget} {ctx : ValidationContext}

/-- Whether a validation reports a problem of some concern. -/
def Reports (validation : TableValidation) (concern : Concern) : Prop :=
  ∃ d ∈ validation.diagnostics, d.code.concern? = some concern

instance (validation : TableValidation) (concern : Concern) :
    Decidable (validation.Reports concern) :=
  inferInstanceAs (Decidable (∃ d ∈ validation.diagnostics, d.code.concern? = some concern))

/-- The problems of a table stand in the order of its rows, and in a row in the order of slots. -/
theorem diagnostics_ofTarget (target : ValidationTarget) (ctx : ValidationContext) :
    (ofTarget target ctx).diagnostics = target.rows.zipIdx.flatMap fun stored =>
      target.schema.slots.flatMap fun given =>
        target.cellDiagnostics ctx given.1 given.2 stored.1 stored.2 := by
  unfold ofTarget rowDiagnostics rowOutcomes
  simp only [List.flatMap_map]
  rfl

/-- A table reports what its cells report. -/
theorem mem_diagnostics_ofTarget_iff {d : Diagnostic} :
    d ∈ (ofTarget target ctx).diagnostics ↔
      ∃ row position, (row, position) ∈ target.rows.zipIdx ∧
        ∃ column slot, (column, slot) ∈ target.schema.slots ∧
          d ∈ target.cellDiagnostics ctx column slot row position := by
  simp only [diagnostics_ofTarget, List.mem_flatMap, Prod.exists]

/-- No element count is reported exactly when all that are compared are recorded and the same. -/
theorem not_reports_size_iff : ¬ (ofTarget target ctx).Reports .size ↔
    ∀ row position, (row, position) ∈ target.rows.zipIdx →
      ∀ column slot, (column, slot) ∈ target.schema.slots →
        ∀ source, column.arraySizeRef = some source →
          ∃ count, ctx.sizes.get? target.schema.name slot row.row = some count ∧
            ctx.sizes.get? target.schema.name source row.row = some count := by
  have cells : ¬ (ofTarget target ctx).Reports .size ↔
      ∀ row position, (row, position) ∈ target.rows.zipIdx →
        ∀ column slot, (column, slot) ∈ target.schema.slots →
          ((target.cell column slot row position).checkSize ctx.sizes).problems = [] := by
    constructor
    · intro silent row position stored column slot place
      refine List.eq_nil_iff_forall_not_mem.2 fun problem found => silent ?_
      have concern := CheckedCell.concern_of_checkSize found
      have reported : _ ∈ target.cellDiagnostics ctx column slot row position :=
        List.mem_map_of_mem ((CheckedCell.mem_check_iff_of_concern concern).2 found)
      exact ⟨_, mem_diagnostics_ofTarget_iff.2
        ⟨row, position, stored, column, slot, place, reported⟩, concern⟩
    · rintro none ⟨d, reported, concern⟩
      obtain ⟨row, position, stored, column, slot, place, own⟩ :=
        mem_diagnostics_ofTarget_iff.1 reported
      obtain ⟨problem, found, rfl⟩ := List.mem_map.1 own
      have sized := (CheckedCell.mem_check_iff_of_concern concern).1 found
      rw [CheckedCell.problemsOf, none row position stored column slot place] at sized
      exact absurd sized List.not_mem_nil
  rw [cells]
  simp only [CheckedCell.checkSize_problems_eq_nil_iff]
  rfl

end TableValidation

end DesignTables
