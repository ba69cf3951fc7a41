import DesignTables.Validation.Table
import Mathlib.Logic.Basic

/-!
# What a validation without problems says of the cells

A table has no problem when no cell of it has one, and a cell has none when each of its checks has
none. A reference that is checked without a problem is zero, where that means none, or resolves.
-/
namespace DesignTables

namespace ValidationTarget

/-- A cell of the table as it is checked. -/
def cell (target : ValidationTarget) (column : Column) (slot : Nat) (row : TableRow)
    (position : Nat) : CheckedCell :=
  ⟨target.schema, column, slot, row, target.rows.take position⟩

/-- What the checks find in a cell of the table. -/
def outcome (target : ValidationTarget) (ctx : ValidationContext) (column : Column) (slot : Nat)
    (row : TableRow) (position : Nat) : CellOutcome :=
  (target.cell column slot row position).check ctx
    ((TableValidation.changedSlots target.schema ctx).contains slot)

end ValidationTarget

namespace TableValidation

variable {target : ValidationTarget} {ctx : ValidationContext}

/-- A table has no problem exactly when no cell has one. -/
theorem diagnostics_ofTarget_eq_nil_iff :
    (ofTarget target ctx).diagnostics = [] ↔
      ∀ row position, (row, position) ∈ target.rows.zipIdx →
        ∀ column slot, (column, slot) ∈ target.schema.slots →
          (target.outcome ctx column slot row position).problems = [] := by
  rw [ofTarget]
  simp only [List.flatMap_eq_nil_iff, List.mem_map, rowDiagnostics, rowOutcomes]
  constructor
  · intro none row position mem column slot mem'
    have cells := none _ ⟨(row, position), mem, rfl⟩ _ (List.mem_map.2 ⟨(column, slot), mem', rfl⟩)
    exact List.map_eq_nil_iff.1 cells
  · rintro none _ ⟨⟨row, position⟩, mem, rfl⟩ _ mem'
    obtain ⟨⟨column, slot⟩, known, rfl⟩ := List.mem_map.1 mem'
    exact List.map_eq_nil_iff.2 (none row position mem column slot known)

end TableValidation

namespace CheckedCell

variable {cell : CheckedCell}

theorem problems_andThen (first second : CellOutcome) :
    (first.andThen second).problems = first.problems ++ second.problems := rfl

/-- A cell has no problem exactly when each check finds none. -/
theorem check_problems_eq_nil_iff {ctx : ValidationContext} {substituted : Bool} :
    (cell.check ctx substituted).problems = [] ↔
      cell.checkUnique.problems = [] ∧ (cell.checkEnum ctx.enums).problems = [] ∧
        (cell.checkLocalText ctx.localization).problems = [] ∧
        (cell.checkSize ctx.sizes).problems = [] ∧
        (cell.checkReference ctx.references substituted).problems = [] := by
  simp only [check, problems_andThen, List.append_eq_nil_iff, and_assoc]

theorem lookUp_problems_eq_nil_iff {elements : List String} {find? : String → Option String}
    {problem : String → Problem} :
    (lookUp elements find? problem).1 = [] ↔ ∀ element ∈ elements, (find? element).isSome := by
  rw [lookUp]
  simp only [List.filterMap_eq_nil_iff]
  refine forall_congr' fun element => imp_congr_right fun _ => ?_
  cases find? element <;> simp

/-- Every element of a checked cell without problems names no reference or resolves. -/
theorem resolved_of_checkReference {references : ReferenceIndex} {substituted : Bool}
    (none : (cell.checkReference references substituted).problems = []) {target : ReferenceTarget}
    (checked : cell.column.check = some target) {element : String}
    (mem : element ∈ cell.elements) :
    isNoReference cell.column element = true ∨
      (references.resolve? target.originName element).isSome := by
  rw [checkReference, checked] at none
  dsimp only at none
  split at none
  · cases none
  · split at none
    next empty =>
      rw [List.isEmpty_iff.1 empty] at mem
      exact absurd mem List.not_mem_nil
    next =>
      have found := lookUp_problems_eq_nil_iff.1 none element mem
      rw [dereference?] at found
      split at found
      next zero => exact .inl zero
      next => exact .inr found

/-- Every element of a checked localized text without problems is a known key. -/
theorem hasKey_of_checkLocalText {localization : LocalizationRegistry}
    (none : (cell.checkLocalText localization).problems = [])
    (localized : cell.column.dataType = some .localText) {element : String}
    (mem : element ∈ cell.elements) : localization.hasKey element = true := by
  rw [checkLocalText, if_pos localized] at none
  have unknown := List.filter_eq_nil_iff.1 (List.map_eq_nil_iff.1 none) element mem
  rwa [Bool.not_eq_true', Bool.not_eq_false] at unknown

theorem isNoReference_iff {column : Column} {element : String} :
    isNoReference column element = true ↔
      (column.dataType = some .int ∨ column.dataType = some .float) ∧ element = "0" := by
  rw [isNoReference, Bool.and_eq_true, Bool.or_eq_true, beq_iff_eq, beq_iff_eq, beq_iff_eq]

end CheckedCell

end DesignTables
