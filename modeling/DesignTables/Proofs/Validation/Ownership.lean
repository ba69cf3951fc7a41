import DesignTables.Proofs.Index.Unions
import DesignTables.Proofs.Validation.Problems
import Mathlib.Algebra.GroupWithZero.Nat
import Mathlib.Data.List.Nodup

/-!
# Which cells the validation of a table writes

A cell is written when the checks of some row of its number give a value for it, or when its column
has a `change` directive. Every write bears the name of the table, so the overlays of tables with
different names have no cell in common, and in their union each cell reads as in the overlay of its
own table.
-/
namespace DesignTables

namespace Overlay

/-- All cells of the overlay belong to one table. -/
def BelongsTo (overlay : Overlay) (table : String) : Prop := ∀ cell ∈ overlay.cells, cell.1 = table

variable {overlay : Overlay} {table : String}

/-- An overlay of one table has no value for a cell of another. -/
theorem BelongsTo.get?_eq_none (h : overlay.BelongsTo table) {other : String} (apart : other ≠ table)
    (row slot : Nat) : overlay.get? other row slot = none := by
  rw [← Option.not_isSome_iff_eq_none]
  intro found
  exact apart (h (other, row, slot) (mem_cells_iff.2 found))

theorem BelongsTo.disjoint (h : overlay.BelongsTo table) {other : Overlay} {name : String}
    (h' : other.BelongsTo name) (apart : table ≠ name) : List.Disjoint overlay.cells other.cells := by
  intro cell mem mem'
  exact apart ((h cell mem).symm.trans (h' cell mem'))

/-- Nothing is lost when overlays without common cells are put together. -/
theorem size_foldl_absorb {γ : Type} {read : γ → Overlay} {members : List γ} (start : Overlay)
    (apart : members.Pairwise fun a b => List.Disjoint (read a).cells (read b).cells)
    (new : ∀ member ∈ members, List.Disjoint start.cells (read member).cells) :
    (members.foldl (fun overlay member => overlay.absorb (read member)) start).size =
      start.size + (members.map fun member => (read member).size).sum := by
  induction members generalizing start with
  | nil => simp
  | cons member members ih =>
    obtain ⟨first, rest⟩ := List.pairwise_cons.1 apart
    have size : (start.absorb (read member)).size = start.size + (read member).size :=
      size_absorb_of_disjoint fun cell mem known => new member List.mem_cons_self known mem
    rw [List.foldl_cons, ih (start.absorb (read member)) rest, size, List.map_cons, List.sum_cons]
    · omega
    · intro later mem cell known
      rcases mem_cells_absorb.1 known with known | known
      · exact new later (List.mem_cons_of_mem _ mem) known
      · exact first later mem known

/-- Where each step adds the cells of its member, a fold adds the cells of all members. -/
theorem mem_cells_foldl {γ : Type} {step : Overlay → γ → Overlay} {cell : String × Nat × Nat}
    {writes : γ → Prop} (each : ∀ overlay one, cell ∈ (step overlay one).cells ↔
      cell ∈ overlay.cells ∨ writes one) (list : List γ) (start : Overlay) :
    cell ∈ (list.foldl step start).cells ↔ cell ∈ start.cells ∨ ∃ one ∈ list, writes one := by
  induction list generalizing start with
  | nil => simp
  | cons one list ih =>
    rw [List.foldl_cons, ih, each, List.exists_mem_cons_iff, or_assoc]

end Overlay

namespace TableValidation

variable {target : ValidationTarget} {ctx : ValidationContext} {schema : Schema}

theorem mem_cells_overlayRow {table : String} {row : TableRow}
    {outcomes : List (Column × Nat × CellOutcome)} {overlay : Overlay}
    {cell : String × Nat × Nat} :
    cell ∈ (overlayRow table row outcomes overlay).cells ↔
      cell ∈ overlay.cells ∨
        ∃ given ∈ outcomes, given.2.2.resolved.isSome ∧ cell = (table, row.row, given.2.1) := by
  unfold overlayRow
  apply Overlay.mem_cells_foldl
  intro now given
  obtain ⟨column, slot, outcome⟩ := given
  dsimp only
  cases outcome.resolved with
  | none => simp
  | some value => simp [Overlay.mem_cells_set, or_comm]

/-- One step of copying along `change` directives. -/
def copyChange (table : String) (row : TableRow) (overlay : Overlay) (given : Column × Nat) :
    Overlay :=
  match given.1.change with
  | none => overlay
  | some source =>
    overlay.set table row.row given.2 ((overlay.get? table row.row source).getD (row.value source))

theorem propagate_eq (schema : Schema) (row : TableRow) (overlay : Overlay) :
    propagate schema row overlay = schema.slots.foldl (copyChange schema.name row) overlay := rfl

theorem mem_cells_propagate {row : TableRow} {overlay : Overlay} {cell : String × Nat × Nat} :
    cell ∈ (propagate schema row overlay).cells ↔
      cell ∈ overlay.cells ∨
        ∃ given ∈ schema.slots, given.1.change.isSome ∧ cell = (schema.name, row.row, given.2) := by
  rw [propagate_eq]
  apply Overlay.mem_cells_foldl
  intro now given
  obtain ⟨column, slot⟩ := given
  unfold copyChange
  cases column.change with
  | none => simp
  | some source => simp [Overlay.mem_cells_set, or_comm]

/-- What a row of a table writes over what was written before. -/
def writeRow (target : ValidationTarget) (ctx : ValidationContext) (overlay : Overlay)
    (given : TableRow × Nat) : Overlay :=
  propagate target.schema given.1 (overlayRow target.schema.name given.1
    (rowOutcomes target.schema ctx (changedSlots target.schema ctx)
      (target.rows.take given.2) given.1) overlay)

theorem overlay_ofTarget (target : ValidationTarget) (ctx : ValidationContext) :
    (ofTarget target ctx).overlay =
      target.rows.zipIdx.foldl (writeRow target ctx) Overlay.empty := by
  rw [ofTarget]
  exact List.foldl_map

/-- The rows of a table write the cells that their checks give values for and those of the columns
with a `change` directive. -/
theorem mem_cells_ofTarget {cell : String × Nat × Nat} :
    cell ∈ (ofTarget target ctx).overlay.cells ↔
      ∃ row position, (row, position) ∈ target.rows.zipIdx ∧
        ∃ column slot, (column, slot) ∈ target.schema.slots ∧
          ((target.outcome ctx column slot row position).resolved.isSome ∨ column.change.isSome) ∧
          cell = (target.schema.name, row.row, slot) := by
  have each (overlay : Overlay) (given : TableRow × Nat) :
      cell ∈ (writeRow target ctx overlay given).cells ↔
        cell ∈ overlay.cells ∨ ∃ column slot, (column, slot) ∈ target.schema.slots ∧
          ((target.outcome ctx column slot given.1 given.2).resolved.isSome ∨
            column.change.isSome) ∧ cell = (target.schema.name, given.1.row, slot) := by
    unfold writeRow
    rw [mem_cells_propagate, mem_cells_overlayRow, or_assoc]
    apply or_congr_right
    constructor
    · rintro (⟨_, mem, resolved, rfl⟩ | ⟨⟨column, slot⟩, mem, changed, rfl⟩)
      · obtain ⟨⟨column, slot⟩, place, rfl⟩ := List.mem_map.1 mem
        exact ⟨column, slot, place, .inl resolved, rfl⟩
      · exact ⟨column, slot, mem, .inr changed, rfl⟩
    · rintro ⟨column, slot, place, resolved | changed, rfl⟩
      · exact .inl ⟨_, List.mem_map_of_mem place, resolved, rfl⟩
      · exact .inr ⟨(column, slot), place, changed, rfl⟩
  rw [overlay_ofTarget, Overlay.mem_cells_foldl each]
  constructor
  · rintro (absent | ⟨⟨row, position⟩, stored, written⟩)
    · exact absurd absent List.not_mem_nil
    · exact ⟨row, position, stored, written⟩
  · rintro ⟨row, position, stored, written⟩
    exact .inr ⟨(row, position), stored, written⟩

/-- A validation writes cells of its own table only. -/
theorem belongsTo_ofTarget (target : ValidationTarget) (ctx : ValidationContext) :
    (ofTarget target ctx).overlay.BelongsTo target.schema.name := by
  intro cell mem
  obtain ⟨row, position, -, column, slot, -, -, rfl⟩ := mem_cells_ofTarget.1 mem
  rfl

end TableValidation

end DesignTables
