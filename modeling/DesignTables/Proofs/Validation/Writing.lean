import DesignTables.Proofs.Header.Columns
import DesignTables.Proofs.Validation.Ownership

/-!
# What a validation writes in a cell

A row writes cells of its own number only, so where the rows of a table have different numbers a
cell is written by its own row. A column without a `change` directive is written with what its
checks give. One with a `change` directive is written with the value that its source has when it is
reached, and columns are reached in the order of slots.
-/
namespace DesignTables

namespace Schema

/-- The columns before and behind a column. -/
theorem exists_slots_split {schema : Schema} {column : Column} {slot : Nat}
    (mem : (column, slot) ∈ schema.slots) :
    ∃ before after, schema.slots = before ++ (column, slot) :: after ∧
      (∀ given ∈ before, given.2 < slot) ∧ ∀ given ∈ after, slot < given.2 := by
  obtain ⟨before, after, same⟩ := List.append_of_mem mem
  have ascending : (schema.slots.map Prod.snd).Pairwise (· < ·) := by
    rw [slots, List.zipIdx_map_snd]
    exact List.pairwise_lt_range'
  rw [same, List.map_append, List.map_cons, List.pairwise_append, List.pairwise_cons] at ascending
  obtain ⟨-, ⟨later, -⟩, earlier⟩ := ascending
  exact ⟨before, after, same,
    fun given known => earlier _ (List.mem_map_of_mem known) slot List.mem_cons_self,
    fun given known => later _ (List.mem_map_of_mem known)⟩

end Schema

namespace TableValidation

variable {schema : Schema} {ctx : ValidationContext} {row : TableRow} {overlay : Overlay}
  {column : Column} {slot : Nat}

theorem get?_set_of_ne {table : String} {number number' slot' : Nat} {value : String}
    (apart : number ≠ number' ∨ slot ≠ slot') :
    (overlay.set table number' slot' value).get? table number slot =
      overlay.get? table number slot := by
  rw [Overlay.get?_set, if_neg]
  intro same
  obtain ⟨-, same⟩ := Prod.mk.inj same
  obtain ⟨rfl, rfl⟩ := Prod.mk.inj same
  exact apart.elim (absurd rfl) (absurd rfl)

theorem get?_set_self {table : String} {number : Nat} {value : String} :
    (overlay.set table number slot value).get? table number slot = some value := by
  rw [Overlay.get?_set, if_pos rfl]

/-- The values that checks give for cells of other rows or slots are not seen in a cell. -/
theorem get?_overlayRow_of_ne {table : String} {number : Nat}
    {outcomes : List (Column × Nat × CellOutcome)}
    (apart : ∀ given ∈ outcomes, number ≠ row.row ∨ slot ≠ given.2.1) :
    (overlayRow table row outcomes overlay).get? table number slot =
      overlay.get? table number slot := by
  rw [overlayRow]
  refine List.foldlRecOn (motive := fun now : Overlay =>
    now.get? table number slot = overlay.get? table number slot) outcomes _ rfl ?_
  rintro now kept ⟨given, slot', outcome⟩ mem
  dsimp only
  split
  · rw [get?_set_of_ne (apart _ mem), kept]
  · exact kept

/-- After the checks of a row a cell has the value that they give, or else the one it had. -/
theorem get?_overlayRow_of_mem {table : String} {outcomes : List (Column × Nat × CellOutcome)}
    {outcome : CellOutcome} (nodup : (outcomes.map (·.2.1)).Nodup)
    (mem : (column, slot, outcome) ∈ outcomes) :
    (overlayRow table row outcomes overlay).get? table row.row slot =
      outcome.resolved.or (overlay.get? table row.row slot) := by
  induction outcomes generalizing overlay with
  | nil => exact absurd mem List.not_mem_nil
  | cons first rest ih =>
    obtain ⟨new, nodup⟩ := List.nodup_cons.1 nodup
    rcases List.mem_cons.1 mem with rfl | mem
    · have others : ∀ given ∈ rest, row.row ≠ row.row ∨ slot ≠ given.2.1 :=
        fun given known => .inr fun same => new (List.mem_map.2 ⟨given, known, same.symm⟩)
      refine (get?_overlayRow_of_ne others).trans ?_
      dsimp only
      split
      next value found => rw [get?_set_self, found, Option.some_or]
      next none => rw [none, Option.none_or]
    · have apart : slot ≠ first.2.1 := fun same => new (List.mem_map.2 ⟨_, mem, same⟩)
      refine (ih nodup mem).trans ?_
      dsimp only
      split
      · rw [get?_set_of_ne (.inr apart)]
      · rfl

theorem nodup_slots_rowOutcomes (schema : Schema) (ctx : ValidationContext) (changed : List Nat)
    (earlier : List TableRow) (row : TableRow) :
    ((rowOutcomes schema ctx changed earlier row).map (·.2.1)).Nodup := by
  have slots : (rowOutcomes schema ctx changed earlier row).map (·.2.1) =
      schema.slots.map Prod.snd := by
    rw [rowOutcomes, List.map_map]
    rfl
  rw [slots, Schema.slots, List.zipIdx_map_snd]
  exact List.nodup_range'

/-- Copying leaves a cell alone that belongs to another row or is none of the columns reached. -/
theorem get?_foldl_copyChange_of_ne {table : String} {number : Nat} {slots : List (Column × Nat)}
    (apart : ∀ given ∈ slots, number = row.row → given.1.change.isSome → slot ≠ given.2) :
    (slots.foldl (copyChange table row) overlay).get? table number slot =
      overlay.get? table number slot := by
  refine List.foldlRecOn (motive := fun now : Overlay =>
    now.get? table number slot = overlay.get? table number slot) slots _ rfl ?_
  intro now kept given mem
  rw [copyChange]
  split
  · exact kept
  next source change =>
    rw [get?_set_of_ne, kept]
    by_cases own : number = row.row
    · exact .inr (apart given mem own (by rw [change]; rfl))
    · exact .inl own

theorem get?_propagate_of_plain
    (plain : ∀ given, schema.column? slot = some given → given.change = none) :
    (propagate schema row overlay).get? schema.name row.row slot =
      overlay.get? schema.name row.row slot := by
  rw [propagate_eq]
  refine get?_foldl_copyChange_of_ne ?_
  rintro ⟨given, slot'⟩ mem - changes rfl
  rw [plain given (Header.column?_of_mem_slots mem)] at changes
  cases changes

/-- A column takes the value that its source is written with, where the source stands to the left of
it, and else the value that the source had before any was copied. -/
theorem get?_propagate_eq (mem : (column, slot) ∈ schema.slots) {source : Nat}
    (change : column.change = some source) :
    (propagate schema row overlay).get? schema.name row.row slot =
      some (((if source < slot then propagate schema row overlay else overlay).get? schema.name
        row.row source).getD (row.value source)) := by
  obtain ⟨before, after, same, below, above⟩ := Schema.exists_slots_split mem
  -- The columns before this one settle the sources on the left and reach no other.
  have reached : (before.foldl (copyChange schema.name row) overlay).get? schema.name row.row
      source = (if source < slot then propagate schema row overlay else overlay).get? schema.name
        row.row source := by
    split
    · next left =>
      rw [propagate_eq, same, List.foldl_append]
      symm
      apply get?_foldl_copyChange_of_ne
      intro given known _ _
      rcases List.mem_cons.1 known with rfl | known
      · exact Nat.ne_of_lt left
      · have := above given known
        omega
    · next right =>
      apply get?_foldl_copyChange_of_ne
      intro given known _ _
      have := below given known
      omega
  rw [← reached, propagate_eq, same, List.foldl_append, List.foldl_cons]
  refine (get?_foldl_copyChange_of_ne fun given known _ _ => ?_).trans ?_
  · exact Nat.ne_of_lt (above given known)
  · rw [copyChange, change]
    exact get?_set_self

/-- A column takes the value that its source has, unless the source itself takes another one
before. -/
theorem get?_propagate_of_change (mem : (column, slot) ∈ schema.slots) {source : Nat}
    (change : column.change = some source)
    (settled : ∀ given, schema.column? source = some given → source < slot →
      given.change = none) :
    (propagate schema row overlay).get? schema.name row.row slot =
      some ((overlay.get? schema.name row.row source).getD (row.value source)) := by
  rw [get?_propagate_eq mem change]
  split
  · next left => rw [get?_propagate_of_plain fun given found => settled given found left]
  · rfl

variable {target : ValidationTarget}

theorem get?_foldl_writeRow_of_ne {given : List (TableRow × Nat)} {number : Nat}
    (apart : ∀ one ∈ given, number ≠ one.1.row) :
    (given.foldl (writeRow target ctx) overlay).get? target.schema.name number slot =
      overlay.get? target.schema.name number slot := by
  refine List.foldlRecOn (motive := fun now : Overlay => now.get? target.schema.name number slot =
    overlay.get? target.schema.name number slot) given _ rfl ?_
  intro now kept one mem
  rw [writeRow, propagate_eq, get?_foldl_copyChange_of_ne, get?_overlayRow_of_ne, kept]
  · exact fun _ _ => .inl (apart one mem)
  · exact fun _ _ own => absurd own (apart one mem)

/-- A cell is written by its own row, over nothing. -/
theorem exists_get?_ofTarget (ctx : ValidationContext)
    (numbers : (target.rows.map (·.row)).Nodup) {position : Nat}
    (stored : (row, position) ∈ target.rows.zipIdx) :
    ∃ before : Overlay, (∀ slot, before.get? target.schema.name row.row slot = none) ∧
      ∀ slot, (ofTarget target ctx).overlay.get? target.schema.name row.row slot =
        (writeRow target ctx before (row, position)).get? target.schema.name row.row slot := by
  obtain ⟨earlier, later, same⟩ := List.append_of_mem stored
  have rows : (target.rows.zipIdx.map fun given => given.1.row).Nodup := by
    rw [map_zipIdx_key (·.row) target.rows]
    exact numbers
  rw [same, List.map_append, List.map_cons, List.nodup_middle, List.nodup_cons,
    List.mem_append] at rows
  obtain ⟨new, -⟩ := rows
  have apart : ∀ one, one ∈ earlier ∨ one ∈ later → row.row ≠ one.1.row := by
    intro one mem equal
    exact new (mem.imp (fun mem => List.mem_map.2 ⟨one, mem, equal.symm⟩)
      fun mem => List.mem_map.2 ⟨one, mem, equal.symm⟩)
  refine ⟨earlier.foldl (writeRow target ctx) Overlay.empty, fun slot => ?_, fun slot => ?_⟩
  · rw [get?_foldl_writeRow_of_ne fun one mem => apart one (.inl mem)]
    rfl
  · rw [overlay_ofTarget, same, List.foldl_append, List.foldl_cons,
      get?_foldl_writeRow_of_ne fun one mem => apart one (.inr mem)]

/-- What the checks of a row give in a slot. -/
def resolvedAt (target : ValidationTarget) (ctx : ValidationContext) (row : TableRow)
    (position slot : Nat) : Option String :=
  (target.schema.column? slot).bind fun column =>
    (target.outcome ctx column slot row position).resolved

/-- Over nothing, the checks of a row write what they give. -/
theorem get?_overlayRow (empty : ∀ slot, overlay.get? target.schema.name row.row slot = none)
    (position slot : Nat) :
    (overlayRow target.schema.name row (rowOutcomes target.schema ctx
      (changedSlots target.schema ctx) (target.rows.take position) row) overlay).get?
        target.schema.name row.row slot = resolvedAt target ctx row position slot := by
  rw [resolvedAt]
  cases place : target.schema.column? slot with
  | some column =>
    have mem : (column, slot, target.outcome ctx column slot row position) ∈
        rowOutcomes target.schema ctx (changedSlots target.schema ctx)
          (target.rows.take position) row :=
      List.mem_map_of_mem (List.mk_mem_zipIdx_iff_getElem?.2 place)
    rw [get?_overlayRow_of_mem (nodup_slots_rowOutcomes _ _ _ _ _) mem, empty, Option.or_none]
    rfl
  | none =>
    rw [get?_overlayRow_of_ne, empty]
    · rfl
    · intro given mem
      obtain ⟨⟨other, slot'⟩, known, rfl⟩ := List.mem_map.1 mem
      refine .inr fun same => ?_
      dsimp only at same
      rw [same, Header.column?_of_mem_slots known] at place
      cases place

/-- A slot whose column has no `change` directive is written with what its checks give. -/
theorem get?_ofTarget_of_unlinked (numbers : (target.rows.map (·.row)).Nodup) {position : Nat}
    (stored : (row, position) ∈ target.rows.zipIdx)
    (plain : ∀ given, target.schema.column? slot = some given → given.change = none) :
    (ofTarget target ctx).overlay.get? target.schema.name row.row slot =
      resolvedAt target ctx row position slot := by
  obtain ⟨before, empty, same⟩ := exists_get?_ofTarget ctx numbers stored
  rw [same, writeRow, get?_propagate_of_plain plain, get?_overlayRow empty]

/-- A column without a `change` directive is written with what its checks give. -/
theorem get?_ofTarget_of_plain (numbers : (target.rows.map (·.row)).Nodup) {position : Nat}
    (stored : (row, position) ∈ target.rows.zipIdx)
    (place : target.schema.column? slot = some column) (plain : column.change = none) :
    (ofTarget target ctx).overlay.get? target.schema.name row.row slot =
      (target.outcome ctx column slot row position).resolved := by
  rw [get?_ofTarget_of_unlinked numbers stored, resolvedAt, place]
  · rfl
  · intro given found
    rw [place] at found
    rwa [← Option.some.inj found]

/-- A column with a `change` directive is written with what its source is checked to, unless the
source takes another value before. -/
theorem get?_ofTarget_of_change (numbers : (target.rows.map (·.row)).Nodup) {position : Nat}
    (stored : (row, position) ∈ target.rows.zipIdx)
    (place : target.schema.column? slot = some column) {source : Nat}
    (change : column.change = some source)
    (settled : ∀ given, target.schema.column? source = some given → source < slot →
      given.change = none) :
    (ofTarget target ctx).overlay.get? target.schema.name row.row slot =
      some ((resolvedAt target ctx row position source).getD (row.value source)) := by
  obtain ⟨before, empty, same⟩ := exists_get?_ofTarget ctx numbers stored
  rw [same, writeRow, get?_propagate_of_change (List.mk_mem_zipIdx_iff_getElem?.2 place) change
    settled, get?_overlayRow empty]

end TableValidation

end DesignTables
