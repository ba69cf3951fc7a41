import DesignTables.Proofs.Compile.TableNames
import DesignTables.Proofs.Merge.Placement
import DesignTables.Proofs.Validation.EnumCodes
import DesignTables.Proofs.Validation.Writing

/-!
# The slots whose cells a validation writes

The slots that are written from the overlay are settled before any row is checked, from the columns
and the context alone. So every written cell lies in such a slot, and where no problem is found every
cell of such a slot is written unless it is empty.
-/
namespace DesignTables

namespace CheckedCell

variable {cell : CheckedCell} {ctx : ValidationContext}

/-- A cell that is not empty and is found in its group has a value to write. -/
theorem isSome_resolved_of_checkInGroup {enums : EnumRegistry} {group : String}
    (filled : cell.value ≠ "") (quiet : (cell.checkInGroup enums group).problems = []) :
    (cell.checkInGroup enums group).resolved.isSome := by
  have elements : ¬ cell.elements.isEmpty := by
    rw [List.isEmpty_iff, elements_eq_nil_iff]
    exact filled
  unfold checkInGroup at quiet ⊢
  by_cases named : group = noneGroup
  · rw [if_pos named] at quiet ⊢
    unfold checkNone at quiet ⊢
    split
    · rfl
    · next unlike =>
      rw [if_neg unlike] at quiet
      split
      · rfl
      · next other =>
        rw [if_neg other] at quiet
        cases quiet
  · rw [if_neg named] at quiet ⊢
    by_cases unknown : (!enums.hasGroup group) = true
    · rw [if_pos unknown] at quiet
      cases quiet
    · rw [if_neg unknown, if_neg elements]
      rfl

theorem isSome_resolved_of_checkEnum {enums : EnumRegistry} (filled : cell.value ≠ "")
    (grouped : cell.column.enumGroupRef.isSome ∨ cell.column.enumGroup.any enums.hasGroup = true)
    (quiet : (cell.checkEnum enums).problems = []) : (cell.checkEnum enums).resolved.isSome := by
  unfold checkEnum at quiet ⊢
  cases ref : cell.column.enumGroupRef with
  | some source =>
    rw [ref] at quiet
    exact isSome_resolved_of_checkInGroup filled quiet
  | none =>
    have known : cell.column.enumGroup.any enums.hasGroup = true :=
      grouped.resolve_left (by simp [ref])
    obtain ⟨group, static, known⟩ := (Option.any_eq_true _ _).1 known
    rw [ref, static] at quiet
    rw [static]
    dsimp only at quiet ⊢
    rw [if_pos known] at quiet ⊢
    exact isSome_resolved_of_checkInGroup filled quiet

/-- A cell that is not empty and whose elements are all found has a value to write. -/
theorem isSome_resolved_of_checkReference {references : ReferenceIndex} (filled : cell.value ≠ "")
    (checked : cell.column.check.isSome)
    (quiet : (cell.checkReference references true).problems = []) :
    (cell.checkReference references true).resolved.isSome := by
  have elements : ¬ cell.elements.isEmpty := by
    rw [List.isEmpty_iff, elements_eq_nil_iff]
    exact filled
  obtain ⟨target, checked⟩ := Option.isSome_iff_exists.1 checked
  unfold checkReference at quiet ⊢
  rw [checked] at quiet ⊢
  dsimp only at quiet ⊢
  by_cases missing : (!references.hasOrigin target.originName) = true
  · rw [if_pos missing] at quiet
    cases quiet
  · rw [if_neg missing, if_neg elements]
    rfl

/-- A cell that is not empty and is checked without a problem has a value to write, when its column
is written from the overlay for what its checks give. -/
theorem isSome_resolved_of_isChanged (filled : cell.value ≠ "")
    (changed : TableValidation.isChanged ctx cell.column = true)
    (plain : cell.column.change = none) (quiet : (cell.check ctx true).problems = []) :
    (cell.check ctx true).resolved.isSome := by
  obtain ⟨-, enum, -, -, reference⟩ := check_problems_eq_nil_iff.1 quiet
  rw [resolved_check_eq, Option.isSome_or, Bool.or_eq_true]
  simp only [TableValidation.isChanged, plain, Option.isSome_none, Bool.or_false,
    Bool.or_eq_true] at changed
  rcases changed with grouped | substituted
  · exact .inr (isSome_resolved_of_checkEnum filled grouped enum)
  · obtain ⟨target, checked, -⟩ := (Option.any_eq_true _ _).1 substituted
    exact .inl (isSome_resolved_of_checkReference filled (by rw [checked]; rfl) reference)

end CheckedCell

namespace TableValidation

variable {target : ValidationTarget} {ctx : ValidationContext} {schema : Schema} {column : Column}
  {slot : Nat}

theorem mem_changedSlots_iff :
    slot ∈ changedSlots schema ctx ↔
      ∃ column, (column, slot) ∈ schema.slots ∧ isChanged ctx column = true := by
  unfold changedSlots
  simp [List.mem_filter]

/-- Whether a slot is written from the overlay is said by its column. -/
theorem contains_changedSlots (mem : (column, slot) ∈ schema.slots) :
    (changedSlots schema ctx).contains slot = isChanged ctx column := by
  rw [Bool.eq_iff_iff, List.contains_iff_mem, mem_changedSlots_iff]
  constructor
  · rintro ⟨other, place, changed⟩
    have same := (Header.column?_of_mem_slots mem).symm.trans (Header.column?_of_mem_slots place)
    rw [Option.some.inj same]
    exact changed
  · intro changed
    exact ⟨column, mem, changed⟩

/-- A column that writes a cell is one of those that are written from the overlay. -/
theorem isChanged_of_written {row : TableRow} {position : Nat}
    (mem : (column, slot) ∈ target.schema.slots)
    (written : (target.outcome ctx column slot row position).resolved.isSome ∨
      column.change.isSome) : isChanged ctx column = true := by
  by_contra unchanged
  rw [Bool.not_eq_true] at unchanged
  rcases written with resolved | changed
  · unfold ValidationTarget.outcome at resolved
    rw [contains_changedSlots mem, unchanged, CheckedCell.resolved_of_unchanged unchanged]
      at resolved
    cases resolved
  · simp only [isChanged, changed, Bool.or_true, Bool.true_or] at unchanged
    cases unchanged

/-- Without problems, the cells of a slot that is written from the overlay are written unless they
are empty. -/
theorem isSome_get?_of_changed (clean : (ofTarget target ctx).diagnostics = []) {row : TableRow}
    (mem : row ∈ target.rows) (known : slot ∈ (ofTarget target ctx).changed)
    (filled : row.value slot ≠ "") :
    ((ofTarget target ctx).overlay.get? target.schema.name row.row slot).isSome := by
  obtain ⟨column, place, changed⟩ := mem_changedSlots_iff.1 known
  obtain ⟨position, stored⟩ := exists_mem_zipIdx mem
  apply Overlay.mem_cells_iff.1 (mem_cells_ofTarget.2
    ⟨row, position, stored, column, slot, place, ?_, rfl⟩)
  cases change : column.change with
  | some source => exact .inr rfl
  | none =>
    left
    have quiet := diagnostics_ofTarget_eq_nil_iff.1 clean _ _ stored column slot place
    unfold ValidationTarget.outcome at quiet ⊢
    rw [contains_changedSlots place, changed] at quiet ⊢
    exact CheckedCell.isSome_resolved_of_isChanged filled changed change quiet

/-- What a validation writes lies in the slots that are written from the overlay, and in a table
without problems every cell of these slots is written unless it is empty. So a cell that is not
empty and is rendered as a resolved value has one. -/
theorem overlay_matches_changed (target : ValidationTarget) (ctx : ValidationContext) :
    (∀ table number slot, ((ofTarget target ctx).overlay.get? table number slot).isSome →
      table = target.schema.name ∧ number ∈ target.rows.map (·.row) ∧
        slot ∈ (ofTarget target ctx).changed) ∧
    ((ofTarget target ctx).diagnostics = [] → ∀ row ∈ target.rows,
      (∀ slot ∈ (ofTarget target ctx).changed, row.value slot ≠ "" →
        ((ofTarget target ctx).overlay.get? target.schema.name row.row slot).isSome) ∧
      ∀ column slot, (column, slot) ∈ target.schema.exported →
        (target.written (ofTarget target ctx).changed).styleOf column slot = .resolved →
          row.value slot ≠ "" →
            (ofTarget target ctx).overlay.get? target.schema.name row.row slot =
              some ((target.written (ofTarget target ctx).changed).valueOf
                (ofTarget target ctx).overlay row slot)) := by
  constructor
  · intro table number slot found
    have inside : (table, number, slot) ∈ (ofTarget target ctx).overlay.cells :=
      Overlay.mem_cells_iff.2 found
    obtain ⟨row, position, stored, column, _, place, written, same⟩ := mem_cells_ofTarget.1 inside
    obtain ⟨name, rest⟩ := Prod.mk.inj same
    obtain ⟨rfl, rfl⟩ := Prod.mk.inj rest
    refine ⟨name, List.mem_map_of_mem (List.fst_mem_of_mem_zipIdx stored), ?_⟩
    exact mem_changedSlots_iff.2 ⟨column, place, isChanged_of_written place written⟩
  · intro clean row mem
    constructor
    · intro slot known filled
      exact isSome_get?_of_changed clean mem known filled
    · intro column slot _ style filled
      have slots (changed : List Nat) : (target.written changed).changed = changed := by
        cases target <;> rfl
      have known : slot ∈ (ofTarget target ctx).changed := by
        unfold OutputTable.styleOf at style
        rw [slots] at style
        split at style
        · next inside => exact List.contains_iff_mem.1 inside
        · cases style
      obtain ⟨value, found⟩ :=
        Option.isSome_iff_exists.1 (isSome_get?_of_changed clean mem known filled)
      unfold OutputTable.valueOf
      rw [Validated.name_written, found]
      rfl

open Library

/-- Coats with a color, which is written a second time under another title, and a remark. -/
def coats : Sheet :=
  sheetOf "coats" "#data" "" [("id", "key,int"), ("color", "type<color>"),
    ("lining", "string,change<color>"), ("remark", "string")] [["1", "red", "-", ""]]

/-- A context that knows two colors. -/
def colorContext : ValidationContext :=
  { blankContext with
    enums := (EnumRegistry.empty.add ⟨"types", "COLOR", "RED", "1", "", false⟩).add
      ⟨"types", "COLOR", "BLUE", "2", "", false⟩ }

set_option maxRecDepth 100000 in
/-- The color and the lining of the coat have values to write. -/
theorem overlay_matches_coats : ∃ schema,
    Header.compile? coats ⟨"design", "coats.xlsx", "coats"⟩ [] = some schema ∧
    (ofTarget (.sheet schema (RowIngest.ofGrid schema coats.grid).rows) colorContext).changed =
      [1, 2] ∧
    ∀ row ∈ (RowIngest.ofGrid schema coats.grid).rows, ∀ slot ∈ [1, 2],
      ((ofTarget (.sheet schema (RowIngest.ofGrid schema coats.grid).rows)
        colorContext).overlay.get? schema.name row.row slot).isSome := by
  have run : (Header.compile? coats ⟨"design", "coats.xlsx", "coats"⟩ []).map (fun schema =>
      let rows := (RowIngest.ofGrid schema coats.grid).rows
      let validation := ofTarget (.sheet schema rows) colorContext
      (validation.changed, validation.diagnostics,
        decide (∀ row ∈ rows, ∀ slot ∈ validation.changed, row.value slot ≠ ""))) =
      some ([1, 2], [], true) := by
    decide
  obtain ⟨schema, compiled, same⟩ := Option.map_eq_some_iff.1 run
  obtain ⟨changed, same⟩ := Prod.mk.inj same
  obtain ⟨clean, filled⟩ := Prod.mk.inj same
  refine ⟨schema, compiled, changed, ?_⟩
  intro row mem slot known
  have covered := ((overlay_matches_changed (.sheet schema _) colorContext).2 clean row mem).1
  rw [← changed] at known
  exact covered slot known (of_decide_eq_true filled row mem slot known)

end TableValidation

end DesignTables
