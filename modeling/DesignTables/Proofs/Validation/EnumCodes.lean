import DesignTables.Proofs.Validation.Problems

/-!
# What the texts of an enumeration column are written as

The group of a cell is named by another cell of its row or by the column. Every text has a code: its
value in the group, or zero in the group `NONE`. A cell that is checked without a problem is written
with the codes of its elements, between commas.
-/
namespace DesignTables

/-- The group that the texts of a column belong to in a row. -/
def Column.groupIn? (column : Column) (row : TableRow) : Option String :=
  match column.enumGroupRef with
  | some source => some (Text.upper (row.value source))
  | none => column.enumGroup

/-- What a text of a group stands for: zero in the group `NONE`, else the value of the text. -/
def EnumRegistry.code? (enums : EnumRegistry) (group text : String) : Option String :=
  if group = CheckedCell.noneGroup then some "0" else enums.resolve? group (Text.upper text)

namespace CheckedCell

variable {cell : CheckedCell} {enums : EnumRegistry} {group : String}

theorem elements_eq_nil_iff : cell.elements = [] ↔ cell.value = "" := by
  rw [elements, Column.elements, ← String.isEmpty_iff]
  cases cell.value.isEmpty with
  | true => exact iff_of_true rfl rfl
  | false =>
    refine iff_of_false ?_ Bool.false_ne_true
    rw [if_neg Bool.false_ne_true]
    split
    · rw [Text.splitProtected, List.map_eq_nil_iff]
      exact Text.protectedPieces_ne_nil _ _ _
    · exact List.cons_ne_nil _ _

/-- What is looked up without a problem is all found. -/
theorem map_lookUp {elements : List String} {find? : String → Option String}
    {problem : String → Problem} (none : (lookUp elements find? problem).1 = []) :
    elements.map find? = (elements.filterMap find?).map some := by
  have found := lookUp_problems_eq_nil_iff.1 none
  clear none
  induction elements with
  | nil => rfl
  | cons element elements ih =>
    obtain ⟨⟨value, known⟩, found⟩ := (List.forall_mem_cons.1 found).imp_left
      Option.isSome_iff_exists.1
    rw [List.map_cons, List.filterMap_cons_some known, List.map_cons, ih found, known]

/-- What a cell is written as when its enumeration was checked: the codes of its elements, of which
there is one unless the column holds lists. -/
structure Encodes (cell : CheckedCell) (enums : EnumRegistry) (group : String)
    (outcome : CellOutcome) (codes : List String) : Prop where
  elements : cell.elements.map (enums.code? group) = codes.map some
  written : outcome.resolved.getD cell.value = Text.joinWith "," codes
  single : cell.column.isArray = false → ∃ code, codes = [code]

/-- A cell that is no list has one element, so one code. -/
theorem exists_single {codes : List String} {find? : String → Option String}
    (same : cell.elements.map find? = codes.map some) (filled : cell.elements ≠ [])
    (one : cell.column.isArray = false) : ∃ code, codes = [code] := by
  have single : cell.elements = [cell.value] := by
    rw [elements, Column.elements, one] at filled ⊢
    split
    · next empty =>
      rw [if_pos empty] at filled
      exact absurd rfl filled
    · rfl
  rw [single] at same
  have length := congrArg List.length same
  rw [List.length_map, List.length_map] at length
  exact List.length_eq_one_iff.1 length.symm

/-- A cell of the group `NONE` without a problem is an empty list or the text `NONE`. -/
theorem exists_encodes_of_checkNone (none : cell.checkNone.problems = []) :
    ∃ codes, cell.Encodes enums noneGroup cell.checkNone codes := by
  rw [checkNone] at none ⊢
  split at none
  · next empty =>
    obtain ⟨list, empty⟩ := Bool.and_eq_true_iff.1 empty
    have nil := elements_eq_nil_iff.2 (String.isEmpty_iff.1 empty)
    rw [list, empty]
    exact ⟨[], by rw [nil]; rfl, rfl, fun one => by rw [list] at one; cases one⟩
  · next filled =>
    rw [if_neg filled]
    split at none
    · next named =>
      have single : cell.elements = [noneGroup] := by
        rw [elements, named, Column.elements]
        split
        · contradiction
        · split
          · decide
          · rfl
      rw [if_pos named]
      exact ⟨["0"], by rw [single]; rfl, rfl, fun _ => ⟨"0", rfl⟩⟩
    · cases none

/-- A cell of a group that is checked without a problem is written with the codes of its elements. -/
theorem exists_encodes_of_checkInGroup (none : (cell.checkInGroup enums group).problems = []) :
    ∃ codes, cell.Encodes enums group (cell.checkInGroup enums group) codes := by
  rw [checkInGroup] at none ⊢
  by_cases named : group = noneGroup
  · subst named
    rw [if_pos rfl] at none ⊢
    exact exists_encodes_of_checkNone none
  have code (text : String) : enums.code? group text = enums.resolve? group (Text.upper text) :=
    if_neg named
  rw [if_neg named] at none ⊢
  split at none
  · cases none
  next known =>
    rw [if_neg known]
    split at none
    · next empty =>
      rw [if_pos empty]
      split at none
      · next list =>
        rw [if_pos list]
        rw [List.isEmpty_iff] at empty
        exact ⟨[], by rw [empty]; rfl, elements_eq_nil_iff.1 empty,
          fun one => by rw [list] at one; cases one⟩
      · cases none
    · next filled =>
      rw [if_neg filled]
      have all := map_lookUp none
      rw [List.map_map] at all
      have codes := (List.map_congr_left fun text _ => code text).trans all
      exact ⟨_, codes, rfl, exists_single codes fun empty => filled (List.isEmpty_iff.2 empty)⟩

/-- A cell of an enumeration column that is checked without a problem is written with the codes of
its elements. -/
theorem exists_encodes_of_checkEnum (none : (cell.checkEnum enums).problems = [])
    (named : cell.column.groupIn? cell.row = some group) :
    ∃ codes, cell.Encodes enums group (cell.checkEnum enums) codes := by
  rw [Column.groupIn?] at named
  rw [checkEnum] at none ⊢
  cases source : cell.column.enumGroupRef with
  | some source =>
    simp only [source] at named none ⊢
    obtain rfl := Option.some.inj named
    exact exists_encodes_of_checkInGroup none
  | none =>
    simp only [source] at named
    simp only [source, named] at none ⊢
    split at none
    · next known =>
      rw [if_pos known]
      exact exists_encodes_of_checkInGroup none
    · cases none

/-- The value to write is that of the reference, and else that of the enumeration. -/
theorem resolved_check_eq (ctx : ValidationContext) (substituted : Bool) :
    (cell.check ctx substituted).resolved =
      (cell.checkReference ctx.references substituted).resolved.or
        (cell.checkEnum ctx.enums).resolved := by
  have unique : cell.checkUnique.resolved = none := by
    rw [checkUnique]
    split <;> rfl
  have localText : (cell.checkLocalText ctx.localization).resolved = none := by
    rw [checkLocalText]
    split <;> rfl
  have size : (cell.checkSize ctx.sizes).resolved = none := by
    rw [checkSize]
    split
    · rfl
    · dsimp only
      split
      · rfl
      · rfl
      · split <;> rfl
  simp only [check, CellOutcome.andThen, unique, localText, size, Option.none_or, Option.or_none]

/-- Without a reference to check, the value to write is the one that the check of enumerations
gives. -/
theorem resolved_check {ctx : ValidationContext} {substituted : Bool}
    (unchecked : cell.column.check = none) :
    (cell.check ctx substituted).resolved = (cell.checkEnum ctx.enums).resolved := by
  rw [resolved_check_eq, checkReference, unchecked]
  rfl

/-- A column that is not written from the overlay gives no value to write. -/
theorem resolved_of_unchanged {ctx : ValidationContext}
    (unchanged : TableValidation.isChanged ctx cell.column = false) :
    (cell.check ctx false).resolved = none := by
  simp only [TableValidation.isChanged, Bool.or_eq_false_iff] at unchanged
  obtain ⟨⟨⟨ref, group⟩, -⟩, -⟩ := unchanged
  have reference : (cell.checkReference ctx.references false).resolved = none := by
    rw [checkReference]
    split
    · rfl
    · split
      · rfl
      · split <;> rfl
  have enum : (cell.checkEnum ctx.enums).resolved = none := by
    rw [Option.isSome_eq_false_iff, Option.isNone_iff_eq_none] at ref
    rw [checkEnum, ref]
    cases named : cell.column.enumGroup with
    | none => rfl
    | some name =>
      rw [named, Option.any_some] at group
      dsimp only
      rw [group]
      rfl
  rw [resolved_check_eq, reference, enum]
  rfl

end CheckedCell

end DesignTables
