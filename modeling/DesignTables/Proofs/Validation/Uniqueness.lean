import DesignTables.Proofs.Lists
import DesignTables.Proofs.Validation.Concerns

/-!
# Where the values of unique columns repeat

A table can be told in one pass over its cells, row by row and in a row slot by slot. One set notes
the values of all unique columns, each with its slot; a value that was noted before is repeated.
Rows come one after the other, so what the set knows of a slot are the values of the rows above:
the pass finds exactly the cells that validation reports, each of them once.
-/
namespace DesignTables

/-- A cell of a table, with its place. -/
structure TargetCell where
  row : TableRow
  /-- The position of the row in the table. -/
  position : Nat
  column : Column
  slot : Nat
deriving DecidableEq

namespace TargetCell

variable {a b c : TargetCell}

/-- The ingested value. -/
def value (cell : TargetCell) : String := cell.row.value cell.slot

/-- Whether no other row may have the value in the column. -/
def isExclusive (cell : TargetCell) : Bool := cell.column.isUnique && cell.value ≠ "null"

theorem isExclusive_iff : a.isExclusive = true ↔ a.column.isUnique = true ∧ a.value ≠ "null" := by
  rw [isExclusive, Bool.and_eq_true, decide_eq_true_iff]

/-- The cell is in a row above, or to the left in the same row. -/
def Before (a b : TargetCell) : Prop :=
  a.position < b.position ∨ a.position = b.position ∧ a.slot < b.slot

theorem Before.asymm (h : a.Before b) : ¬ b.Before a := by
  unfold Before at *
  omega

theorem Before.position_lt (h : a.Before b) (slot : a.slot = b.slot) : a.position < b.position := by
  unfold Before at h
  omega

end TargetCell

/-- A pass over the cells of a table. -/
structure RepeatScan where
  /-- The values that no other row may have, each with its slot. -/
  noted : List (Nat × String)
  /-- The cells whose value was noted before. -/
  repeats : List TargetCell

/-- Passes over one cell. -/
def RepeatScan.visit (scan : RepeatScan) (cell : TargetCell) : RepeatScan :=
  if !cell.isExclusive then scan
  else if scan.noted.contains (cell.slot, cell.value) then
    { scan with repeats := scan.repeats ++ [cell] }
  else { scan with noted := scan.noted ++ [(cell.slot, cell.value)] }

namespace ValidationTarget

variable {target : ValidationTarget} {cell : TargetCell}

/-- The cells of the table, row by row. -/
def cells (target : ValidationTarget) : List TargetCell :=
  target.rows.zipIdx.flatMap fun stored =>
    target.schema.slots.map fun given => ⟨stored.1, stored.2, given.1, given.2⟩

/-- The cells that repeat a value of their unique column. -/
def repeats (target : ValidationTarget) : List TargetCell :=
  (target.cells.foldl RepeatScan.visit ⟨[], []⟩).repeats

/-- Some row above has the value in a column where it may occur once. -/
def Repeated (target : ValidationTarget) (cell : TargetCell) : Prop :=
  (cell.column.isUnique = true ∧ cell.value ≠ "null") ∧
    ∃ row ∈ target.rows.take cell.position, row.value cell.slot = cell.value

instance (target : ValidationTarget) (cell : TargetCell) : Decidable (target.Repeated cell) :=
  inferInstanceAs (Decidable ((_ ∧ _) ∧ ∃ row ∈ target.rows.take cell.position, _))

/-- What is reported of a cell that repeats a value. -/
def repetition (target : ValidationTarget) (cell : TargetCell) : Diagnostic :=
  let (origin, gridRow, gridColumn) :=
    target.locate cell.position cell.slot cell.row cell.column
  Diagnostic.of (.repeatedValue cell.value) origin cell.column.title gridRow gridColumn

theorem mem_cells_iff : cell ∈ target.cells ↔
    target.rows[cell.position]? = some cell.row ∧
      target.schema.column? cell.slot = some cell.column := by
  rw [cells, List.mem_flatMap]
  constructor
  · rintro ⟨⟨row, position⟩, stored, mem⟩
    obtain ⟨⟨column, slot⟩, place, rfl⟩ := List.mem_map.1 mem
    exact ⟨List.mk_mem_zipIdx_iff_getElem?.1 stored, List.mk_mem_zipIdx_iff_getElem?.1 place⟩
  · rintro ⟨stored, place⟩
    exact ⟨_, List.mk_mem_zipIdx_iff_getElem?.2 stored,
      List.mem_map.2 ⟨_, List.mk_mem_zipIdx_iff_getElem?.2 place, rfl⟩⟩

/-- The cells stand in their order. -/
theorem pairwise_cells (target : ValidationTarget) : target.cells.Pairwise TargetCell.Before := by
  have ascending {α : Type} (xs : List α) : xs.zipIdx.Pairwise fun a b => a.2 < b.2 := by
    rw [← List.pairwise_map (f := Prod.snd) (R := (· < ·)), List.zipIdx_map_snd]
    exact List.pairwise_lt_range' 1
  rw [cells, List.pairwise_flatMap]
  refine ⟨fun stored _ => ?_, (ascending target.rows).imp fun above a own b own' => ?_⟩
  · rw [List.pairwise_map]
    exact (ascending target.schema.columns).imp fun left => .inr ⟨rfl, left⟩
  · obtain ⟨_, -, rfl⟩ := List.mem_map.1 own
    obtain ⟨_, -, rfl⟩ := List.mem_map.1 own'
    exact .inl above

theorem nodup_cells (target : ValidationTarget) : target.cells.Nodup :=
  target.pairwise_cells.imp fun before same => by
    subst same
    exact before.asymm before

/-- Among the cells that come before one, those of its column are the ones of the rows above. -/
theorem exists_before_iff {done rest : List TargetCell}
    (split : target.cells = done ++ cell :: rest) (exclusive : cell.isExclusive = true) :
    (∃ c ∈ done, c.isExclusive = true ∧ c.slot = cell.slot ∧ c.value = cell.value) ↔
      ∃ row ∈ target.rows.take cell.position, row.value cell.slot = cell.value := by
  have ordered := target.pairwise_cells
  rw [split, List.pairwise_append, List.pairwise_cons] at ordered
  obtain ⟨-, ⟨later, -⟩, earlier⟩ := ordered
  have inside : cell ∈ target.cells := by
    rw [split]
    exact List.mem_append_right _ List.mem_cons_self
  obtain ⟨-, place⟩ := mem_cells_iff.1 inside
  constructor
  · rintro ⟨c, mem, -, slot, same⟩
    have above := (earlier c mem cell List.mem_cons_self).position_lt slot
    have known : c ∈ target.cells := by
      rw [split]
      exact List.mem_append_left _ mem
    refine ⟨c.row, List.mem_of_getElem? (i := c.position) ?_, ?_⟩
    · rw [List.getElem?_take_of_lt above]
      exact (mem_cells_iff.1 known).1
    · rw [← slot]
      exact same
  · rintro ⟨row, mem, same⟩
    obtain ⟨position, found⟩ := List.mem_iff_getElem?.1 mem
    have above : position < cell.position := by
      obtain ⟨below, -⟩ := List.getElem?_eq_some_iff.1 found
      rw [List.length_take] at below
      omega
    rw [List.getElem?_take_of_lt above] at found
    -- The cell of that row in the same column is one of the table, and not behind this one.
    let other : TargetCell := ⟨row, position, cell.column, cell.slot⟩
    have known : other ∈ done ++ cell :: rest := by
      rw [← split]
      exact mem_cells_iff.2 ⟨found, place⟩
    have before : other.Before cell := .inl above
    rcases List.mem_append.1 known with known | known
    · refine ⟨other, known, ?_, rfl, same⟩
      rw [TargetCell.isExclusive_iff] at exclusive ⊢
      exact ⟨exclusive.1, fun null => exclusive.2 (same.symm.trans null)⟩
    · rcases List.mem_cons.1 known with own | known
      · have here : position = cell.position := congrArg TargetCell.position own
        omega
      · exact absurd before (later other known).asymm

/-- What a pass knows when it has come past some cells. -/
structure Passed (target : ValidationTarget) (done : List TargetCell) (scan : RepeatScan) : Prop where
  noted : ∀ slot value, (slot, value) ∈ scan.noted ↔
    ∃ c ∈ done, c.isExclusive = true ∧ c.slot = slot ∧ c.value = value
  repeats : scan.repeats = done.filter (target.Repeated ·)

/-- Coming past one more cell tells whether it repeats a value, and notes its own. -/
theorem Passed.visit {done rest : List TargetCell} {scan : RepeatScan}
    (h : target.Passed done scan) (split : target.cells = done ++ cell :: rest) :
    target.Passed (done ++ [cell]) (scan.visit cell) := by
  have noted (slot : Nat) (value : String) :
      (∃ c ∈ done ++ [cell], c.isExclusive = true ∧ c.slot = slot ∧ c.value = value) ↔
        (slot, value) ∈ scan.noted ∨
          (cell.isExclusive = true ∧ cell.slot = slot ∧ cell.value = value) := by
    rw [h.noted]
    simp only [List.mem_append, List.mem_singleton, or_and_right, exists_or, exists_eq_left]
  have found : cell.isExclusive = true →
      ((cell.slot, cell.value) ∈ scan.noted ↔ target.Repeated cell) := by
    intro exclusive
    rw [h.noted, exists_before_iff split exclusive]
    exact (and_iff_right (TargetCell.isExclusive_iff.1 exclusive)).symm
  rw [RepeatScan.visit]
  cases exclusive : cell.isExclusive with
  | false =>
    have single : ¬ target.Repeated cell := by
      intro repeated
      rw [TargetCell.isExclusive_iff.2 repeated.1] at exclusive
      cases exclusive
    refine ⟨fun slot value => ?_, ?_⟩
    · rw [noted, exclusive]
      exact (or_iff_left fun own => Bool.false_ne_true own.1).symm
    · rw [List.filter_append, ← h.repeats, List.filter_cons_of_neg (by simpa using single)]
      exact (List.append_nil _).symm
  | true =>
    rw [Bool.not_true, if_neg Bool.false_ne_true]
    split
    next known =>
      have repeated := (found exclusive).1 (List.contains_iff_mem.1 known)
      refine ⟨fun slot value => ?_, ?_⟩
      · rw [noted]
        refine (or_iff_left_of_imp ?_).symm
        rintro ⟨-, rfl, rfl⟩
        exact List.contains_iff_mem.1 known
      · rw [List.filter_append, ← h.repeats, List.filter_cons_of_pos (by simpa using repeated)]
        rfl
    next new =>
      have single : ¬ target.Repeated cell :=
        fun repeated => new (List.contains_iff_mem.2 ((found exclusive).2 repeated))
      refine ⟨fun slot value => ?_, ?_⟩
      · rw [noted, exclusive, List.mem_append, List.mem_singleton, Prod.mk.injEq]
        simp only [true_and, eq_comm]
      · rw [List.filter_append, ← h.repeats, List.filter_cons_of_neg (by simpa using single)]
        exact (List.append_nil _).symm

/-- The pass finds the cells whose value some row above has. -/
theorem repeats_eq (target : ValidationTarget) :
    target.repeats = target.cells.filter (target.Repeated ·) := by
  have begun : target.Passed [] ⟨[], []⟩ :=
    ⟨fun _ _ => iff_of_false List.not_mem_nil fun ⟨_, mem, _⟩ => List.not_mem_nil mem, rfl⟩
  exact (foldl_passes begun fun _ _ _ _ split passed => passed.visit split).repeats

theorem mem_repeats_iff : cell ∈ target.repeats ↔ cell ∈ target.cells ∧ target.Repeated cell := by
  rw [repeats_eq, List.mem_filter, decide_eq_true_iff]

/-- Of three rows with one value the second and the third repeat it; a column that need not be unique
and the word `null` are passed over. -/
example :
    let schema : Schema := { Schema.blank ⟨"design", "goods.xlsx", "goods"⟩ .data with
      columns := [{ Column.plain 1 "name" .data with isUnique := true },
        Column.plain 2 "note" .data] }
    (ValidationTarget.sheet schema [⟨4, ["a", "b"]⟩, ⟨5, ["null", "a"]⟩, ⟨6, ["a", "b"]⟩,
      ⟨7, ["null", "b"]⟩, ⟨8, ["a", "b"]⟩]).repeats.map (fun cell => (cell.position, cell.slot)) =
        [(2, 0), (4, 0)] := by
  decide +kernel

/-- The cells that repeat a value stand in the order of all cells. -/
theorem repeats_sublist (target : ValidationTarget) : target.repeats.Sublist target.cells := by
  rw [repeats_eq]
  exact List.filter_sublist

end ValidationTarget

/-- One code alone tells of a repeated value. -/
theorem Code.concern?_eq_uniqueness_iff {code : Code} :
    code.concern? = some .uniqueness ↔ code = .duplicateUniqueValue := by
  cases code <;> simp [Code.concern?]

namespace TableValidation

variable {target : ValidationTarget} {ctx : ValidationContext}

theorem problemsOf_uniqueness (cell : TargetCell) (substituted : Bool) :
    (target.cell cell.column cell.slot cell.row cell.position).problemsOf ctx substituted
        .uniqueness =
      if target.Repeated cell then [.repeatedValue cell.value] else [] := by
  rw [CheckedCell.problemsOf, CheckedCell.checkUnique]
  have same : ((target.cell cell.column cell.slot cell.row cell.position).column.isUnique &&
      (target.cell cell.column cell.slot cell.row cell.position).value ≠ "null" &&
      (target.cell cell.column cell.slot cell.row cell.position).earlier.any
        (·.value (target.cell cell.column cell.slot cell.row cell.position).slot ==
          (target.cell cell.column cell.slot cell.row cell.position).value)) = true ↔
      target.Repeated cell := by
    rw [Bool.and_eq_true, Bool.and_eq_true, decide_eq_true_iff, List.any_eq_true]
    simp only [beq_iff_eq]
    rfl
  split
  next repeated => rw [if_pos (same.1 repeated)]; rfl
  next single => rw [if_neg fun repeated => single (same.2 repeated)]; rfl

/-- Of a table the cells are reported that repeat a value of their unique column, in their order and
each of them once. -/
theorem filter_duplicates (target : ValidationTarget) (ctx : ValidationContext) :
    (ofTarget target ctx).diagnostics.filter (·.code == .duplicateUniqueValue) =
      target.repeats.map target.repetition := by
  have cells : (ofTarget target ctx).diagnostics = target.cells.flatMap fun cell =>
      target.cellDiagnostics ctx cell.column cell.slot cell.row cell.position := by
    simp only [diagnostics_ofTarget, ValidationTarget.cells, List.flatMap_assoc, List.flatMap_map]
  have codes : (fun problem : Problem => problem.code == .duplicateUniqueValue) =
      fun problem => problem.code.concern? == some .uniqueness := by
    funext problem
    rw [Bool.eq_iff_iff, beq_iff_eq, beq_iff_eq, Code.concern?_eq_uniqueness_iff]
  have one (cell : TargetCell) :
      (target.cellDiagnostics ctx cell.column cell.slot cell.row cell.position).filter
          (·.code == .duplicateUniqueValue) =
        if target.Repeated cell then [target.repetition cell] else [] := by
    rw [ValidationTarget.cellDiagnostics, List.filter_map]
    change List.map _ (List.filter (fun problem : Problem => problem.code == .duplicateUniqueValue) _)
      = _
    rw [codes, ValidationTarget.outcome, CheckedCell.filter_check, problemsOf_uniqueness]
    split <;> rfl
  rw [cells, List.filter_flatMap, ValidationTarget.repeats_eq,
    ← flatMap_filter_of_empty (p := (target.Repeated ·)), List.map_eq_flatMap]
  · refine List.flatMap_congr fun cell mem => ?_
    rw [one, if_pos (of_decide_eq_true (List.mem_filter.1 mem).2)]
  · intro cell _ single
    rw [one, if_neg (of_decide_eq_false single)]

/-- In a table that is validated without a problem no two rows share a value of a unique column,
the word `null` apart. -/
theorem pairwise_of_clean (none : (ofTarget target ctx).diagnostics = []) {slot : Nat}
    {column : Column} (place : target.schema.column? slot = some column)
    (unique : column.isUnique = true) :
    target.rows.Pairwise fun above row => row.value slot ≠ "null" →
      above.value slot ≠ row.value slot := by
  have silent : target.repeats = [] := by
    have told := filter_duplicates target ctx
    rw [none] at told
    exact List.map_eq_nil_iff.1 told.symm
  rw [List.pairwise_iff_getElem]
  intro i j insideAbove inside before filled same
  let cell : TargetCell := ⟨target.rows[j], j, column, slot⟩
  have known : cell ∈ target.cells :=
    ValidationTarget.mem_cells_iff.2 ⟨List.getElem?_eq_getElem inside, place⟩
  have above : target.rows[i] ∈ target.rows.take j :=
    List.mem_take_iff_getElem.2 ⟨i, by omega, rfl⟩
  have repeated : cell ∈ target.repeats :=
    ValidationTarget.mem_repeats_iff.2 ⟨known, ⟨unique, filled⟩, _, above, same⟩
  rw [silent] at repeated
  exact List.not_mem_nil repeated

end TableValidation

end DesignTables
