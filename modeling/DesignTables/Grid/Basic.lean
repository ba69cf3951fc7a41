import DesignTables.Grid.Cell

/-!
Rectangular grids of cells, counted from zero.

A grid remembers its width and that all of its rows have it. Positions outside read as empty, and
writing outside makes the grid grow.
-/
namespace DesignTables

/-- A row filled up with empty cells. -/
def padRow (width : Nat) (row : List Cell) : List Cell :=
  row ++ List.replicate (width - row.length) Cell.empty

theorem length_padRow (width : Nat) (row : List Cell) :
    (padRow width row).length = max width row.length := by
  simp [padRow]; omega

/-- The length of the longest row. -/
def maxLength (rows : List (List Cell)) : Nat := rows.foldr (fun row n => max row.length n) 0

theorem length_le_maxLength {rows : List (List Cell)} {row : List Cell} (h : row ∈ rows) :
    row.length ≤ maxLength rows := by
  induction rows with
  | nil => cases h
  | cons first rest ih =>
    simp only [maxLength, List.foldr_cons]
    cases h with
    | head => omega
    | tail _ h => have := ih h; simp only [maxLength] at this; omega

/-- A rectangle of cells. -/
structure Grid where
  rows : List (List Cell)
  width : Nat
  rectangular : ∀ row ∈ rows, row.length = width

namespace Grid

/-- The grid of some rows, short ones filled up with empty cells. -/
def ofRows (rows : List (List Cell)) : Grid where
  rows := rows.map (padRow (maxLength rows))
  width := maxLength rows
  rectangular := by
    intro row h
    obtain ⟨short, hs, rfl⟩ := List.mem_map.1 h
    have := length_le_maxLength hs
    rw [length_padRow]; omega

/-- The grid of some texts; a text of no characters is an empty cell. -/
def ofTexts (rows : List (List String)) : Grid :=
  ofRows (rows.map (List.map fun s => if s.isEmpty then Cell.empty else Cell.text s))

/-- The number of rows. -/
def height (grid : Grid) : Nat := grid.rows.length

/-- The cell at a position. -/
def cell (grid : Grid) (row col : Nat) : Cell :=
  ((grid.rows[row]?).bind fun cells => cells[col]?).getD Cell.empty

/-- The text of a cell that is not blank. -/
def text? (grid : Grid) (row col : Nat) : Option String :=
  let cell := grid.cell row col
  if cell.isBlank then none else some cell.render

/-- Writes one cell, growing the grid to hold it. -/
def set (grid : Grid) (row col : Nat) (value : Cell) : Grid where
  rows :=
    let missing := List.replicate (row + 1 - grid.height) []
    let padded := (grid.rows ++ missing).map (padRow (max grid.width (col + 1)))
    padded.modify row fun cells => cells.set col value
  width := max grid.width (col + 1)
  rectangular := by
    have pad : ∀ cells ∈ (grid.rows ++ List.replicate (row + 1 - grid.height) []).map
        (padRow (max grid.width (col + 1))), cells.length = max grid.width (col + 1) := by
      intro cells h
      obtain ⟨short, hs, rfl⟩ := List.mem_map.1 h
      rw [length_padRow]
      rcases List.mem_append.1 hs with hs | hs
      · have := grid.rectangular short hs; omega
      · have := (List.mem_replicate.1 hs).2; subst this; simp
    intro cells h
    obtain ⟨i, hi, rfl⟩ := List.getElem_of_mem h
    simp only [List.getElem_modify]
    split
    · simp only [List.length_set]; exact pad _ (List.getElem_mem _)
    · exact pad _ (List.getElem_mem _)

private theorem getD_padRow (width : Nat) (row : List Cell) (i : Nat) :
    ((padRow width row)[i]?).getD Cell.empty = (row[i]?).getD Cell.empty := by
  unfold padRow
  rw [List.getElem?_append]
  split
  next => rfl
  next h =>
    rw [List.getElem?_eq_none (Nat.le_of_not_lt h), List.getElem?_replicate]
    split <;> rfl

/-- Empty rows below and empty cells to the right change no cell. -/
private theorem cell_padded (grid : Grid) (missing width row col : Nat) :
    (((((grid.rows ++ List.replicate missing []).map (padRow width))[row]?).bind
      fun cells => cells[col]?).getD Cell.empty) = grid.cell row col := by
  rw [List.getElem?_map, List.getElem?_append]
  unfold cell
  split
  next => cases grid.rows[row]? with
    | none => rfl
    | some cells => exact getD_padRow width cells col
  next h =>
    rw [List.getElem?_eq_none (Nat.le_of_not_lt h), List.getElem?_replicate]
    split
    next => exact getD_padRow width [] col
    next => rfl

theorem cell_set (grid : Grid) (row col : Nat) (value : Cell) (row' col' : Nat) :
    (grid.set row col value).cell row' col' =
      if row' = row ∧ col' = col then value else grid.cell row' col' := by
  rw [← cell_padded grid (row + 1 - grid.height) (max grid.width (col + 1)) row' col']
  generalize hp : (grid.rows ++ List.replicate (row + 1 - grid.height) []).map
    (padRow (max grid.width (col + 1))) = padded
  have rows : (grid.set row col value).rows = padded.modify row fun cells => cells.set col value := by
    rw [← hp]; rfl
  have height : row < padded.length := by rw [← hp]; simp [Grid.height]; omega
  have width : ∀ cells ∈ padded, col < cells.length := by
    intro cells h
    rw [← hp] at h
    obtain ⟨short, _, rfl⟩ := List.mem_map.1 h
    rw [length_padRow]; omega
  rw [cell, rows, List.getElem?_modify]
  by_cases same : row' = row
  · subst same
    have wide := width padded[row'] (List.getElem_mem height)
    by_cases col' = col <;> simp_all [List.getElem?_set]
    grind
  · simp [same, Ne.symm same]

end Grid

/-- One sheet of a workbook. -/
structure Sheet where
  name : String
  grid : Grid

/-- A workbook file: its name, which identifies it, its path, and its sheets in order. -/
structure Workbook where
  name : String
  path : String
  sheets : List Sheet

end DesignTables
