import DesignTables.Proofs.Header.Links
import DesignTables.Proofs.Ingest.Rows
import DesignTables.Proofs.Merge.Placement
import DesignTables.Proofs.Number.Digits
import DesignTables.Proofs.Output.Lengths
import DesignTables.Proofs.Validation.Concerns

/-!
# What is said of the element counts of a cell, told from the cells of its row

The header decides which columns are counted and how: an array by its elements, as they are cut
before any text is put around them, and else a count by the number that is stored. The counts are
recorded while the rows are read and compared when they are checked. In between no count is lost or
replaced, so what is reported at a cell follows from the two cells that are compared.
-/
namespace DesignTables

namespace DataType

theorem readDigits?_of_mem {cs : List Char} {c : Char} (mem : c ∈ cs) (foreign : isDigit c = false) :
    readDigits? cs = none := by
  unfold readDigits?
  rw [if_neg]
  rintro ⟨-, digits⟩
  rw [List.all_eq_true.1 digits c mem] at foreign
  cases foreign

/-- A word for a boolean is no count. -/
theorem readCount?_of_isBoolText {word : String} (h : isBoolText word = true) :
    readCount? word = none := by
  have last : 'e' ∈ word.toList.map Char.toLower := by
    have letters : (Text.asciiLower word).toList = word.toList.map Char.toLower := by
      rw [Text.asciiLower, String.toList_ofList]
    rw [← letters]
    rcases isBoolText_iff.1 h with small | small <;> rw [small] <;> decide
  obtain ⟨letter, mem, small⟩ := List.mem_map.1 last
  have foreign : isDigit letter = false := by
    by_contra digit
    rw [Bool.not_eq_false] at digit
    rw [toLower_of_isDigit digit] at small
    subst small
    revert digit
    decide
  unfold readCount?
  dsimp only
  split
  · next cs same =>
    rw [same] at mem
    have inside : letter ∈ cs := by
      rcases List.mem_cons.1 mem with plus | inside
      · rw [plus] at small
        cases small
      · exact inside
    rw [readDigits?_of_mem inside foreign]
    rfl
  · rw [readDigits?_of_mem mem foreign]
    rfl

end DataType

namespace CellReading

/-- The element count that a column declares for a cell: as an array that is compared the number of
its elements before texts are put around them, and else, as a count, the number that is stored. -/
def declaredSize? (column : Column) (cell : Cell) (value : String) : Option Nat :=
  if column.isArray ∧ (column.tracksLength ∨ column.arraySizeRef.isSome) then
    some (elementsOf column cell).length
  else if column.tracksCount then some ((readCount? value).getD 0)
  else none

/-- A value reads as a count like its stored form. -/
theorem readCount?_stored (column : Column) (value : String) :
    readCount? (stored column value) = readCount? value := by
  unfold stored
  split
  · next both =>
    rw [Bool.and_eq_true] at both
    rw [DataType.readCount?_of_isBoolText both.2,
      DataType.readCount?_of_isBoolText (DataType.isBoolText_asciiLower both.2)]
  · rfl

/-- A cell is recorded with the count that its column declares. -/
theorem size_ofCell (column : Column) (cell : Cell) :
    (ofCell column cell).size = declaredSize? column cell (ofCell column cell).value := by
  have compared : column.recordsLength = true ↔
      column.isArray = true ∧ (column.tracksLength = true ∨ column.arraySizeRef.isSome) := by
    rw [Column.recordsLength, Bool.and_eq_true, Bool.or_eq_true]
  rw [value_eq]
  unfold declaredSize?
  rw [readCount?_stored]
  simp only [← compared]
  rfl

end CellReading

/-- Whether a diagnostic is of some concern and stands at a cell of a sheet. -/
def Diagnostic.tellsOf (concern : Concern) (row column : Nat) (d : Diagnostic) : Bool :=
  d.row == row + 1 && d.column == column + 1 && d.code.concern? == some concern

namespace TableValidation

variable {schema : Schema} {rows : List TableRow} {ctx : ValidationContext} {row : TableRow}
  {position slot : Nat} {column : Column}

/-- The codes that a validation reports of one concern at a cell. -/
def codesAt (validation : TableValidation) (concern : Concern) (row column : Nat) : List Code :=
  (validation.diagnostics.filter (·.tellsOf concern row column)).map (·.code)

/-- A cell in another row or column of a sheet tells nothing of a place. -/
theorem filter_cellDiagnostics_of_ne (concern : Concern) {number gridColumn : Nat}
    (apart : row.row ≠ number ∨ column.gridColumn ≠ gridColumn) :
    ((ValidationTarget.sheet schema rows).cellDiagnostics ctx column slot row position).filter
      (·.tellsOf concern number gridColumn) = [] := by
  refine List.filter_eq_nil_iff.2 fun d known => ?_
  obtain ⟨problem, -, rfl⟩ := List.mem_map.1 known
  simp only [Diagnostic.tellsOf, Bool.and_eq_true, beq_iff_eq]
  intro told
  obtain ⟨⟨sameRow, sameColumn⟩, -⟩ := told
  change row.row + 1 = number + 1 at sameRow
  change column.gridColumn + 1 = gridColumn + 1 at sameColumn
  omega

/-- A cell of a sheet tells all its problems of its own place. -/
theorem filter_cellDiagnostics_self (concern : Concern) :
    ((ValidationTarget.sheet schema rows).cellDiagnostics ctx column slot row position).filter
        (·.tellsOf concern row.row column.gridColumn) =
      (((ValidationTarget.sheet schema rows).outcome ctx column slot row position).problems.filter
        (·.code.concern? == some concern)).map fun problem =>
          Diagnostic.of problem schema.origin column.title row.row column.gridColumn := by
  unfold ValidationTarget.cellDiagnostics
  rw [List.filter_map]
  congr 1
  refine List.filter_congr fun problem _ => ?_
  change (row.row + 1 == row.row + 1 && column.gridColumn + 1 == column.gridColumn + 1 && _) = _
  rw [beq_self_eq_true, beq_self_eq_true, Bool.true_and, Bool.true_and]
  rfl

/-- Where every row and every column of a table has its own number in the sheet, what is reported at
the place of a cell are the problems of that cell. -/
theorem codesAt_sheet (numbers : (rows.map (·.row)).Nodup)
    (places : (schema.columns.map (·.gridColumn)).Nodup)
    (stored : (row, position) ∈ rows.zipIdx) (mem : (column, slot) ∈ schema.slots)
    (concern : Concern) :
    (ofTarget (.sheet schema rows) ctx).codesAt concern row.row column.gridColumn =
      (((ValidationTarget.sheet schema rows).outcome ctx column slot row position).problems.filter
        (·.code.concern? == some concern)).map (·.code) := by
  have rowsApart : (rows.zipIdx.map fun given => given.1.row).Nodup := by
    rw [map_zipIdx_key (·.row) rows]
    exact numbers
  have columnsApart : (schema.slots.map fun given => given.1.gridColumn).Nodup := by
    rw [Schema.slots, map_zipIdx_key (·.gridColumn) schema.columns]
    exact places
  have only : (ofTarget (.sheet schema rows) ctx).diagnostics.filter
        (·.tellsOf concern row.row column.gridColumn) =
      ((ValidationTarget.sheet schema rows).cellDiagnostics ctx column slot row position).filter
        (·.tellsOf concern row.row column.gridColumn) := by
    rw [diagnostics_ofTarget, List.filter_flatMap]
    refine (flatMap_only rowsApart.of_map stored ?_).trans ?_
    · intro one known apart
      rw [List.filter_flatMap]
      refine List.flatMap_eq_nil_iff.2 fun given _ => ?_
      apply filter_cellDiagnostics_of_ne
      exact .inl fun same => apart (eq_of_key_eq rowsApart known stored same)
    · rw [List.filter_flatMap]
      refine flatMap_only columnsApart.of_map mem fun given known apart => ?_
      apply filter_cellDiagnostics_of_ne
      exact .inr fun same => apart (eq_of_key_eq columnsApart known mem same)
  unfold codesAt
  rw [only, filter_cellDiagnostics_self, List.map_map]
  rfl

end TableValidation

/-- What is reported of a count and the one it is compared with: the first that is missing, or that
they differ. -/
structure DecidesSizes (found : List Code) (own compared : Option Nat) : Prop where
  missing : .arraySizeMissing ∈ found ↔ own = none
  refMissing : .arraySizeRefMissing ∈ found ↔ own ≠ none ∧ compared = none
  mismatch : .arraySizeRefMismatch ∈ found ↔
    ∃ count other, own = some count ∧ compared = some other ∧ count ≠ other
  nothing : found = [] ↔ ∃ count, own = some count ∧ compared = some count
  single : found.length ≤ 1

/-- The check of a cell decides on the two counts that are recorded. -/
theorem CheckedCell.decidesSizes_checkSize {cell : CheckedCell} {sizes : SizeIndex} {source : Nat}
    (link : cell.column.arraySizeRef = some source) :
    DecidesSizes ((cell.checkSize sizes).problems.map (·.code))
      (sizes.get? cell.schema.name cell.slot cell.row.row)
      (sizes.get? cell.schema.name source cell.row.row) := by
  unfold checkSize
  rw [link]
  dsimp only
  generalize sizes.get? cell.schema.name cell.slot cell.row.row = own
  generalize sizes.get? cell.schema.name source cell.row.row = compared
  cases own with
  | none => constructor <;> simp [CellOutcome.refuse, Problem.code]
  | some count =>
    cases compared with
    | none => constructor <;> simp [CellOutcome.refuse, Problem.code]
    | some other =>
      dsimp only
      by_cases same : count = other
      · rw [if_pos same]
        constructor <;> simp [CellOutcome.clean, same]
      · rw [if_neg same]
        constructor <;> simp [CellOutcome.refuse, Problem.code, same]
        exact fun equal => same equal.symm

namespace RowIngest

variable {schema : Schema} {grid : Grid} {row : TableRow} {column : Column} {slot source : Nat}

/-- The count that is recorded for a stored cell is the one that its column declares. -/
theorem get?_sizes_ofGrid (mem : row ∈ (ofGrid schema grid).rows)
    (place : (column, slot) ∈ schema.slots) :
    (ofGrid schema grid).sizes.get? schema.name slot row.row =
      CellReading.declaredSize? column (grid.cell row.row column.gridColumn) (row.value slot) := by
  have read := readsFrom_ofGrid schema grid
  rw [read.sizes _ place, if_pos (List.mem_map_of_mem mem), read.values row mem _ place]
  exact CellReading.size_ofCell column _

/-- In a table that is checked against its own counts, what is reported of a count is decided by the
cells of the row: by the counts that the two columns declare for them. -/
theorem decidesSizes_ofGrid {sheet : Sheet} {origin : SheetOrigin} {mergeGroups : List String}
    (compiled : Header.compile? sheet origin mergeGroups = some schema) {ctx : ValidationContext}
    (counted : ctx.sizes = (ofGrid schema grid).sizes) (mem : row ∈ (ofGrid schema grid).rows)
    (place : (column, slot) ∈ schema.slots) (link : column.arraySizeRef = some source) :
    ∃ other, (other, source) ∈ schema.slots ∧
      DecidesSizes
        ((TableValidation.ofTarget (.sheet schema (ofGrid schema grid).rows) ctx).codesAt .size
          row.row column.gridColumn)
        (CellReading.declaredSize? column (grid.cell row.row column.gridColumn) (row.value slot))
        (CellReading.declaredSize? other (grid.cell row.row other.gridColumn)
          (row.value source)) := by
  have below : source < schema.columns.length :=
    ((Header.linksInside_of_compile? compiled).columns column
      (List.mem_of_getElem? (Header.column?_of_mem_slots place))).arraySizeRef source link
  have compared := Header.mem_slots_of_lt below
  obtain ⟨position, stored⟩ := exists_mem_zipIdx mem
  refine ⟨_, compared, ?_⟩
  rw [TableValidation.codesAt_sheet (nodup_numbers_ofGrid schema grid)
    (Header.nodup_gridColumns_of_compile? compiled) stored place]
  unfold ValidationTarget.outcome
  rw [CheckedCell.filter_check, CheckedCell.problemsOf, ← get?_sizes_ofGrid mem place,
    ← get?_sizes_ofGrid mem compared, ← counted]
  exact CheckedCell.decidesSizes_checkSize link

open Library

/-- Crates with two weights, compared with one label, a note and the two of a count. -/
def crates : Sheet :=
  sheetOf "crates" "#data" "" [("id", "key,int"), ("weights[]", "int"),
    ("labels[]", "string,prefix<a>,arraysizeref<weights>"), ("count", "int"),
    ("spare[]", "int,arraysizecnt<count>"), ("note", "string,arraysizeref<weights>"),
    ("extra[]", "int,arraysizeref<note>")] [["1", "7,8", "x", "2", "4,5", "-", "9"]]

set_option maxRecDepth 100000 in
/-- The labels are too few, the spare ones as many as counted, and the note is no array: it has no
count of its own and none to compare with. -/
theorem decidesSizes_crates : ∃ schema,
    Header.compile? crates ⟨"design", "crates.xlsx", "crates"⟩ [] = some schema ∧
    schema.isClean = true ∧ (ofGrid schema crates.grid).diagnostics = [] ∧
    ∀ row ∈ (ofGrid schema crates.grid).rows, ∀ given ∈ schema.slots,
      given.1.arraySizeRef.isSome →
        let found := (TableValidation.ofTarget (.sheet schema (ofGrid schema crates.grid).rows)
          { blankContext with sizes := (ofGrid schema crates.grid).sizes }).codesAt .size row.row
            given.1.gridColumn
        (given.1.title = "labels" → .arraySizeRefMismatch ∈ found) ∧
        (given.1.title = "spare" → found = []) ∧
        (given.1.title = "note" → .arraySizeMissing ∈ found) ∧
        (given.1.title = "extra" → .arraySizeRefMissing ∈ found) := by
  have found : (Header.compile? crates ⟨"design", "crates.xlsx", "crates"⟩ []).isSome := by
    decide +kernel
  obtain ⟨schema, compiled⟩ := Option.isSome_iff_exists.1 found
  have facts : ∀ schema ∈ Header.compile? crates ⟨"design", "crates.xlsx", "crates"⟩ [],
      schema.isClean = true ∧ (ofGrid schema crates.grid).diagnostics = [] ∧
      ∀ row ∈ (ofGrid schema crates.grid).rows, ∀ given ∈ schema.slots,
        ∀ source ∈ given.1.arraySizeRef, ∀ other ∈ schema.slots, other.2 = source →
          let own := CellReading.declaredSize? given.1
            (crates.grid.cell row.row given.1.gridColumn) (row.value given.2)
          let compared := CellReading.declaredSize? other.1
            (crates.grid.cell row.row other.1.gridColumn) (row.value source)
          (given.1.title = "labels" → own = some 1 ∧ compared = some 2) ∧
          (given.1.title = "spare" → own = some 2 ∧ compared = some 2) ∧
          (given.1.title = "note" → own = none) ∧
          (given.1.title = "extra" → own = some 1 ∧ compared = none) := by
    unfold CellReading.declaredSize?
    decide +kernel
  obtain ⟨clean, quiet, each⟩ := facts schema compiled
  refine ⟨schema, compiled, clean, quiet, ?_⟩
  intro row mem given place linked
  obtain ⟨source, link⟩ := Option.isSome_iff_exists.1 linked
  have counted : ({ blankContext with sizes := (ofGrid schema crates.grid).sizes } :
      ValidationContext).sizes = (ofGrid schema crates.grid).sizes := rfl
  obtain ⟨other, compared, decides⟩ := decidesSizes_ofGrid compiled counted mem place link
  obtain ⟨labels, spare, note, extra⟩ := each row mem given place source link _ compared rfl
  refine ⟨fun title => ?_, fun title => ?_, fun title => ?_, fun title => ?_⟩
  · obtain ⟨own, other⟩ := labels title
    exact decides.mismatch.2 ⟨1, 2, own, other, by decide⟩
  · exact decides.nothing.2 ⟨2, spare title⟩
  · exact decides.missing.2 (note title)
  · obtain ⟨own, other⟩ := extra title
    exact decides.refMissing.2 ⟨by rw [own]; exact Option.some_ne_none 1, other⟩

end RowIngest

end DesignTables
