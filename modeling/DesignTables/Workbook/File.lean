import DesignTables.Grid.Basic
import DesignTables.Number.Reading
import DesignTables.Workbook.CellText

/-!
The files a command reads and writes: texts and workbooks.

A workbook file does not keep a grid as it was written. Reading it back gives the cells from the
first one to the last row and column in use, a text as it was stored, a date as a number, and a
formula as its last result.
-/
namespace DesignTables

/-- What is written into one cell of a workbook file. -/
inductive WrittenCell where
  | value (cell : Cell)
  /-- A number shown as a date. -/
  | date (serial : Double)
  /-- A formula with the result that it had last; no text for none. -/
  | formula (formula result : String)
deriving DecidableEq, Repr

namespace WrittenCell

/-- A number as a workbook file keeps it: one that is undefined becomes an error text. -/
def storedNumber : Double → Cell
  | .nan => .text "#NUM!"
  | number => .number number

/-- The result of a formula: a number if its text reads as one, and zero without a text. -/
def formulaResult (result : String) : Cell :=
  if result.isEmpty then .number (.ofDecimal false 0 0)
  else match Double.read? result with
    | some number => .number number
    | none => .text result

/-- The cell that is read back. -/
def readBack : WrittenCell → Cell
  | value (.number number) => storedNumber number
  | value (.text text) => if text.isEmpty then .empty else .text (CellText.stored text)
  | value cell => if cell.isBlank then .empty else cell
  | date serial => .number serial
  | formula _ result => formulaResult result

/-- Whether a workbook file can keep a cell: its text must not be too long. -/
def isStorable : WrittenCell → Bool
  | value (.text text) => text.length ≤ CellText.maxLength
  | _ => true

end WrittenCell

/-- One sheet of a workbook file. -/
structure WrittenSheet where
  name : String
  rows : List (List WrittenCell)
deriving DecidableEq, Repr

namespace WrittenSheet

/-- A list without the last elements that satisfy a test. -/
def dropLastWhile {α : Type} (test : α → Bool) (items : List α) : List α :=
  (items.reverse.dropWhile test).reverse

/-- The cells in use, row by row: nothing follows the last one in a row or the last row. -/
def usedRows (sheet : WrittenSheet) : List (List Cell) :=
  dropLastWhile List.isEmpty
    (sheet.rows.map fun row => dropLastWhile Cell.isBlank (row.map WrittenCell.readBack))

/-- The sheet that is read back. -/
def readBack (sheet : WrittenSheet) : Sheet := ⟨sheet.name, Grid.ofRows sheet.usedRows⟩

end WrittenSheet

/-- The content of a file. -/
inductive FileContent where
  | text (content : String)
  | workbook (sheets : List WrittenSheet)
deriving DecidableEq, Repr

namespace FileContent

/-- The text of a file; a workbook is none. -/
def text? : FileContent → Option String
  | text content => some content
  | workbook _ => none

/-- The sheets that a workbook file holds: an empty one if none was written. -/
def sheetsKept (sheets : List WrittenSheet) : List WrittenSheet :=
  if sheets.isEmpty then [⟨"Sheet1", []⟩] else sheets

/-- The sheets of a workbook file; a text has none. -/
def sheets? : FileContent → Option (List Sheet)
  | text _ => none
  | workbook sheets => some ((sheetsKept sheets).map WrittenSheet.readBack)

/-- Whether a content can be written to a file. -/
def isStorable : FileContent → Bool
  | text _ => true
  | workbook sheets => sheets.all fun sheet => sheet.rows.all (·.all WrittenCell.isStorable)

end FileContent

end DesignTables
