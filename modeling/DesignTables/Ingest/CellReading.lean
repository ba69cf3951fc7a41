import DesignTables.Table.Schema
import DesignTables.Text.Split

/-!
What one cell gives when it is read against its column: the stored value, the problems found, and
the element count to record.
-/
namespace DesignTables

/-- The result of reading one cell. -/
structure CellReading where
  value : String
  problems : List Problem
  /-- The element count of a cell that takes part in a comparison of counts. -/
  size : Option Nat
deriving DecidableEq, Repr

namespace CellReading

/-- The type that a column's values are read as. -/
def typeOf (column : Column) : DataType := column.dataType.getD .string

/-- The text of a cell; numbers of scalar numeric columns are rounded to eight places. -/
def text (column : Column) (cell : Cell) : String :=
  match cell with
  | .number x =>
    if (typeOf column).isNumeric && !column.isArray then x.normalize else cell.render
  | _ => cell.render

/-- Whether a text is the word `null` in any ASCII case. -/
def isNull (text : String) : Bool := Text.eqIgnoringCase text "null"

/-- The text with `null` taken as empty where the column allows that. -/
def afterNull (column : Column) (text : String) : String :=
  if isNull text && column.nullAllowed then "" else text

/-- Puts the column's texts around every element that is not empty. -/
def decorate (column : Column) (elements : List String) : String :=
  Text.joinWith "," (elements.map fun element =>
    if element.isEmpty then ""
    else column.before.getD "" ++ element ++ column.after.getD "")

/-- The value that the elements of a text are stored as. -/
def decorated (column : Column) (text : String) : String :=
  if !text.isEmpty && (column.before.isSome || column.after.isSome) then
    decorate column (column.elements text)
  else text

/-- What the type finds wrong: the first refused element of an array as it was read, or the stored
value of a scalar. -/
def typeFault (column : Column) (elements : List String) (value : String) : Option Code :=
  if column.isArray then elements.findSome? (typeOf column).fault
  else (typeOf column).fault value

/-- The problem of an array whose declared element count is not the one it has. -/
def sizeProblem (column : Column) (elements : List String) (value : String) : List Problem :=
  match column.arraySize with
  | some declared =>
    if column.isArray && !elements.isEmpty && writeNat elements.length ≠ declared then
      [.wrongArraySize declared value]
    else []
  | none => []

/-- The element count to record: that of an array that is compared, or the value of a count. -/
def sizeOf (column : Column) (elements : List String) (value : String) : Option Nat :=
  if column.recordsLength then some elements.length
  else if column.tracksCount then some ((readCount? value).getD 0)
  else none

/-- The stored form of a value: accepted booleans are in small letters. -/
def stored (column : Column) (value : String) : String :=
  if typeOf column = .bool && DataType.isBoolText value then Text.asciiLower value else value

/-- Reads a cell against its column. -/
def ofCell (column : Column) (cell : Cell) : CellReading :=
  let shown := text column cell
  let read := afterNull column shown
  let elements := column.elements read
  let value := decorated column read
  { value := stored column value
    problems :=
      (if isNull shown && !column.nullAllowed then [.nullRefused] else []) ++
      (if read.toList.any (fun c => c = '\r' || c = '\n') then [.lineBreak] else []) ++
      sizeProblem column elements value ++
      ((typeFault column elements value).map (Problem.refusedValue · value)).toList
    size := sizeOf column elements value }

end CellReading

end DesignTables
