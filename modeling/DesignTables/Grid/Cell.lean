import DesignTables.Number.Notation

/-!
# Spreadsheet cells

What a cell holds, the text a reader of the sheet sees in it, and its address: column letters and the
row number, as in `AB12`. Column letters count in base twenty-six without a zero, so `Z` is followed
by `AA`.
-/
namespace DesignTables

/-- A decoded spreadsheet cell. -/
inductive Cell where
  | empty
  | text (content : String)
  | number (value : Double)
  | bool (value : Bool)
deriving DecidableEq, Repr

namespace Cell

/-- A cell is blank when it is empty or holds a text of no characters. -/
def isBlank : Cell → Bool
  | empty => true
  | text content => content.isEmpty
  | number _ | bool _ => false

/-- The text of a cell as it is shown. -/
def render : Cell → String
  | empty => ""
  | text content => content
  | number value => value.render
  | bool value => if value then "true" else "false"

end Cell

/-- The letter for a digit from 0 to 25. -/
def letter (digit : Nat) : Char := Char.ofNat ('A'.toNat + digit)

/-- The letters of a column counted from one, the last letter first. -/
def lettersReversed (column : Nat) : List Char :=
  if h : column = 0 then []
  else letter ((column - 1) % 26) :: lettersReversed ((column - 1) / 26)
termination_by column
decreasing_by omega

/-- The letters of a column counted from one. -/
def columnLetters (column : Nat) : String := String.ofList (lettersReversed column).reverse

/-- The address of the cell in a column and a row, both counted from one. -/
def cellAddress (column row : Nat) : String := columnLetters column ++ writeNat row

end DesignTables
