import DesignTables.Diagnostic.Problem
import DesignTables.Grid.Cell

/-!
Diagnostics: problems pinned to the cell of a sheet where their author finds them.
-/
namespace DesignTables

/-- Where a sheet stands: the directory and name of its workbook file, and its own name. -/
structure SheetOrigin where
  directory : String
  file : String
  sheet : String
deriving DecidableEq, Repr

/-- A problem at one cell. Row and column are counted from one. -/
structure Diagnostic where
  code : Code
  directory : String
  file : String
  sheet : String
  columnLabel : String
  row : Nat
  column : Nat
  message : String
deriving DecidableEq, Repr

namespace Diagnostic

/-- A diagnostic at a grid position counted from zero, with any wording. -/
def pin (code : Code) (origin : SheetOrigin) (label : String) (row col : Nat)
    (message : String) : Diagnostic where
  code := code
  directory := origin.directory
  file := origin.file
  sheet := origin.sheet
  columnLabel := label
  row := row + 1
  column := col + 1
  message := message

/-- A problem at a grid position counted from zero. -/
def of (problem : Problem) (origin : SheetOrigin) (label : String) (row col : Nat) : Diagnostic :=
  pin problem.code origin label row col problem.message

/-- The address of the cell. -/
def address (d : Diagnostic) : String := cellAddress d.column d.row

/-- The diagnostic on one line. -/
def line (d : Diagnostic) : String :=
  d.sheet ++ "!" ++ d.address ++ " [" ++ d.code.name ++ "] " ++ d.message ++ " (" ++ d.file ++ ")"

end Diagnostic

/-- How many diagnostics have a code. -/
def countCode (diagnostics : List Diagnostic) (code : Code) : Nat :=
  diagnostics.countP (·.code == code)

end DesignTables
