import DesignTables.Grid.Basic
import DesignTables.Text.Split
import DesignTables.Text.Case

/-!
# The rows and the role of a sheet

A table sheet has four header rows, then data; rows are counted from zero. Its role is read from the
tag in column A of its second row.
-/
namespace DesignTables

namespace Header

/-- The row whose first cell holds the output subfolder. -/
def subfolderRow : Nat := 0

/-- The row of the sheet's tag and the column titles. -/
def titleRow : Nat := 1

/-- The row of the table's options or merge tuple, and of the directive lists. -/
def directiveRow : Nat := 2

/-- The row of the export flags. -/
def exportRow : Nat := 3

/-- The first data row. -/
def firstDataRow : Nat := 4

end Header

/-- The role of a table sheet. -/
inductive Kind where
  /-- Enumeration definitions. -/
  | enumeration
  /-- Localized strings. -/
  | localization
  /-- A share of a merge group. -/
  | merge
  /-- A plain data table. -/
  | data
deriving DecidableEq, Repr

namespace Kind

/-- The tag of a kind. -/
def tag : Kind → String
  | enumeration => "#type"
  | localization => "#localtext"
  | merge => "#merge"
  | data => "#data"

/-- The kind of a tag, white space around it and ASCII case aside. -/
def ofTag? (tag : String) : Option Kind :=
  let cleaned := Text.asciiLower (Text.trim tag)
  [enumeration, localization, merge, data].find? (·.tag == cleaned)

/-- The kind of a sheet. A sheet with fewer than three rows or without a known tag is no table. -/
def detect? (grid : Grid) : Option Kind :=
  if grid.height ≤ 2 then none else (grid.text? 1 0).bind ofTag?

end Kind

end DesignTables
