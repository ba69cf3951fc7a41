import DesignTables.Table.DataType
import DesignTables.Text.Split

/-!
Columns of a table as the header declares them.

Links from one column to another are slots: positions in the list of columns of the same schema.
-/
namespace DesignTables

/-- Whether a column is written out or only validated. -/
inductive ExportMode where
  | data
  | check
deriving DecidableEq, Repr

namespace ExportMode

/-- The mode that an export flag names, white space around it and ASCII case aside. -/
def ofFlag? (flag : String) : Option ExportMode :=
  let cleaned := Text.asciiLower (Text.trim flag)
  if cleaned = "data" then some data else if cleaned = "check" then some check else none

/-- The name of a mode in messages. -/
def name : ExportMode → String
  | data => "Data"
  | check => "Check"

end ExportMode

/-- The column that a `check` directive looks values up in. -/
structure ReferenceTarget where
  table : String
  field : String
deriving DecidableEq, Repr

/-- The name under which the index holds the values of a target. -/
def ReferenceTarget.originName (target : ReferenceTarget) : String :=
  target.table ++ "/" ++ target.field

/-- One column of a schema. -/
structure Column where
  /-- The grid column it is read from, counted from zero. -/
  gridColumn : Nat
  title : String
  /-- The directive tokens as written. -/
  directives : List String
  dataType : Option DataType
  mode : ExportMode
  isArray : Bool
  isKey : Bool
  isUnique : Bool
  nullAllowed : Bool
  /-- The name under which the values of the column are indexed, if they are. -/
  origin : Option String
  /-- The enumeration group of every value. -/
  enumGroup : Option String
  /-- The column that names the enumeration group row by row. -/
  enumGroupRef : Option Nat
  check : Option ReferenceTarget
  /-- The column whose value is written in place of this one's. -/
  change : Option Nat
  /-- The texts put before and after every element. -/
  before : Option String
  after : Option String
  /-- The declared number of elements, as written. -/
  arraySize : Option String
  /-- The column whose element count must equal this one's. -/
  arraySizeRef : Option Nat
  /-- Whether another column compares its element count with this one's. -/
  tracksLength : Bool
  /-- Whether another column compares its element count with this one's value. -/
  tracksCount : Bool
  /-- The text that stands for a comma inside a value. -/
  commaStandIn : Option String
deriving DecidableEq, Repr

namespace Column

/-- A column without any directive. -/
def plain (gridColumn : Nat) (title : String) (mode : ExportMode) : Column where
  gridColumn := gridColumn
  title := title
  directives := []
  dataType := none
  mode := mode
  isArray := false
  isKey := false
  isUnique := false
  nullAllowed := false
  origin := none
  enumGroup := none
  enumGroupRef := none
  check := none
  change := none
  before := none
  after := none
  arraySize := none
  arraySizeRef := none
  tracksLength := false
  tracksCount := false
  commaStandIn := none

/-- Whether the values are texts of an enumeration group. -/
def isEnum (column : Column) : Bool := column.enumGroup.isSome || column.enumGroupRef.isSome

/-- Whether the column is written out. -/
def isExported (column : Column) : Bool := column.mode == .data

/-- Whether the column takes part in a comparison of element counts as an array. -/
def recordsLength (column : Column) : Bool :=
  column.isArray && (column.tracksLength || column.arraySizeRef.isSome)

/-- The elements of a stored value: none for an empty one, the parts between commas for an array,
else the value itself. -/
def elements (column : Column) (value : String) : List String :=
  if value.isEmpty then []
  else if column.isArray then Text.splitProtected ',' value
  else [value]

end Column

end DesignTables
