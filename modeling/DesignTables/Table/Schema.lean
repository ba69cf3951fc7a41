import DesignTables.Diagnostic.Basic
import DesignTables.Table.Column
import DesignTables.Table.Kind

/-!
The schema of a table: its columns, options and needs, with the problems found in its header. And the
rows of a table, whose cells stand in the order of these columns.
-/
namespace DesignTables

/-- The options of a table. -/
structure TableOptions where
  /-- No companion code is written for the table. -/
  nocode : Bool
  /-- The table is a single record without a key. -/
  valueOnly : Bool
deriving DecidableEq, Repr

/-- The tuple `name,groupField,shardSize` of a merge sheet. -/
structure MergeHeader where
  name : String
  groupField : String
  shardSize : Nat
deriving DecidableEq, Repr

/-- Reads a merge tuple; white space around its parts is dropped. -/
def MergeHeader.parse? (text : String) : Option MergeHeader :=
  match (Text.splitOn ',' text).map Text.trim with
  | [name, groupField, shardSize] =>
    if name.isEmpty || groupField.isEmpty then none
    else (readCount? shardSize).map fun size => ⟨name, groupField, size⟩
  | _ => none

/-- The first part of a merge tuple, well formed or not. -/
def mergeGroupName? (text : String) : Option String :=
  match (Text.splitOn ',' text).map Text.trim with
  | [] => none
  | name :: _ => if name.isEmpty then none else some name

/-- What a table takes from other sheets. -/
structure TableNeeds where
  enums : Bool
  localization : Bool
  /-- The sheets that `check` directives name, each once, in the order of their first use. -/
  tables : List String
  /-- The merge groups that `check` directives name. -/
  merges : List String
deriving DecidableEq, Repr

/-- The compiled header of a sheet or of a merged table. -/
structure Schema where
  origin : SheetOrigin
  name : String
  kind : Kind
  subfolder : String
  options : TableOptions
  merge : Option MergeHeader
  columns : List Column
  /-- The slot of the key column. -/
  key : Option Nat
  needs : TableNeeds
  /-- The problems of the header. -/
  diagnostics : List Diagnostic
deriving DecidableEq, Repr

/-- The name under which the values of a column are indexed. -/
def originName (table title : String) : String := Text.lower (table ++ "/" ++ title)

namespace Schema

/-- The schema of a sheet without columns. -/
def blank (origin : SheetOrigin) (kind : Kind) : Schema where
  origin := origin
  name := origin.sheet
  kind := kind
  subfolder := ""
  options := ⟨false, false⟩
  merge := none
  columns := []
  key := none
  needs := ⟨false, false, [], []⟩
  diagnostics := []

/-- The column in a slot. -/
def column? (schema : Schema) (slot : Nat) : Option Column := schema.columns[slot]?

/-- The columns with their slots. -/
def slots (schema : Schema) : List (Column × Nat) := schema.columns.zipIdx

/-- The slot of the first column with exactly this title. -/
def slotOf? (schema : Schema) (title : String) : Option Nat :=
  schema.columns.findIdx? (·.title == title)

/-- The slot that a directive means by a title: an exact match first, then one up to ASCII case. -/
def findSlot? (schema : Schema) (title : String) : Option Nat :=
  (schema.slotOf? title).or
    (schema.columns.findIdx? fun column => Text.eqIgnoringCase column.title title)

/-- The columns that are written out, with their slots. -/
def exported (schema : Schema) : List (Column × Nat) := schema.slots.filter (·.1.isExported)

/-- The key column. -/
def keyColumn? (schema : Schema) : Option Column := schema.key.bind schema.column?

/-- Whether the header has no problem. -/
def isClean (schema : Schema) : Bool := schema.diagnostics.isEmpty

/-- The title of the column in a slot. -/
def titleAt (schema : Schema) (slot : Nat) : String := ((schema.column? slot).map (·.title)).getD ""

/-- Changes the column in a slot. -/
def modifyColumn (schema : Schema) (slot : Nat) (change : Column → Column) : Schema :=
  { schema with columns := schema.columns.modify slot change }

/-- Adds a problem to the header. -/
def report (schema : Schema) (d : Diagnostic) : Schema :=
  { schema with diagnostics := schema.diagnostics ++ [d] }

end Schema

/-- One row; its cells stand in the order of the schema's columns. -/
structure TableRow where
  /-- The grid row of a sheet counted from zero, or the row of a merged table counted from one. -/
  row : Nat
  cells : List String
deriving DecidableEq, Repr

/-- The value in a slot; a slot that the row lacks is empty. -/
def TableRow.value (row : TableRow) (slot : Nat) : String := (row.cells[slot]?).getD ""

end DesignTables
