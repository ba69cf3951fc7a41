import DesignTables.Index.Overlay
import DesignTables.Merge.Table
import DesignTables.Registry.Localization

/-!
# Files of records

The rows of a table are written as a list of objects, one field a line, and so are the shards of a
merge table, their index, which tells for each key which file holds its rows, and for each language
the localized strings.

A record holds the exported columns whose value is not the word `null`. The layout is fixed: each
record is indented by one tab, each field by two and each element of an array by three.
-/
namespace DesignTables

/-- The text of a file with the number of entries it holds. -/
structure Rendered where
  text : String
  entries : Nat
deriving DecidableEq, Repr

/-- How the shards of a merge table are written. -/
structure ShardLayout where
  /-- The merge group, which names the files. -/
  group : String
  /-- The title of the keys in the index. -/
  field : String
  plan : ShardPlan
deriving DecidableEq, Repr

/-- A validated table ready to be written. -/
structure OutputTable where
  schema : Schema
  rows : List TableRow
  /-- The slots whose values come from the overlay. -/
  changed : List Nat
  shards : Option ShardLayout
deriving DecidableEq, Repr

/-- A merge table ready to be written; it is sharded when it has a plan. -/
def OutputTable.ofMerge (table : MergeTable) (changed : List Nat) : OutputTable where
  schema := table.schema
  rows := table.rows
  changed := changed
  shards := table.shards.map fun plan => ⟨table.name, table.groupField, plan⟩

/-- How a value is written. -/
inductive ValueStyle where
  /-- As its type says. -/
  | typed (type : Option DataType)
  /-- Bare if it is a number and between quotes otherwise. -/
  | resolved
  | bare
  | quoted
deriving DecidableEq, Repr

namespace ValueStyle

/-- Whether a text starts like a number and reads as a finite one. -/
def isNumber (value : String) : Bool :=
  match value.toList with
  | c :: _ => (isDigit c || c = '-') && (Double.read? value).any (·.isFinite)
  | [] => false

/-- Whether a value is written between quotes. -/
def quotes (style : ValueStyle) (value : String) : Bool :=
  match style with
  | typed type => type.any (·.isQuoted)
  | resolved => !isNumber value
  | bare => false
  | quoted => true

/-- A value as it is written. Nothing in it is escaped. -/
def render (style : ValueStyle) (value : String) : String :=
  if style.quotes value then "\"" ++ value ++ "\"" else value

end ValueStyle

/-- The value of a field: one text, or a list of them. -/
inductive FieldValue where
  | scalar (text : String)
  | list (items : List String)
deriving DecidableEq, Repr

/-- A field of a record. -/
structure Field where
  title : String
  value : FieldValue
deriving DecidableEq, Repr

namespace Field

/-- A value with the text that stands for a comma turned back into one. -/
def restoreCommas (column : Column) (value : String) : String :=
  match column.commaStandIn with
  | some standIn => if standIn.isEmpty then value else Text.replaceAll standIn "," value
  | none => value

/-- Whether the value of an array column is the empty list. -/
def isEmptyList (value : String) : Bool := value.isEmpty || value == "\"\""

/-- The field of a column with a value. -/
def ofValue (column : Column) (style : ValueStyle) (value : String) : Field where
  title := column.title
  value :=
    if !column.isArray then .scalar (style.render (restoreCommas column value))
    else if isEmptyList value then .list []
    else .list ((Text.splitProtected ',' value).map fun element =>
      style.render (restoreCommas column element))

/-- A field as a line, or as a line for each of its elements between brackets. -/
def render (field : Field) : String :=
  let opening := "\t\t\"" ++ field.title ++ "\": "
  match field.value with
  | .scalar text => opening ++ text
  | .list [] => opening ++ "[]"
  | .list items => opening ++ "[\n\t\t\t" ++ Text.joinWith ",\n\t\t\t" items ++ "\n\t\t]"

end Field

/-- An object with the given fields. -/
def renderRecord (fields : List Field) : String :=
  "\n\t\x7b\n" ++ Text.joinWith ",\n" (fields.map Field.render) ++ "\n\t\x7d"

/-- Objects with commas between them. -/
def renderRecords (records : List (List Field)) : String :=
  Text.joinWith "," (records.map renderRecord)

namespace OutputTable

/-- The value that a cell is written with: that of the overlay, else the ingested one. -/
def valueOf (table : OutputTable) (overlay : Overlay) (row : TableRow) (slot : Nat) : String :=
  (overlay.get? table.schema.name row.row slot).getD (row.value slot)

/-- How the values of a column are written. -/
def styleOf (table : OutputTable) (column : Column) (slot : Nat) : ValueStyle :=
  if table.changed.contains slot then .resolved else .typed column.dataType

/-- The fields of a row. -/
def fields (table : OutputTable) (overlay : Overlay) (row : TableRow) : List Field :=
  table.schema.exported.filterMap fun (column, slot) =>
    let value := table.valueOf overlay row slot
    if Text.eqIgnoringCase value "null" then none
    else some (Field.ofValue column (table.styleOf column slot) value)

/-- The records of some rows; a row without fields gives none. -/
def records (table : OutputTable) (overlay : Overlay) (rows : List TableRow) :
    List (List Field) :=
  (rows.map (table.fields overlay)).filter (!·.isEmpty)

/-- The rows that a keyed table writes: those whose key is not empty. -/
def keyedRows (table : OutputTable) : List TableRow :=
  match table.schema.key with
  | some slot => table.rows.filter fun row => !(row.value slot).isEmpty
  | none => table.rows

/-- Some rows as a list. -/
def renderRows (table : OutputTable) (overlay : Overlay) (rows : List TableRow) : Rendered :=
  let records := table.records overlay rows
  ⟨"[" ++ renderRecords records ++ "\n]", records.length⟩

/-- A text with one tab less at the start of every line, and without the line break it starts
with. -/
def dedent (text : String) : String :=
  let shifted := Text.joinWith "\n" ((Text.lines text).map fun line =>
    (Text.dropPrefix? "\t" line).getD line)
  (Text.dropPrefix? "\n" shifted).getD shifted

/-- The record of a table without keys, alone. -/
def renderSingle (table : OutputTable) (overlay : Overlay) : Rendered :=
  let records := table.records overlay table.rows
  ⟨dedent (renderRecords records), records.length⟩

/-- The record file of a table. -/
def renderTable (table : OutputTable) (overlay : Overlay) : Rendered :=
  if table.schema.options.valueOnly then table.renderSingle overlay
  else table.renderRows overlay table.keyedRows

/-- Whether companion code is written for the table. -/
def wantsCode (table : OutputTable) : Bool :=
  !table.schema.options.nocode && (table.schema.kind == .data || table.schema.kind == .merge)

end OutputTable

namespace ShardLayout

/-- The name of a shard file, its number with five digits. -/
def shardFile (group : String) (number : Nat) : String :=
  group ++ "_" ++ writePadded 5 number ++ ".json"

/-- The name of the index file. -/
def indexFile (group : String) : String := group ++ "_index.json"

/-- The rows of a shard. -/
def shardRows (table : OutputTable) (shard : Shard) : List TableRow :=
  shard.rows.filterMap fun position => table.rows[position]?

/-- The shard files with their names, in the order of shard numbers. -/
def renderShards (table : OutputTable) (layout : ShardLayout) (overlay : Overlay) :
    List (String × Rendered) :=
  layout.plan.shards.map fun shard =>
    (shardFile layout.group shard.number, table.renderRows overlay (shardRows table shard))

/-- The entry of a key in the index. -/
def indexRecord (layout : ShardLayout) (key : Int) (number : Nat) : List Field :=
  [⟨layout.field, .scalar (ValueStyle.bare.render (writeInt key))⟩,
   ⟨"filename", .scalar (ValueStyle.quoted.render (shardFile layout.group number))⟩]

/-- The index of the shards. -/
def renderIndex (layout : ShardLayout) : Rendered :=
  let records := layout.plan.indexEntries.map fun (key, number) => indexRecord layout key number
  ⟨"[" ++ renderRecords records ++ "\n]", records.length⟩

end ShardLayout

namespace LocalizationRegistry

/-- The name of the file of a language. -/
def fileName (language : String) : String := "string_" ++ language ++ ".json"

/-- The record of a string in a language; a text that the language lacks is empty. -/
def stringRecord (language : String) (entry : LocalizedString) : List Field :=
  [⟨"key", .scalar (ValueStyle.quoted.render entry.key)⟩,
   ⟨"text", .scalar (ValueStyle.quoted.render ((entry.text? language).getD ""))⟩,
   ⟨"text_category", .scalar (ValueStyle.quoted.render entry.category)⟩]

/-- All strings in a language, in the order of their keys. -/
def render (registry : LocalizationRegistry) (language : String) : Rendered :=
  let records := registry.sorted.map (stringRecord language)
  ⟨"[" ++ renderRecords records ++ "]", records.length⟩

end LocalizationRegistry

end DesignTables
