import DesignTables.Compile.Options
import DesignTables.Table.Schema

/-!
Companion code of a table: a container class and a record class with a field for every exported
column.
-/
namespace DesignTables

/-- A name of words between underscores with each word's first letter made capital. -/
def pascalCase (name : String) : String :=
  let capital (word : List Char) : List Char :=
    match word with
    | [] => []
    | c :: cs => Text.upperChar c ++ cs
  String.ofList ((Text.pieces (· == '_') name.toList).flatMap capital)

/-- The type of a column's field; an enumeration has the type of its group. -/
def fieldType (column : Column) : String :=
  match column.enumGroup, column.dataType with
  | some group, _ => group
  | none, some type => type.name
  | none, none => "string"

/-- A field of a record class. -/
structure CodeField where
  type : String
  isArray : Bool
  name : String
deriving DecidableEq, Repr

/-- The container class of a table. -/
inductive CodeContainer where
  /-- Records under a key: the type of the key, and the field that holds it. -/
  | keyed (keyType keyField : String)
  /-- A single record. -/
  | single
deriving DecidableEq, Repr

/-- The companion code of a table. -/
structure SchemaCode where
  className : String
  container : CodeContainer
  fields : List CodeField
deriving DecidableEq, Repr

namespace SchemaCode

/-- The container class of a table. -/
def containerOf (schema : Schema) : CodeContainer :=
  match schema.keyColumn? with
  | some key => if schema.options.valueOnly then .single else .keyed (fieldType key) key.title
  | none => .single

/-- The companion code of a table. -/
def ofSchema (schema : Schema) : SchemaCode where
  className := pascalCase schema.name ++ "Table"
  container := containerOf schema
  fields := schema.exported.map fun (column, _) =>
    ⟨fieldType column, column.isArray, column.title⟩

/-- The name of the record class. -/
def recordName (code : SchemaCode) : String := code.className ++ "Record"

/-- The lines of the container class. -/
def containerLines (code : SchemaCode) : List String :=
  let head := "public partial class " ++ code.className ++ " : "
  match code.container with
  | .keyed keyType keyField =>
    [head ++ "KeyValueTable<" ++ keyType ++ ", " ++ code.recordName ++ ">",
     "\x7b",
     "\tpublic " ++ code.className ++ "() : base(nameof(" ++ code.recordName ++ "." ++ keyField
       ++ "))",
     "\t\x7b\x7d",
     "\x7d"]
  | .single =>
    [head ++ "ValueOnlyTable<" ++ code.recordName ++ ">", "\x7b", "\x7d"]

/-- The declaration of a field. -/
def fieldLine (field : CodeField) : String :=
  "\tpublic " ++ field.type ++ (if field.isArray then "[]" else "") ++ " " ++ field.name ++ ";"

/-- The lines of the record class. -/
def recordLines (code : SchemaCode) : List String :=
  ["[Serializable]", "public partial class " ++ code.recordName, "\x7b"] ++
  code.fields.map fieldLine ++ ["\x7d"]

/-- Lines of text, each with a line break at its end. -/
def endLines (lines : List String) : String := String.join (lines.map (· ++ "\n"))

/-- The file of companion code; with a namespace the classes stand indented inside it. -/
def render (code : SchemaCode) (options : Options) : String :=
  let space := Text.trim options.codeNamespace
  let indent (line : String) := if space.isEmpty then line else "\t" ++ line
  endLines (options.codeImports.map fun name => "using " ++ name ++ ";") ++ "\n" ++
  endLines
    ((if space.isEmpty then [] else ["namespace " ++ space, "\x7b"]) ++
      (("[PreferBinarySerialization]" :: code.containerLines).map indent) ++ [""] ++
      code.recordLines.map indent ++
      (if space.isEmpty then [] else ["\x7d"]))

/-- The name of the companion code file of a table. -/
def fileName (schema : Schema) : String := pascalCase schema.name ++ "Table.cs"

end SchemaCode

end DesignTables
