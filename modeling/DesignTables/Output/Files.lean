import DesignTables.Output.EnumCode
import DesignTables.Output.FileChange
import DesignTables.Output.SchemaCode
import DesignTables.Output.Records

/-!
The files of a run: which there are, in which order, and what happens when they are written.

A run clears the output root, then writes table after table its records (or its shards and their
index) and its companion code, then the code of the enumerations, then the localized strings.
-/
namespace DesignTables

/-- The role of a file. -/
inductive FileRole where
  | records | shard | shardIndex | schemaCode | enumCode | localization
deriving DecidableEq, Repr

/-- The name of a role. -/
def FileRole.name : FileRole → String
  | records => "records"
  | shard => "shard"
  | shardIndex => "shard index"
  | schemaCode => "schema code"
  | enumCode => "enum code"
  | localization => "localization"

/-- A file to write. -/
structure OutputFile where
  path : String
  role : FileRole
  /-- The table that the file belongs to, unless it serves all. -/
  table : Option String
  content : Rendered
deriving DecidableEq, Repr

/-- Everything that a run writes. -/
structure Output where
  tables : List OutputTable
  overlay : Overlay
  enums : EnumRegistry
  localization : LocalizationRegistry

namespace Output

/-- A text without the slashes at its ends. -/
def trimSlashes (s : String) : String :=
  String.ofList
    (((s.toList.dropWhile (· == '/')).reverse.dropWhile (· == '/')).reverse)

/-- The directory of a table below another one. -/
def tableDirectory (base : String) (schema : Schema) : String :=
  let subfolder := trimSlashes (String.ofList
    (schema.subfolder.toList.map fun c => if c = '\\' then '/' else c))
  if subfolder.isEmpty then base else Path.join base subfolder

/-- Where the records of a table go. -/
def recordsPath (options : Options) (schema : Schema) : String :=
  Path.join (tableDirectory options.dataPath schema) (pascalCase schema.name ++ "Table.json")

/-- Where the companion code of a table goes. -/
def codePath (options : Options) (schema : Schema) : String :=
  Path.join (tableDirectory options.codePath schema) (SchemaCode.fileName schema)

/-- The record file of a table, or its shard files and their index. -/
def dataFiles (options : Options) (overlay : Overlay) (table : OutputTable) : List OutputFile :=
  let name := some table.schema.name
  match table.shards with
  | some layout =>
    ((layout.renderShards table overlay).map fun (file, content) =>
      ⟨Path.join options.outputRoot file, .shard, name, content⟩) ++
    [⟨Path.join options.outputRoot (ShardLayout.indexFile layout.group), .shardIndex, name,
      layout.renderIndex⟩]
  | none =>
    [⟨recordsPath options table.schema, .records, name, table.renderTable overlay⟩]

/-- The companion code of a table, if it wants any. -/
def codeFiles (options : Options) (table : OutputTable) : List OutputFile :=
  if table.wantsCode then
    let code := SchemaCode.ofSchema table.schema
    [⟨codePath options table.schema, .schemaCode, some table.schema.name,
      ⟨code.render options, code.fields.length⟩⟩]
  else []

/-- The code of the enumerations, if any group wants it. -/
def enumFiles (options : Options) (enums : EnumRegistry) : List OutputFile :=
  match EnumCode.render? enums options.codeNamespace with
  | some (text, groups) =>
    [⟨Path.join options.codePath EnumCode.fileName, .enumCode, none, ⟨text, groups⟩⟩]
  | none => []

/-- The strings of every language. -/
def stringFiles (options : Options) (localization : LocalizationRegistry) : List OutputFile :=
  localization.languages.map fun language =>
    ⟨Path.join options.outputRoot (LocalizationRegistry.fileName language), .localization, none,
      localization.render language⟩

/-- All files in the order in which they are written. -/
def files (output : Output) (options : Options) : List OutputFile :=
  (output.tables.flatMap fun table =>
    dataFiles options output.overlay table ++ codeFiles options table) ++
  enumFiles options output.enums ++ stringFiles options output.localization

end Output

/-- What came of writing the files of a run. -/
structure Emission (α : Type) where
  tree : FileTree α
  /-- The files that were written. -/
  written : List OutputFile
  /-- The path at which writing failed with the fault, if it did. -/
  failure : Option (String × FileFault)

namespace Emission

variable {α : Type}

/-- Writes a file with the directories above it. A fault comes with the path that it concerns: that
of the file, or of its directory if that cannot be made. -/
def writeFile (ofText : String → α) (tree : FileTree α) (path text : String) :
    Except (String × FileFault) (FileTree α) :=
  let directory := (Path.parent? path).getD ""
  match tree.makeDirectories directory with
  | .error fault => .error (directory, fault)
  | .ok made => (made.write path (ofText text)).mapError fun fault => (path, fault)

/-- Writes the next file, unless an earlier one failed. -/
def next (ofText : String → α) (emission : Emission α) (file : OutputFile) : Emission α :=
  if emission.failure.isSome then emission
  else match writeFile ofText emission.tree file.path file.content.text with
    | .ok tree => { emission with tree := tree, written := emission.written ++ [file] }
    | .error failure => { emission with failure := some failure }

/-- Clears the output root, makes it anew, and writes files one after the other. -/
def ofFiles (ofText : String → α) (tree : FileTree α) (root : String) (files : List OutputFile) :
    Emission α :=
  match tree.removeDirectory root with
  | (cleared, some fault) => ⟨cleared, [], some (root, fault)⟩
  | (cleared, none) =>
    match cleared.makeDirectories root with
    | .error fault => ⟨cleared, [], some (root, fault)⟩
    | .ok made => files.foldl (next ofText) ⟨made, [], none⟩

end Emission

end DesignTables
