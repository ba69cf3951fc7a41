import DesignTables.Compile.Options
import DesignTables.Config.TomlReader

/-!
The options of a run out of a configuration file, and the overrides of the command line.

A file sets any of the options; keys it does not know are ignored, and a value of the wrong type is
an error.
-/
namespace DesignTables.Config

/-- The name of the configuration file in an input directory. -/
def fileName : String := "tablec.toml"

/-- The text under a key, if the key is there; nothing at all if it holds no text. -/
def textAt? (entries : List (String × Toml.Value)) (key : String) : Option (Option String) :=
  match entries.lookup key with
  | none => some none
  | some (.string text) => some (some text)
  | some _ => none

/-- The texts of a list; nothing if it holds anything else. -/
def texts? (items : List Toml.Value) : Option (List String) :=
  items.mapM fun item =>
    match item with
    | .string text => some text
    | _ => none

/-- The texts under a key, if the key is there. -/
def textsAt? (entries : List (String × Toml.Value)) (key : String) :
    Option (Option (List String)) :=
  match entries.lookup key with
  | none => some none
  | some (.array items) => (texts? items).map some
  | some _ => none

/-- The count under a key, if the key is there. -/
def countAt? (entries : List (String × Toml.Value)) (key : String) : Option (Option Nat) :=
  match entries.lookup key with
  | none => some none
  | some (.integer n) => if 0 ≤ n && n < Int.pow 2 64 then some (some n.toNat) else none
  | some _ => none

/-- The options that the entries of a file set. -/
def optionsOf? (entries : List (String × Toml.Value)) : Option Options := do
  let outputRoot ← textAt? entries "output_root"
  let dataDir ← textAt? entries "data_dir"
  let codeDir ← textAt? entries "code_dir"
  let codeNamespace ← textAt? entries "namespace"
  let codeImports ← textsAt? entries "code_imports"
  let concurrency ← countAt? entries "concurrency"
  return {
    outputRoot := outputRoot.getD Options.standard.outputRoot
    dataDir := dataDir.getD Options.standard.dataDir
    codeDir := codeDir.getD Options.standard.codeDir
    codeNamespace := codeNamespace.getD Options.standard.codeNamespace
    codeImports := codeImports.getD Options.standard.codeImports
    concurrency := concurrency }

/-- The options of a configuration file. -/
def parse? (text : String) : Option Options := (Toml.parse? text).bind optionsOf?

/-- The options that the command line sets; each one wins over the file. -/
structure Overrides where
  outputDir : Option String
  codeNamespace : Option String
  jobs : Option Nat
deriving DecidableEq, Repr

/-- Options with overrides. -/
def Overrides.apply (overrides : Overrides) (options : Options) : Options :=
  { options with
    outputRoot := overrides.outputDir.getD options.outputRoot
    codeNamespace := overrides.codeNamespace.getD options.codeNamespace
    concurrency := overrides.jobs.or options.concurrency }

/-- What reading the configuration comes to. -/
inductive Loaded where
  /-- No file; the standard options hold. -/
  | absent
  | file (path : String) (options : Options)
  /-- The file cannot be read or is malformed. -/
  | malformed (path : String)
deriving DecidableEq, Repr

/-- Reads the configuration: the named file, else the one in the input directory if there is one.
`content?` gives the text of a file. -/
def load (content? : String → Option String) (named : Option String) (inputDir : String) :
    Loaded :=
  let ofText (path text : String) :=
    match parse? text with
    | some options => .file path options
    | none => .malformed path
  match named with
  | some path => ((content? path).map (ofText path)).getD (.malformed path)
  | none =>
    let path := Path.join inputDir fileName
    ((content? path).map (ofText path)).getD .absent

end DesignTables.Config
