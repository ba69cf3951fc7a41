import DesignTables.CommandLine.Arguments
import DesignTables.CommandLine.Printed
import DesignTables.CommandLine.Session
import DesignTables.Config.Options
import DesignTables.Log.Run
import DesignTables.Report.File

/-!
The commands: `build` compiles a design folder, `list` lists its workbooks.

A build reads the configuration and the workbooks, compiles the selection, and writes a report of
the problems if there are any.
-/
namespace DesignTables.CommandLine

/-- What a build came to. -/
structure BuildResult where
  options : Options
  dryRun : Bool
  /-- The names that selected nothing. -/
  unknown : List String
  outcome : RunOutcome
  /-- The path of the report, if there were problems to report. -/
  report : Option String

namespace BuildResult

/-- Whether anything was wrong. -/
def hasErrors (result : BuildResult) : Bool :=
  !result.outcome.succeeded || !result.unknown.isEmpty

/-- What a build prints. -/
def printed (result : BuildResult) : List Printed :=
  let outcome := result.outcome
  let target := if result.dryRun then "(dry run, nothing written)" else result.options.outputRoot
  .line ("Output: " ++ target) ::
    if outcome.succeeded then
      [.tables outcome.tables,
       .line ("Files: " ++ writeNat outcome.files.length ++ "  Enum groups: " ++
         writeNat outcome.enumGroups ++ "  Localization keys: " ++
         writeNat outcome.localizationKeys)]
    else
      [.diagnostics outcome.diagnostics,
       .line ("Stopped after " ++ outcome.stage.name ++ " with " ++
         writeNat outcome.diagnostics.length ++ " problem(s)")] ++
      (result.report.map fun path => .line ("Report: " ++ path)).toList

/-- The lines on names that selected nothing. -/
def notices (result : BuildResult) : List String :=
  if result.unknown.isEmpty then []
  else "Unknown selections:" :: result.unknown.map ("- " ++ ·)

end BuildResult

open Work

/-- The options of a build. -/
def loadOptions (arguments : BuildArguments) : Work Options := do
  let files := (← get).files
  let content? (path : String) := (files.read? path).bind FileContent.text?
  let overrides : Config.Overrides :=
    ⟨arguments.outputDir, arguments.codeNamespace, arguments.jobs⟩
  match Config.load content? arguments.config arguments.inputDir with
  | .malformed path => throw (.configuration path)
  | .absent =>
    tell (.of .debug .configuration "no configuration file, using defaults"
      [.bare "dir" arguments.inputDir])
    return overrides.apply Options.standard
  | .file path options =>
    tell (.of .debug .configuration "loaded configuration" [.bare "path" path])
    return overrides.apply options

/-- The log entry on a sheet that was read. -/
def sheetEvent (book : Workbook) (sheet : Sheet) : Log.Event :=
  .of .debug .folder "read sheet"
    [.bare "workbook" book.path, .bare "sheet" sheet.name, .count "rows" sheet.grid.height,
      .count "columns" sheet.grid.width]

/-- The workbooks of a folder. -/
def loadWorkbooks (directory : String) : Work (List Workbook) := do
  let loaded := Folder.load (← get).files directory
  log (loaded.workbooks.flatMap fun book =>
    book.sheets.map fun sheet => .ofEvent (sheetEvent book sheet))
  match loaded.fault with
  | some fault => throw (.folder directory fault)
  | none =>
    tell (.of .info .folder "loaded workbooks"
      [.bare "directory" directory, .count "workbooks" loaded.workbooks.length])
    return loaded.workbooks

/-- What a build selects: all unless it names something. -/
def BuildArguments.selection (arguments : BuildArguments) : Selection :=
  if arguments.all || arguments.select.isEmpty then .all else .named arguments.select

/-- Compiles a selection and writes the files of the run. -/
def compile (workers : Nat) (ctx : RunContext) : Work RunOutcome := do
  let compilation := Compilation.compile FileContent.text (← get).files ctx
  log (Log.runEntries workers ctx compilation)
  modify fun session => { session with files := compilation.tree }
  match compilation.outcome with
  | .ok outcome => return outcome
  | .error (path, fault) => throw (.output path fault)

/-- Writes a report of problems. -/
def writeReport (diagnostics : List Diagnostic) (path : String) (format : ReportFormat) :
    Work Unit := do
  match (Path.parent? path).filter (!·.isEmpty) with
  | some directory =>
    change (·.makeDirectories directory) (.reportDirectory directory)
  | none => pure ()
  let report := Report.render format diagnostics
  if !report.isStorable then throw (.reportText path)
  change (·.write path report) (.reportFile path)
  tell (.of .info .report "wrote diagnostic report"
    [.bare "path" path, .count "rows" diagnostics.length, .quoted "format" format.name])

/-- Reports the problems of a run, if there are any; gives the path of the report. -/
def reportProblems (arguments : BuildArguments) (now : Timestamp) (outcome : RunOutcome) :
    Work (Option String) := do
  if outcome.succeeded then return none
  let (path, format) := Report.target arguments.report arguments.reportFormat now
  writeReport outcome.diagnostics path format
  return some path

/-- Compiles a design folder. -/
def build (arguments : BuildArguments) (surroundings : Surroundings) : Work BuildResult :=
  within ⟨"build", .commands, [.bare "input" arguments.inputDir]⟩ do
    let options ← loadOptions arguments
    let workbooks ← loadWorkbooks arguments.inputDir
    let ctx := RunContext.select options workbooks arguments.selection arguments.dryRun
    let workers := options.workers surroundings.processors
    log (ctx.unknown.map fun name =>
      .ofEvent (.of .warn .commands "selection matched no workbook or table sheet"
        [.bare "name" name]))
    tell (.of .info .commands "selection complete"
      [.count "workbooks" ctx.workbooks.length, .count "selected" ctx.selected.length,
        .count "workers" workers])
    let outcome ← compile workers ctx
    let report ← reportProblems arguments surroundings.now outcome
    tell (.of .info .commands "build complete"
      [.bare "stage" outcome.stage.name, .count "diagnostics" outcome.diagnostics.length,
        .duration])
    return ⟨options, arguments.dryRun, ctx.unknown, outcome, report⟩

/-- What a command shows. -/
structure CommandResult where
  printed : List Printed
  /-- The lines for the error output. -/
  notices : List String
  hasErrors : Bool
deriving DecidableEq, Repr

/-- Does what a command line asks for. -/
def Command.run (command : Command) (surroundings : Surroundings) : Work CommandResult := do
  match command with
  | .build arguments =>
    let result ← CommandLine.build arguments surroundings
    return ⟨result.printed, result.notices, result.hasErrors⟩
  | .list inputDir =>
    let workbooks ← loadWorkbooks inputDir
    return ⟨[.line ("Input: " ++ inputDir), .catalog (Catalog.ofWorkbooks workbooks)], [], false⟩

end DesignTables.CommandLine
