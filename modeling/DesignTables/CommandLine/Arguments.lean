import DesignTables.CommandLine.Reading
import DesignTables.Log.Layout
import DesignTables.Report.Format

/-!
The command line of the compiler: its commands `build` and `list` with their options, and the
options on logging, which stand before or behind the command.

An option on logging that is given in both places counts as given behind the command. Options that
exclude each other are looked for in each place on its own.
-/
namespace DesignTables.CommandLine

/-- The command that compiles a design folder. -/
structure BuildArguments where
  inputDir : String
  /-- The names of what to compile; none for all. -/
  select : List String
  /-- All is to be compiled. -/
  all : Bool
  config : Option String
  outputDir : Option String
  codeNamespace : Option String
  jobs : Option Nat
  report : Option String
  reportFormat : Option ReportFormat
  dryRun : Bool
deriving DecidableEq, Repr

/-- A command. -/
inductive Command where
  | build (arguments : BuildArguments)
  | list (inputDir : String)
deriving DecidableEq, Repr

/-- The options on logging. -/
structure LogArguments where
  /-- How often more entries were asked for. -/
  verbose : Nat
  /-- How often fewer entries were asked for. -/
  quiet : Nat
  level : Option Log.Level
  layout : Log.Layout
  file : Option String
  timestamps : Bool
  showsPart : Bool
  hidesEnds : Bool
deriving DecidableEq, Repr

/-- A command line. -/
structure Invocation where
  command : Command
  log : LogArguments
deriving DecidableEq, Repr

namespace LogArguments

/-- The threshold that was asked for step by step, from warnings upwards and downwards. -/
def verbosity (log : LogArguments) : Log.Threshold :=
  .ofRank (Log.Level.warn.rank + log.verbose - log.quiet)

/-- Whether the verbosity was asked for. -/
def hasVerbosity (log : LogArguments) : Bool := log.verbose != 0 || log.quiet != 0

/-- The threshold of the log: a level wins over the verbosity. -/
def threshold (log : LogArguments) : Log.Threshold :=
  (log.level.map .upTo).getD log.verbosity

/-- Whether a threshold was asked for in any way. -/
def isLevelGiven (log : LogArguments) : Bool := log.hasVerbosity || log.level.isSome

/-- How log lines are written, given the text of the time. -/
def style (log : LogArguments) (time : String) : Log.Style :=
  ⟨log.layout, if log.timestamps then some time else none, log.showsPart, !log.hidesEnds⟩

end LogArguments

/-- An option without a letter that excludes no other. -/
def option (name : String) (role : OptionRole) : OptionSpec := ⟨name, none, role, none⟩

/-- The choice among the names of some values. -/
def choiceOf {α : Type} (name : α → String) (values : List α) : ValueKind :=
  .choice (values.map name)

/-- The options that stand before or behind a command. -/
def sharedOptions : List OptionSpec :=
  [⟨"help", some 'h', .help, none⟩,
   ⟨"verbose", some 'v', .counter, none⟩,
   ⟨"quiet", some 'q', .counter, some "verbose"⟩,
   option "color" (.single (.choice ["auto", "always", "never"])),
   option "log-level" (.single (choiceOf Log.Level.name Log.Level.all)),
   option "log-format" (.single (choiceOf Log.Layout.name [.pretty, .compact, .json])),
   option "log-file" (.single .path),
   option "log-timestamps" .switch,
   option "log-target" .switch,
   option "no-log-spans" .switch]

/-- What stands before a command. -/
def topSpec : CommandSpec where
  options := ⟨"version", some 'V', .version, none⟩ :: sharedOptions
  argument := none
  commands := ["build", "list", "help"]

/-- What stands behind the command that compiles. -/
def buildSpec : CommandSpec where
  options :=
    [⟨"select", some 's', .repeated .text, none⟩,
     ⟨"all", none, .switch, some "select"⟩,
     option "config" (.single .path),
     option "output-dir" (.single .path),
     option "namespace" (.single .text),
     ⟨"jobs", some 'j', .single .count, none⟩,
     option "report" (.single .path),
     option "report-format" (.single (choiceOf ReportFormat.name [.xlsx, .csv, .json])),
     option "dry-run" .switch] ++ sharedOptions
  argument := some .path
  commands := []

/-- What stands behind the command that lists workbooks. -/
def listSpec : CommandSpec := ⟨sharedOptions, some .path, []⟩

/-- The values that an option was given, in order. -/
def valuesOf (given : List Given) (name : String) : List String :=
  (given.filter (·.name == some name)).filterMap (·.value)

/-- The value that an option was given. -/
def valueOf? (given : List Given) (name : String) : Option String := (valuesOf given name).head?

/-- How often an option was given. -/
def countOf (given : List Given) (name : String) : Nat := given.countP (·.name == some name)

/-- Whether an option was given. -/
def wasGiven (given : List Given) (name : String) : Bool := given.any (·.name == some name)

/-- The value of the argument. -/
def argumentOf (given : List Given) : String :=
  ((given.find? (·.name.isNone)).bind (·.value)).getD ""

/-- The options on logging, read before and behind a command: an option that was given behind it
counts as given there alone. -/
def LogArguments.ofGiven (before behind : List Given) : LogArguments :=
  let given := before.filter (fun g => !behind.any (·.name == g.name)) ++ behind
  { verbose := countOf given "verbose"
    quiet := countOf given "quiet"
    level := (valueOf? given "log-level").bind Log.Level.ofName?
    layout := ((valueOf? given "log-format").bind Log.Layout.ofName?).getD .pretty
    file := valueOf? given "log-file"
    timestamps := wasGiven given "log-timestamps"
    showsPart := wasGiven given "log-target"
    hidesEnds := wasGiven given "no-log-spans" }

/-- The command that compiles, read. -/
def BuildArguments.ofGiven (given : List Given) : BuildArguments where
  inputDir := argumentOf given
  select := valuesOf given "select"
  all := wasGiven given "all"
  config := valueOf? given "config"
  outputDir := valueOf? given "output-dir"
  codeNamespace := valueOf? given "namespace"
  jobs := (valueOf? given "jobs").bind readCount?
  report := valueOf? given "report"
  reportFormat := (valueOf? given "report-format").bind ReportFormat.ofName?
  dryRun := wasGiven given "dry-run"

/-- What asking for help about commands comes to. -/
def helpError : List String → UsageError
  | [] => .help
  | [name] => if topSpec.commands.contains name then .help else .unknownCommand
  | _ => .unknownCommand

/-- The command of a name, read from the words behind it, with what was given there. -/
def readCommand (name : String) (words : List String) :
    Except UsageError (Command × List Given) :=
  match name with
  | "build" => (readArguments buildSpec words).map fun given => (.build (.ofGiven given), given)
  | "list" => (readArguments listSpec words).map fun given => (.list (argumentOf given), given)
  | _ => .error (helpError words)

/-- Reads a command line. -/
def parse (words : List String) : Except UsageError Invocation := do
  let (before, behind) ← Progress.readWords topSpec words .start
  match behind with
  | none =>
    let before ← before.settle
    throw (if before.given.isEmpty then .nothingGiven else .missingCommand)
  | some (name, rest) =>
    let (command, given) ← readCommand name rest
    let before ← before.settle
    if before.conflicts topSpec then throw .conflict
    return ⟨command, .ofGiven before.given given⟩

end DesignTables.CommandLine
