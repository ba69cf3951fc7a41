import DesignTables.Log.Entry
import DesignTables.Output.FileChange
import DesignTables.Report.Timestamp
import DesignTables.Workbook.Folder

/-!
What a command does beside giving a result: it changes files, keeps a log, and may fail.

The files and the log of a failed command are what it left behind until it failed.
-/
namespace DesignTables.CommandLine

/-- What a command is told of the machine it runs on. -/
structure Surroundings where
  processors : Nat
  now : Timestamp
deriving DecidableEq, Repr

/-- Why a command failed. -/
inductive Failure where
  /-- The configuration cannot be read or is malformed. -/
  | configuration (path : String)
  | folder (directory : String) (fault : FolderFault)
  | output (path : String) (fault : FileFault)
  | reportDirectory (path : String) (fault : FileFault)
  | reportFile (path : String) (fault : FileFault)
  /-- A text is too long for a cell of the report. -/
  | reportText (path : String)
deriving DecidableEq, Repr

namespace Failure

/-- What the command was about when it failed. -/
def context : Failure → String
  | configuration _ => "load configuration"
  | folder directory _ => "read workbooks in " ++ directory
  | output _ _ => "compile run"
  | reportDirectory path _ => "create report directory " ++ path
  | reportFile path _ | reportText path => "write report " ++ path

/-- What went wrong then. -/
def cause : Failure → String
  | configuration path => "invalid configuration in " ++ path
  | folder _ fault => fault.message
  | output path fault => "failed to write " ++ path ++ ": " ++ fault.message
  | reportDirectory _ fault => fault.message
  | reportFile _ fault => fault.message
  | reportText _ => "String exceeds Excel's limit of 32,767 characters."

/-- The failure on one line. -/
def line (failure : Failure) : String := failure.context ++ ": " ++ failure.cause

end Failure

/-- The files and the log of a command. -/
structure Session where
  files : FileTree FileContent
  log : List Log.Entry

/-- The work of a command. -/
abbrev Work := ExceptT Failure (StateM Session)

namespace Work

/-- Does some work on files. -/
def runOn {α : Type} (work : Work α) (files : FileTree FileContent) :
    Except Failure α × Session :=
  work.run.run ⟨files, []⟩

/-- Adds entries to the log. -/
def log (entries : List Log.Entry) : Work Unit :=
  modify fun session => { session with log := session.log ++ entries }

/-- Adds an event to the log. -/
def tell (event : Log.Event) : Work Unit := log [.ofEvent event]

/-- Does some work within a span of the log, which ends also when the work fails. -/
def within {α : Type} (span : Log.Span) (work : Work α) : Work α := ExceptT.mk do
  let before ← get
  let (result, after) := work.run.run { before with log := [] }
  set { after with log := before.log ++ Log.Entry.within span after.log }
  return result

/-- The result of an operation on files, or its fault as a failure. -/
def orFail {α : Type} (result : Except FileFault α) (failure : FileFault → Failure) : Work α :=
  match result with
  | .ok value => pure value
  | .error fault => throw (failure fault)

/-- Changes the files. -/
def change (operation : FileTree FileContent → Except FileFault (FileTree FileContent))
    (failure : FileFault → Failure) : Work Unit := do
  let files ← orFail (operation (← get).files) failure
  modify fun session => { session with files := files }

end Work

end DesignTables.CommandLine
