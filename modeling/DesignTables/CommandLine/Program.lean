import DesignTables.CommandLine.Build
import DesignTables.Log.Filter

/-!
A whole run of the program: the command, the log on the error output or in a file, and the exit
code.
-/
namespace DesignTables.CommandLine

/-- What a run of the program leaves behind. -/
structure ProgramResult where
  exitCode : Nat
  printed : List Printed
  /-- The lines on the error output before the error. -/
  notices : List String
  /-- The line of the error that ended the run, if one did. -/
  error : Option String
  files : FileTree FileContent

/-- The lines on the error output. -/
def ProgramResult.errorOutput (result : ProgramResult) : List String :=
  Text.printedLines (result.notices ++ result.error.toList)

/-- A log file, opened: it is made unless it is there. Its place comes with the files. -/
def openLog (files : FileTree FileContent) (path : String) :
    Except FileFault (List String × FileTree FileContent) :=
  files.writeAt path fun old => old.getD (.text "")

/-- Files with lines added at the end of the log file. Nothing is added where the log file is gone
meanwhile. -/
def appendLog (files : FileTree FileContent) (place : List String) (lines : List String) :
    FileTree FileContent :=
  match files.content? place with
  | some (.text old) =>
    files.put place (.file (.text (old ++ String.join (lines.map (· ++ "\n")))))
  | _ => files

/-- The lines of the log that a filter lets through. -/
def logLines (filter : Log.Filter) (style : Log.Style) (entries : List Log.Entry) : List String :=
  (entries.filterMap filter.keep?).filterMap style.line?

/-- What comes of a command whose log is written. -/
def finish (result : Except Failure CommandResult) (files : FileTree FileContent)
    (logged : List String) : ProgramResult :=
  match result with
  | .ok shown =>
    ⟨if shown.hasErrors then 1 else 0, shown.printed, logged ++ shown.notices, none, files⟩
  | .error failure => ⟨1, [], logged, some ("error: " ++ failure.line), files⟩

/-- Runs what a command line asks for. `environment` is the filter that the environment gives for
the log. -/
def Invocation.run (invocation : Invocation) (environment : Option String)
    (surroundings : Surroundings) (files : FileTree FileContent) : ProgramResult :=
  let log := invocation.log
  let filter := Log.Filter.choose environment log.isLevelGiven log.threshold
  let style := log.style surroundings.now.lineText
  let linesOf (session : Session) := logLines filter style session.log
  match log.file with
  | none =>
    let (result, session) := (invocation.command.run surroundings).runOn files
    finish result session.files (linesOf session)
  | some path =>
    match openLog files path with
    | .error fault =>
      ⟨1, [], [], some ("error: failed to initialize logging: " ++ fault.message), files⟩
    | .ok (place, opened) =>
      let (result, session) := (invocation.command.run surroundings).runOn opened
      finish result (appendLog session.files place (linesOf session)) []

end DesignTables.CommandLine
