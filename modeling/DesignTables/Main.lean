import DesignTables.CommandLine.Program
import DesignTables.Output.TreeChange
import DesignTables.Workbook.PlainText

/-!
The program: it reads the files below the working directory, runs the command line on them, shows
what comes of it, and carries out on disk what the run changed.

Paths on the command line must stay below the working directory. The work is done by one worker.
-/
namespace DesignTables.CommandLine

/-- The files below the working directory. A file that cannot be read or is no text counts as
empty. -/
def readFiles : IO (FileTree FileContent) := do
  let root ← IO.currentDir
  let mut tree : FileTree FileContent := FileTree.empty
  for path in ← root.walkDir do
    let names := path.components.drop root.components.length
    if ← path.isDir then
      tree := tree.put names .directory
    else
      let bytes ← try IO.FS.readBinFile path catch _ => pure ByteArray.empty
      let text := (String.fromUTF8? bytes).getD ""
      tree := tree.put names (.file (PlainWorkbook.contentOf (names.getLast?.getD "") text))
  return tree

/-- Carries out a change below the working directory. -/
def carryOut (change : TreeChange FileContent) : IO Unit := do
  let path (names : List String) : String := Text.joinWith "/" names
  match change with
  | .removeFile names => IO.FS.removeFile (path names)
  | .removeDirectory names => IO.FS.removeDir (path names)
  | .makeDirectory names => IO.FS.createDir (path names)
  | .writeFile names content => IO.FS.writeFile (path names) (PlainWorkbook.textOf content)

/-- The time at which a new file is made. -/
def currentTime : IO Timestamp := do
  let (_, path) ← IO.FS.createTempFile
  let made ← path.metadata
  IO.FS.removeFile path
  return Timestamp.ofSeconds made.modified.sec

/-- Runs a command line on the files below the working directory and gives the exit code. -/
def runInvocation (invocation : Invocation) : IO UInt32 := do
  let before ← readFiles
  let environment ← IO.getEnv "LOG_FILTER"
  let result := invocation.run environment ⟨1, ← currentTime⟩ before
  for change in before.changes result.files do
    carryOut change
  for printed in result.printed do
    for line in printed.lines do
      IO.println line
  for line in result.notices do
    IO.eprintln line
  if let some line := result.error then
    IO.eprintln line
  return UInt32.ofNat result.exitCode

end DesignTables.CommandLine

open DesignTables

/-- Runs the command line that the program was started with. -/
def main (arguments : List String) : IO UInt32 := do
  match CommandLine.parse arguments with
  | .ok invocation => CommandLine.runInvocation invocation
  | .error fault =>
    if fault.exitCode = 0 then IO.println fault.message else IO.eprintln fault.message
    return UInt32.ofNat fault.exitCode
