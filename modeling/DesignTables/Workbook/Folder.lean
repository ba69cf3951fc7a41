import DesignTables.Output.FileLookup
import DesignTables.Text.Case
import DesignTables.Workbook.File

/-!
The workbooks of a design folder: which files are workbooks, and reading them all.
-/
namespace DesignTables

/-- Why the workbooks of a folder cannot be read. -/
inductive FolderFault where
  | noDirectory (directory : String)
  /-- A file that is named as a workbook and is none. -/
  | notAWorkbook (path : String)
deriving DecidableEq, Repr

/-- The wording of a fault. -/
def FolderFault.message : FolderFault → String
  | noDirectory directory => "input directory not found: " ++ directory
  | notAWorkbook path => "failed to read workbook " ++ path

namespace Folder

/-- The endings of workbook files, in any ASCII case. -/
def extensions : List String := ["xlsx", "xlsm", "xls", "ods"]

/-- Whether a file is a workbook by its name. The lock file beside an open workbook is none. -/
def isWorkbookName (name : String) : Bool :=
  !"~$".toList.isPrefixOf name.toList &&
    (Path.extension? name).any fun ending => extensions.contains (Text.asciiLower ending)

/-- The names of the workbook files directly in a directory, in ascending order. -/
def list (tree : FileTree FileContent) (directory : String) : Except FolderFault (List String) :=
  match tree.directoryAt? directory with
  | some place =>
    .ok (((tree.filesIn place).filter isWorkbookName).mergeSort fun a b => decide (a ≤ b))
  | none => .error (.noDirectory directory)

/-- The endings that stand for other forms of workbooks than the one that is read here. -/
def foreignExtensions : List String := ["xls", "ods"]

/-- The sheets of a workbook file. One that is named as a workbook of another form does not read. -/
def sheets? (tree : FileTree FileContent) (path : String) : Option (List Sheet) :=
  if (Path.extension? path).any foreignExtensions.contains then none
  else (tree.read? path).bind FileContent.sheets?

/-- A folder as far as it was read: the workbooks before the first fault. -/
structure Loaded where
  workbooks : List Workbook
  fault : Option FolderFault

/-- Reads one more workbook file, unless an earlier one has failed. -/
def loadNext (tree : FileTree FileContent) (directory : String) (loaded : Loaded)
    (name : String) : Loaded :=
  let path := Path.join directory name
  if loaded.fault.isSome then loaded
  else match sheets? tree path with
    | some sheets => { loaded with workbooks := loaded.workbooks ++ [⟨name, path, sheets⟩] }
    | none => { loaded with fault := some (.notAWorkbook path) }

/-- Reads the workbooks of a directory in the order of their names. -/
def load (tree : FileTree FileContent) (directory : String) : Loaded :=
  match list tree directory with
  | .ok names => names.foldl (loadNext tree directory) ⟨[], none⟩
  | .error fault => ⟨[], some fault⟩

end Folder

end DesignTables
