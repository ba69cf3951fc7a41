import DesignTables.Output.FileTree

/-!
What a path leads to in a tree of files.

A path is followed piece by piece from the working directory, or from the root if it is absolute,
and every piece before the last must lead to a directory that exists, also where a step upwards
leads out of it again: `a/../b` leads nowhere without a directory `a`. A slash at the end asks for a
directory.
-/
namespace DesignTables

/-- Why an operation on files is refused. -/
inductive FileFault where
  | notFound
  | alreadyExists
  | notADirectory
  | isADirectory
  | invalidArgument
  | nameTooLong
  | notEmpty
  /-- A path with a character that no name can hold. -/
  | malformedName
deriving DecidableEq, Repr

/-- The wording of a fault, with the number the system gives it. -/
def FileFault.message : FileFault → String
  | notFound => "No such file or directory (os error 2)"
  | alreadyExists => "File exists (os error 17)"
  | notADirectory => "Not a directory (os error 20)"
  | isADirectory => "Is a directory (os error 21)"
  | invalidArgument => "Invalid argument (os error 22)"
  | nameTooLong => "File name too long (os error 36)"
  | notEmpty => "Directory not empty (os error 39)"
  | malformedName => "file name contained an unexpected NUL byte"

namespace FileTree

variable {α : Type}

/-- The greatest length of a name, in bytes. -/
def maxNameLength : Nat := 255

/-- The greatest length of a path, in bytes. -/
def maxPathLength : Nat := 4095

/-- The place that a piece of a path leads to from a directory. -/
def placeOf (directory : List String) (piece : String) : Except FileFault (List String) :=
  if maxNameLength < piece.utf8ByteSize then .error .nameTooLong
  else .ok
    (if piece = "." then directory
     else if piece = ".." then above directory
     else directory ++ [piece])

/-- Goes from a directory into another one. -/
def enter (tree : FileTree α) (directory : List String) (piece : String) :
    Except FileFault (List String) :=
  match placeOf directory piece with
  | .error fault => .error fault
  | .ok place =>
    match tree.node? place with
    | some .directory => .ok place
    | some (.file _) => .error .notADirectory
    | none => .error .notFound

/-- A path followed up to its last piece. -/
structure Lookup where
  /-- The directory that the last piece leads on from. -/
  directory : List String
  /-- The last piece; the root has none. -/
  last : Option String
deriving DecidableEq, Repr

/-- The pieces of a path. -/
def piecesOf (path : String) : List String := (Text.splitOn '/' path).filter (!·.isEmpty)

/-- Whether a path asks for a directory by a slash at its end. -/
def endsInSlash (path : String) : Bool := path.toList.getLast? = some '/'

/-- Follows a path up to its last piece. -/
def lookup (tree : FileTree α) (path : String) : Except FileFault Lookup :=
  let pieces := piecesOf path
  if path.toList.contains '\x00' then .error .malformedName
  else if path.isEmpty then .error .notFound
  else if maxPathLength < path.utf8ByteSize then .error .nameTooLong
  else
    (pieces.dropLast.foldlM tree.enter (if Path.isAbsolute path then root else [])).map
      fun directory => ⟨directory, pieces.getLast?⟩

/-- The place that a path followed so far leads to. -/
def Lookup.place (found : Lookup) : Except FileFault (List String) :=
  match found.last with
  | some piece => placeOf found.directory piece
  | none => .ok found.directory

/-- The name that a path gives to what it leads to, if it is neither the root nor a step. -/
def Lookup.name? (found : Lookup) : Option String :=
  found.last.filter fun piece => piece ≠ "." && piece ≠ ".."

/-- The place that a path leads to, and what stands there. -/
def find (tree : FileTree α) (path : String) :
    Except FileFault (List String × FileNode α) := do
  let found ← tree.lookup path
  let place ← found.place
  match tree.node? place with
  | none => .error .notFound
  | some .directory => .ok (place, .directory)
  | some (.file content) =>
    if endsInSlash path then .error .notADirectory else .ok (place, .file content)

/-- The place of the directory that a path leads to. -/
def directoryAt? (tree : FileTree α) (path : String) : Option (List String) :=
  match tree.find path with
  | .ok (place, .directory) => some place
  | _ => none

/-- The content of the file that a path leads to. -/
def read? (tree : FileTree α) (path : String) : Option α :=
  match tree.find path with
  | .ok (_, .file content) => some content
  | _ => none

/-- What is entered is a directory. -/
theorem isDirectory_of_enter {tree : FileTree α} {directory place : List String} {piece : String}
    (h : tree.enter directory piece = .ok place) : tree.isDirectory place = true := by
  rw [enter] at h
  split at h
  next => cases h
  next there =>
    split at h
    next found =>
      cases h
      simp [isDirectory, found]
    next => cases h
    next => cases h

end FileTree

end DesignTables
