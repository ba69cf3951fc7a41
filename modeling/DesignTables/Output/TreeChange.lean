import DesignTables.Output.FileTree

/-!
The steps from one tree of files to another, in an order in which they can be carried out.
-/
namespace DesignTables

/-- A step from one tree to another. -/
inductive TreeChange (α : Type) where
  | removeFile (names : List String)
  /-- Removes a directory that holds nothing any more. -/
  | removeDirectory (names : List String)
  /-- Makes a directory in one that is there. -/
  | makeDirectory (names : List String)
  | writeFile (names : List String) (content : α)
deriving DecidableEq, Repr

namespace FileTree

variable {α : Type}

/-- The places of the directories, those that hold others first. -/
def directories (tree : FileTree α) : List (List String) :=
  (tree.nodes.filterMap fun (names, node) =>
    match node with
    | .directory => some names
    | .file _ => none).mergeSort fun a b => a.length ≤ b.length

/-- The files with their places. -/
def fileNodes (tree : FileTree α) : List (List String × α) :=
  tree.nodes.filterMap fun (names, node) =>
    match node with
    | .directory => none
    | .file content => some (names, content)

/-- The steps that make one tree of another: what is gone is removed from the inside outwards, and
what is new is made from the outside inwards. -/
def changes [DecidableEq α] (before after : FileTree α) : List (TreeChange α) :=
  let goneFiles := before.fileNodes.filter fun file => (after.content? file.1).isNone
  let goneDirectories := before.directories.reverse.filter (!after.isDirectory ·)
  let newDirectories := after.directories.filter (!before.isDirectory ·)
  let newFiles := after.fileNodes.filter fun file => before.content? file.1 ≠ some file.2
  goneFiles.map (fun file => .removeFile file.1) ++ goneDirectories.map .removeDirectory ++
    newDirectories.map .makeDirectory ++ newFiles.map fun file => .writeFile file.1 file.2

end FileTree

end DesignTables
