import DesignTables.Text.Path

/-!
A tree of files as a value: what there is below a working directory.

Directories exist on their own. A place in the tree is the list of the names on the way to it from
the working directory. The directories around the working directory and the root of absolute paths
are places too, but nothing is known of what else they hold.
-/
namespace DesignTables

/-- What a path leads to. -/
inductive FileNode (α : Type) where
  | directory
  | file (content : α)
deriving DecidableEq, Repr

/-- Files with contents of a type, by their places. -/
structure FileTree (α : Type) where
  nodes : List (List String × FileNode α)
deriving Repr

namespace FileTree

variable {α : Type}

/-- The tree without files. -/
def empty : FileTree α := ⟨[]⟩

/-- The place of the root, where absolute paths start. -/
def root : List String := ["/"]

/-- The place of the directory that a directory lies in; the root lies in itself. -/
def above (place : List String) : List String :=
  match place.getLast? with
  | none | some ".." => place ++ [".."]
  | some "/" => place
  | some _ => place.dropLast

/-- Whether a place is the working directory, a directory around it, or the root. -/
def isGiven (place : List String) : Bool := place.all (· = "..") || place = root

/-- Whether a place lies below the working directory. -/
def isInside (place : List String) : Bool :=
  place.head?.any fun name => name ≠ ".." && name ≠ "/"

/-- What stands at a place. -/
def node? (tree : FileTree α) (place : List String) : Option (FileNode α) :=
  if isGiven place then some .directory else tree.nodes.lookup place

/-- Whether a directory stands at a place. -/
def isDirectory (tree : FileTree α) (place : List String) : Bool :=
  match tree.node? place with
  | some .directory => true
  | _ => false

/-- The content of the file at a place. -/
def content? (tree : FileTree α) (place : List String) : Option α :=
  match tree.node? place with
  | some (.file content) => some content
  | _ => none

/-- Puts a node at a place instead of what stood there. -/
def put (tree : FileTree α) (place : List String) (node : FileNode α) : FileTree α :=
  ⟨tree.nodes.filter (·.1 ≠ place) ++ [(place, node)]⟩

private theorem lookup_node_cons (first other : List String) (node : FileNode α)
    (nodes : List (List String × FileNode α)) :
    ((first, node) :: nodes).lookup other =
      if other = first then some node else nodes.lookup other := by
  rw [List.lookup_cons]
  split <;> simp_all

/-- Removing what stands at a place leaves all other places as they are. -/
theorem lookup_filter_ne (nodes : List (List String × FileNode α)) (place other : List String) :
    (nodes.filter (·.1 ≠ place)).lookup other =
      if other = place then none else nodes.lookup other := by
  induction nodes with
  | nil => simp
  | cons node nodes ih =>
    obtain ⟨first, there⟩ := node
    rw [lookup_node_cons]
    by_cases same : first = place
    · rw [List.filter_cons_of_neg (by simpa using same), ih]
      by_cases h : other = place
      · simp [h]
      · simp [h, same]
    · rw [List.filter_cons_of_pos (by simpa using same), lookup_node_cons, ih]
      by_cases h : other = first
      · simp [h, same]
      · simp [h]

/-- A node that is put stands at its place, and all other places keep theirs. -/
theorem node?_put (tree : FileTree α) (place other : List String) (node : FileNode α) :
    (tree.put place node).node? other =
      if isGiven other then some .directory
      else if other = place then some node
      else tree.node? other := by
  by_cases given : isGiven other = true
  · simp [node?, given]
  · simp only [node?, put, given, List.lookup_append, lookup_filter_ne, lookup_node_cons]
    by_cases h : other = place <;> simp [h]

/-- Whether a place lies below a directory. -/
def isBelow (directory place : List String) : Bool :=
  directory.isPrefixOf place && place ≠ directory

/-- A tree without what a directory holds. -/
def removeBelow (tree : FileTree α) (directory : List String) : FileTree α :=
  ⟨tree.nodes.filter fun node => !isBelow directory node.1⟩

/-- A tree without what stands at a place. -/
def remove (tree : FileTree α) (place : List String) : FileTree α :=
  ⟨tree.nodes.filter (·.1 ≠ place)⟩

/-- All files below the working directory, with their paths. -/
def files (tree : FileTree α) : List (String × α) :=
  tree.nodes.filterMap fun (place, node) =>
    match node with
    | .file content => if isInside place then some (Text.joinWith "/" place, content) else none
    | .directory => none

/-- The names of the files directly in a directory. -/
def filesIn (tree : FileTree α) (directory : List String) : List String :=
  tree.nodes.filterMap fun (place, node) =>
    match node with
    | .file _ => if place.dropLast = directory then place.getLast? else none
    | .directory => none

end FileTree

end DesignTables
