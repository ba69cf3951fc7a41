import DesignTables.Output.FileLookup

/-!
The operations that change a tree of files: making directories, writing and removing.

An operation that cannot be done, such as writing below a file, is refused with its fault.
-/
namespace DesignTables.FileTree

variable {α : Type}

/-- Makes a directory in one that exists; nothing may stand at its place. -/
def makeDirectory (tree : FileTree α) (path : String) : Except FileFault (FileTree α) := do
  let found ← tree.lookup path
  match found.name? with
  | none => .error .alreadyExists
  | some name =>
    let place ← placeOf found.directory name
    if (tree.node? place).isSome then .error .alreadyExists else .ok (tree.put place .directory)

/-- A tree in which a directory exists, made from one in which making it met a fault. -/
def unlessDirectory (tree : FileTree α) (path : String) (fault : FileFault) :
    Except FileFault (FileTree α) :=
  if (tree.directoryAt? path).isSome then .ok tree else .error fault

/-- Makes a directory and at most `depth` of those above it. -/
def makeDirectoriesWithin (depth : Nat) (tree : FileTree α) (path : String) :
    Except FileFault (FileTree α) :=
  if path.isEmpty then .ok tree
  else match tree.makeDirectory path with
    | .ok made => .ok made
    | .error .notFound =>
      match depth, Path.parent? path with
      | depth + 1, some parent => do
        let tree ← tree.makeDirectoriesWithin depth parent
        match tree.makeDirectory path with
        | .ok made => .ok made
        | .error fault => tree.unlessDirectory path fault
      | _, _ => .error .notFound
    | .error fault => tree.unlessDirectory path fault

/-- Makes a directory and those above it, unless they exist. The empty path names nothing to
make. -/
def makeDirectories (tree : FileTree α) (path : String) : Except FileFault (FileTree α) :=
  tree.makeDirectoriesWithin path.length path

/-- Writes a file, whose directory must exist; what stands at its place must not be a directory.
The place comes with the tree. -/
def writeAt (tree : FileTree α) (path : String) (content : Option α → α) :
    Except FileFault (List String × FileTree α) := do
  let found ← tree.lookup path
  match found.name? with
  | none => .error .isADirectory
  | some name =>
    if endsInSlash path then .error .isADirectory
    else do
      let place ← placeOf found.directory name
      match tree.node? place with
      | some .directory => .error .isADirectory
      | some (.file old) => .ok (place, tree.put place (.file (content (some old))))
      | none => .ok (place, tree.put place (.file (content none)))

/-- Writes a file, in the place of what it held. -/
def write (tree : FileTree α) (path : String) (content : α) : Except FileFault (FileTree α) :=
  (tree.writeAt path fun _ => content).map (·.2)

/-- Removes a directory with all it holds; nothing happens where nothing stands. What it holds is
gone even where the directory itself cannot be removed: by a path that ends in a dot, or in a step
upwards whose way still exists. -/
def removeDirectory (tree : FileTree α) (path : String) : FileTree α × Option FileFault :=
  match tree.find path with
  | .error .notFound => (tree, none)
  | .error fault => (tree, some fault)
  | .ok (_, .file _) => (tree, some .notADirectory)
  | .ok (place, .directory) =>
    let emptied := tree.removeBelow place
    match emptied.lookup path with
    | .error .notFound => (emptied, none)
    | .error fault => (emptied, some fault)
    | .ok found =>
      if found.last = some "." then (emptied, some .invalidArgument)
      else if found.name?.isNone then (emptied, some .notEmpty)
      else (emptied.remove place, none)

/-- The tree with a directory and those above it, unless a file is in the way. -/
def addDirectory (tree : FileTree α) (path : String) : FileTree α :=
  (tree.makeDirectories path).toOption.getD tree

/-- The tree with a file and the directories above it, unless something is in the way. -/
def add (tree : FileTree α) (path : String) (content : α) : FileTree α :=
  let made := tree.addDirectory ((Path.parent? path).getD "")
  (made.write path content).toOption.getD made

end DesignTables.FileTree
