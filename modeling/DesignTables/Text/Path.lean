import DesignTables.Text.Split

/-!
Slash-separated paths as text: joining, the parent directory, and the parts of a file name.
-/
namespace DesignTables.Path

/-- Whether a path starts at the root. -/
def isAbsolute (path : String) : Bool := path.toList.head? = some '/'

/-- A path below another one; an absolute path replaces the one it is joined to. -/
def join (base below : String) : String :=
  if isAbsolute below then below
  else if base.isEmpty || base.toList.getLast? = some '/' then base ++ below
  else base ++ "/" ++ below

/-- Whether a piece between slashes adds nothing to a path. -/
def isIdle (piece : String) : Bool := piece = "" || piece = "."

/-- The pieces of a path that count: a leading dot does, later dots and empty pieces do not. -/
def steps (path : String) : List String :=
  match Text.splitOn '/' path with
  | [] => []
  | first :: rest => (if first = "" then [] else [first]) ++ rest.filter (!isIdle ·)

/-- The components of a path: the root of an absolute path, then its steps. -/
def components (path : String) : List String :=
  if isAbsolute path then "/" :: steps path else steps path

/-- The part of a path after as many components as another path has. -/
def below (base path : String) : String :=
  Text.joinWith "/" ((components path).drop (components base).length)

/-- The name of the last step, unless it leads upwards or there is none. -/
def fileName? (path : String) : Option String :=
  match (steps path).getLast? with
  | some name => if name = ".." ∨ (name = "." ∧ !isAbsolute path) then none else some name
  | none => none

/-- Pieces without the idle ones at the end; `isFirst` tells whether the list is the whole of a
relative path, whose leading dot counts. -/
def dropIdle (keepDot : Bool) : List String → List String
  | [] => []
  | piece :: rest =>
    match dropIdle false rest with
    | [] => if piece = "" || (piece = "." && !keepDot) then [] else [piece]
    | kept => piece :: kept

/-- The path without its last step, or nothing when it has no step. -/
def parent? (path : String) : Option String :=
  let (root, below) :=
    if isAbsolute path then ("/", Text.splitOn '/' path |>.drop 1)
    else ("", Text.splitOn '/' path)
  match (dropIdle root.isEmpty below).reverse with
  | [] => none
  | _ :: before => some (root ++ Text.joinWith "/" (dropIdle root.isEmpty before.reverse))

/-- The part of a file name before its last dot, and the part after it; nothing without a dot. -/
def splitLastDot? (name : String) : Option (String × String) :=
  match (Text.splitOn '.' name).reverse with
  | [] | [_] => none
  | ending :: before => some (Text.joinWith "." before.reverse, ending)

/-- The extension of a file name; a name whose only dot is its first character has none. -/
def extension? (path : String) : Option String :=
  (fileName? path).bind fun name => (splitLastDot? name).bind fun (stem, ending) =>
    if stem.isEmpty then none else some ending

end DesignTables.Path
