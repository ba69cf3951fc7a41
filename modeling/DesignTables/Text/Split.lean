/-!
# Cutting texts and putting them together

White space is trimmed from both ends of a text. `splitProtected` is the cut used for lists in cells:
a separator between `<` and the next `>` belongs to its piece. Joining the pieces with the separator
gives the text back.
-/
namespace DesignTables.Text

/-- The code points with the property White_Space, as ascending ranges. -/
def blankRanges : List (Nat × Nat) :=
  [(0x9, 0xD), (0x20, 0x20), (0x85, 0x85), (0xA0, 0xA0), (0x1680, 0x1680), (0x2000, 0x200A),
   (0x2028, 0x2029), (0x202F, 0x202F), (0x205F, 0x205F), (0x3000, 0x3000)]

/-- Whether a character is white space. -/
def isBlank (c : Char) : Bool :=
  blankRanges.any fun range => range.1 ≤ c.toNat && c.toNat ≤ range.2

/-- White space off both ends. -/
def trimChars (cs : List Char) : List Char :=
  ((cs.dropWhile isBlank).reverse.dropWhile isBlank).reverse

/-- White space off the end of a text. -/
def trimEnd (s : String) : String := String.ofList (s.toList.reverse.dropWhile isBlank).reverse

/-- White space off both ends of a text. -/
def trim (s : String) : String := String.ofList (trimChars s.toList)

/-- Puts a character in front of the first piece. -/
def consFirst (c : Char) : List (List Char) → List (List Char)
  | [] => [[c]]
  | piece :: pieces => (c :: piece) :: pieces

/-- Cuts at every separator: `n` separators give `n + 1` pieces. -/
def pieces (isSeparator : Char → Bool) : List Char → List (List Char)
  | [] => [[]]
  | c :: cs =>
    if isSeparator c then [] :: pieces isSeparator cs else consFirst c (pieces isSeparator cs)

/-- Whether the text after `c` stands inside brackets. -/
def insideAfter (inside : Bool) (c : Char) : Bool :=
  if c = '<' then true else if c = '>' then false else inside

/-- Cuts at every separator outside brackets; `inside` tells whether the text starts in one. -/
def protectedPieces (sep : Char) : Bool → List Char → List (List Char)
  | _, [] => [[]]
  | inside, c :: cs =>
    let rest := protectedPieces sep (insideAfter inside c) cs
    if c = sep && !insideAfter inside c then [] :: rest else consFirst c rest

/-- Pieces with a separator between neighbours. -/
def joinPieces (sep : Char) : List (List Char) → List Char
  | [] => []
  | [piece] => piece
  | piece :: pieces => piece ++ sep :: joinPieces sep pieces

theorem consFirst_ne_nil (c : Char) (ps : List (List Char)) : consFirst c ps ≠ [] := by
  cases ps <;> simp [consFirst]

theorem protectedPieces_ne_nil (sep : Char) (inside : Bool) (cs : List Char) :
    protectedPieces sep inside cs ≠ [] := by
  cases cs with
  | nil => simp [protectedPieces]
  | cons c cs =>
    rw [protectedPieces]
    split
    next => simp
    next => exact consFirst_ne_nil _ _

theorem joinPieces_nil_cons (sep : Char) {ps : List (List Char)} (h : ps ≠ []) :
    joinPieces sep ([] :: ps) = sep :: joinPieces sep ps := by
  cases ps with
  | nil => exact absurd rfl h
  | cons => rfl

theorem joinPieces_consFirst (sep c : Char) (ps : List (List Char)) :
    joinPieces sep (consFirst c ps) = c :: joinPieces sep ps := by
  match ps with
  | [] => rfl
  | [_] => rfl
  | _ :: _ :: _ => rfl

/-- Nothing is lost by cutting, and joining puts every separator back. -/
theorem joinPieces_protectedPieces (sep : Char) (inside : Bool) (cs : List Char) :
    joinPieces sep (protectedPieces sep inside cs) = cs := by
  induction cs generalizing inside with
  | nil => rfl
  | cons c cs ih =>
    rw [protectedPieces]
    split
    next cut =>
      have same : c = sep := by simp_all
      rw [joinPieces_nil_cons sep (protectedPieces_ne_nil _ _ _), ih, same]
    next => rw [joinPieces_consFirst, ih]

/-- The pieces of a text between separators. -/
def splitOn (sep : Char) (s : String) : List String :=
  (pieces (· == sep) s.toList).map String.ofList

/-- The pieces of a text between separators that stand outside `<` and `>`. -/
def splitProtected (sep : Char) (s : String) : List String :=
  (protectedPieces sep false s.toList).map String.ofList

/-- Texts with a separator between neighbours. -/
def joinWith (sep : String) : List String → String
  | [] => ""
  | [s] => s
  | s :: rest => s ++ sep ++ joinWith sep rest

/-- A copy of `cs` with every occurrence of `pattern`, from the left, replaced; `skip` characters
of an occurrence that was replaced are still to be passed over. -/
def replaceFrom (pattern new : List Char) : Nat → List Char → List Char
  | _, [] => []
  | skip + 1, _ :: cs => replaceFrom pattern new skip cs
  | 0, c :: cs =>
    if pattern.isPrefixOf (c :: cs) then new ++ replaceFrom pattern new (pattern.length - 1) cs
    else c :: replaceFrom pattern new 0 cs

/-- Every occurrence of a non-empty pattern replaced, from the left and without overlap. -/
def replaceAll (pattern new s : String) : String :=
  String.ofList (replaceFrom pattern.toList new.toList 0 s.toList)

/-- A line without the carriage return that ends it. -/
def dropReturn (line : List Char) : List Char :=
  if line.getLast? = some '\r' then line.dropLast else line

/-- The lines among the pieces between line breaks: what follows the last break is a line only if
it holds something, and keeps its carriage return. -/
def endLines : List (List Char) → List (List Char)
  | [] => []
  | [last] => if last.isEmpty then [] else [last]
  | line :: rest => dropReturn line :: endLines rest

/-- The lines of a text, without the breaks that end them. -/
def lines (s : String) : List String :=
  (endLines (pieces (· == '\n') s.toList)).map String.ofList

/-- The lines that texts come to when each is printed with a line break behind it. -/
def printedLines (texts : List String) : List String :=
  lines (String.join (texts.map (· ++ "\n")))

/-- A text without a leading part, or nothing when it does not start with it. -/
def dropPrefix? (start s : String) : Option String :=
  if start.toList.isPrefixOf s.toList then some (String.ofList (s.toList.drop start.length))
  else none

/-- A text without a final part, or nothing when it does not end with it. -/
def dropSuffix? (ending s : String) : Option String :=
  if ending.toList.isSuffixOf s.toList then
    some (String.ofList (s.toList.take (s.length - ending.length)))
  else none

/-- A text without the characters of a kind at its end. -/
def dropEndWhile (isDropped : Char → Bool) (s : String) : String :=
  String.ofList (s.toList.reverse.dropWhile isDropped).reverse

end DesignTables.Text
