import DesignTables.Pattern.Basic
import DesignTables.Text.Quoted
import DesignTables.Text.Split

/-!
The notation of patterns.

`.` is any character of a line, `[...]` a set, `|` separates alternatives, `*`, `+` and `?` repeat
what stands before them (a `?` behind one of them makes it lazy), `^` and `$` are the ends of the
text, parentheses group, and a backslash takes the meaning from a character or gives one to a
letter. `(?i)` and its like change how the rest of a group is read. Repetitions with counts in
braces are no part of the notation here, since a brace ends the text that a pattern is taken from.
-/
namespace DesignTables.Pattern

/-- How a part of a pattern is read. -/
structure Mode where
  anyCase : Bool
  /-- The start and the end are those of lines. -/
  byLine : Bool
  /-- The dot takes line breaks too. -/
  dotBreaks : Bool
  /-- Repetitions are lazy unless a `?` follows. -/
  lazily : Bool
deriving DecidableEq, Repr

namespace Mode

/-- The mode at the start of a pattern. -/
def standard : Mode := ⟨false, false, false, false⟩

/-- A mode with one of its letters set or cleared. -/
def change? (mode : Mode) (letter : Char) (isOn : Bool) : Option Mode :=
  match letter with
  | 'i' => some { mode with anyCase := isOn }
  | 'm' => some { mode with byLine := isOn }
  | 's' => some { mode with dotBreaks := isOn }
  | 'U' => some { mode with lazily := isOn }
  | 'u' => if isOn then some mode else none
  | _ => none

/-- A mode with letters set or cleared. -/
def changeAll? (mode : Mode) (letters : List Char) (isOn : Bool) : Option Mode :=
  letters.foldlM (fun mode letter => mode.change? letter isOn) mode

/-- A mode changed by letters, the ones behind a minus sign cleared; no letter comes twice. -/
def read? (mode : Mode) (letters : List Char) : Option Mode :=
  let names := letters.filter (· ≠ '-')
  if names.eraseDups.length ≠ names.length then none
  else
    match Text.pieces (· == '-') letters with
    | [set] => mode.changeAll? set true
    | [set, cleared] =>
      if cleared.isEmpty then none
      else (mode.changeAll? set true).bind (·.changeAll? cleared false)
    | _ => none

/-- A set as it counts in a mode. -/
def fold (mode : Mode) (set : CharSet) : CharSet := if mode.anyCase then .anyCase set else set

end Mode

/-- What a backslash and the characters after it stand for. -/
inductive Escape where
  | char (c : Char)
  | set (set : CharSet)
  | place (pattern : Pattern)
deriving DecidableEq, Repr

/-- Reads an escape after its backslash. Letters and digits without a meaning are refused, and so
are the ends of words. -/
def readEscape : List Char → Option (Escape × List Char)
  | 'd' :: cs => some (.set .digits, cs)
  | 'D' :: cs => some (.set (.complement .digits), cs)
  | 's' :: cs => some (.set .blanks, cs)
  | 'S' :: cs => some (.set (.complement .blanks), cs)
  | 'w' :: cs => some (.set .wordChars, cs)
  | 'W' :: cs => some (.set (.complement .wordChars), cs)
  | 'A' :: cs => some (.place (.start false), cs)
  | 'z' :: cs => some (.place (.finish false), cs)
  | 'a' :: cs => some (.char '\x07', cs)
  | 'f' :: cs => some (.char '\x0c', cs)
  | 't' :: cs => some (.char '\t', cs)
  | 'n' :: cs => some (.char '\n', cs)
  | 'r' :: cs => some (.char '\r', cs)
  | 'v' :: cs => some (.char '\x0b', cs)
  | 'x' :: cs => (Text.readCode 2 cs).map fun (c, rest) => (.char c, rest)
  | 'u' :: cs => (Text.readCode 4 cs).map fun (c, rest) => (.char c, rest)
  | 'U' :: cs => (Text.readCode 8 cs).map fun (c, rest) => (.char c, rest)
  | c :: cs =>
    if c.toNat < 128 && !c.isAlphanum && c ≠ '<' && c ≠ '>' then some (.char c, cs) else none
  | [] => none

/-- The sets of ASCII characters that have names. -/
def namedSets : List (String × CharSet) :=
  let lower := CharSet.range 'a' 'z'
  let upper := CharSet.range 'A' 'Z'
  let digit := CharSet.range '0' '9'
  let alpha := CharSet.union lower upper
  let alnum := CharSet.union alpha digit
  let graph := CharSet.range '!' '~'
  [("alnum", alnum), ("alpha", alpha), ("ascii", .range '\x00' '\x7f'),
   ("blank", .union (.single ' ') (.single '\t')),
   ("cntrl", .union (.range '\x00' '\x1f') (.single '\x7f')), ("digit", digit),
   ("graph", graph), ("lower", lower), ("print", .range ' ' '~'),
   ("punct", .difference graph alnum), ("space", .union (.single ' ') (.range '\t' '\r')),
   ("upper", upper), ("word", .union alnum (.single '_')),
   ("xdigit", .union digit (.union (.range 'a' 'f') (.range 'A' 'F')))]

/-- Reads a named set, such as `[:alpha:]`, after its first bracket. -/
def readNamed (cs : List Char) : Option (CharSet × List Char) :=
  match cs with
  | ':' :: rest =>
    let name := rest.takeWhile (· ≠ ':')
    match rest.dropWhile (· ≠ ':') with
    | ':' :: ']' :: after =>
      let set? := match name with
        | '^' :: name => (namedSets.lookup (String.ofList name)).map CharSet.complement
        | name => namedSets.lookup (String.ofList name)
      set?.map fun set => (set, after)
    | _ => none
  | _ => none

/-- Reads one item of a set: a character or an escape. -/
def readItem (cs : List Char) : Option (Escape × List Char) :=
  match cs with
  | '\\' :: rest => readEscape rest
  | c :: rest => some (.char c, rest)
  | [] => none

/-- Reads a character, an escape or a range of characters within a set. -/
def readRange (cs : List Char) : Option (CharSet × List Char) := do
  let (first, rest) ← readItem cs
  match first, rest with
  | .char a, '-' :: c :: more =>
    if c = ']' || c = '-' then some (.single a, rest)
    else
      match ← readItem (c :: more) with
      | (.char b, rest) => if a ≤ b then some (.range a b, rest) else none
      | _ => none
  | .char a, _ => some (.single a, rest)
  | .set set, '-' :: c :: _ => if c = ']' || c = '-' then some (set, rest) else none
  | .set set, _ => some (set, rest)
  | .place _, _ => none

mutual

/-- Reads a set after its bracket; `fuel` bounds the number of sets and items. -/
def readSet (mode : Mode) : Nat → List Char → Option (CharSet × List Char)
  | 0, _ => none
  | fuel + 1, cs => do
    let (isNegated, cs) := match cs with
      | '^' :: rest => (true, rest)
      | _ => (false, cs)
    let dashes := cs.takeWhile (· = '-')
    let cs := cs.dropWhile (· = '-')
    let (given, cs) := match dashes, cs with
      | [], ']' :: rest => (mode.fold (.single ']'), rest)
      | [], _ => (.empty, cs)
      | _, _ => (.single '-', cs)
    let (set, rest) ← readItems mode fuel id given cs
    some (if isNegated then .complement set else set, rest)

/-- Reads the items of a set up to its closing bracket, after those read so far; `combine` joins
them to what stands before the last operator. -/
def readItems (mode : Mode) :
    Nat → (CharSet → CharSet) → CharSet → List Char → Option (CharSet × List Char)
  | 0, _, _, _ => none
  | fuel + 1, combine, given, cs =>
    match cs with
    | [] => none
    | ']' :: rest => some (combine given, rest)
    | '&' :: '&' :: rest => readItems mode fuel (.intersection (combine given)) .empty rest
    | '-' :: '-' :: rest => readItems mode fuel (.difference (combine given)) .empty rest
    | '~' :: '~' :: rest => readItems mode fuel (.symmetricDifference (combine given)) .empty rest
    | '[' :: rest =>
      match readNamed rest with
      | some (set, rest) => readItems mode fuel combine (.union given (mode.fold set)) rest
      | none => do
        let (set, rest) ← readSet mode fuel rest
        readItems mode fuel combine (.union given set) rest
    | _ => do
      let (set, rest) ← readRange cs
      readItems mode fuel combine (.union given (mode.fold set)) rest

end

/-- What stands after the opening parenthesis of a group. -/
inductive Opening where
  /-- A group that is read in a mode. -/
  | group (mode : Mode)
  /-- No group: the mode changes for what follows. -/
  | change (mode : Mode)
deriving DecidableEq, Repr

/-- Whether a text is the name of a group. -/
def isGroupName (name : List Char) : Bool :=
  let isFirst (c : Char) : Bool := c = '_' || Text.isAlphanumeric c && !Text.isDecimal c
  name.head?.any isFirst &&
    name.all fun c => isFirst c || Text.isDecimal c || c = '.' || c = '[' || c = ']'

/-- Reads what stands between the opening parenthesis of a group and its body. -/
def readOpening (mode : Mode) (cs : List Char) : Option (Opening × List Char) :=
  let named (rest : List Char) :=
    match rest.dropWhile (· ≠ '>') with
    | _ :: after =>
      if isGroupName (rest.takeWhile (· ≠ '>')) then some (.group mode, after) else none
    | [] => none
  match cs with
  | '?' :: 'P' :: '<' :: rest => named rest
  | '?' :: '<' :: rest => named rest
  | '?' :: rest =>
    let isLetter (c : Char) : Bool := c ≠ ':' && c ≠ ')'
    let letters := rest.takeWhile isLetter
    match rest.dropWhile isLetter with
    | ':' :: after => (mode.read? letters).map fun mode => (.group mode, after)
    | ')' :: after =>
      if letters.isEmpty then none
      else (mode.read? letters).map fun mode => (.change mode, after)
    | _ => none
  | _ => some (.group mode, cs)

/-- Reads the repetition signs after a part of a pattern; `fuel` is the number of characters. -/
def readSigns (mode : Mode) : Nat → Pattern → List Char → Pattern × List Char
  | 0, pattern, cs => (pattern, cs)
  | fuel + 1, pattern, cs =>
    match cs with
    | [] => (pattern, [])
    | sign :: rest =>
      if sign = '*' || sign = '+' || sign = '?' then
        let (lazily, rest) := match rest with
          | '?' :: rest => (!mode.lazily, rest)
          | _ => (mode.lazily, rest)
        let repetition : Pattern :=
          if sign = '*' then .repeated lazily pattern
          else if sign = '+' then .sequence pattern (.repeated lazily pattern)
          else if lazily then .either .nothing pattern
          else .either pattern .nothing
        readSigns mode fuel repetition rest
      else (pattern, cs)

/-- The alternatives of a group, the last one given apart. -/
def alternatives (before : Option Pattern) (last : Pattern) : Pattern :=
  match before with
  | some before => .either before last
  | none => last

/-- Reads the alternatives of a group up to its end: those before the last `|`, and what the last
one holds so far, are given. `fuel` is the number of characters left. -/
def readGroup : Nat → Mode → Option Pattern → Pattern → List Char → Option (Pattern × List Char)
  | 0, _, _, _, _ => none
  | fuel + 1, mode, before, last, cs =>
    let proceed (part : Pattern) (rest : List Char) :=
      let (part, rest) := readSigns mode rest.length part rest
      readGroup fuel mode before (.sequence last part) rest
    match cs with
    | [] => some (alternatives before last, [])
    | ')' :: _ => some (alternatives before last, cs)
    | '|' :: rest => readGroup fuel mode (some (alternatives before last)) .nothing rest
    | '(' :: rest => do
      match ← readOpening mode rest with
      | (.group inner, rest) =>
        match ← readGroup fuel inner none .nothing rest with
        | (body, ')' :: rest) => proceed body rest
        | _ => none
      | (.change changed, rest) =>
        if rest.head?.any ("*+?".toList.contains ·) then none
        else readGroup fuel changed before last rest
    | '[' :: rest => do
      let (set, rest) ← readSet mode (2 * rest.length + 2) rest
      proceed (.one set) rest
    | '\\' :: rest => do
      match ← readEscape rest with
      | (.char c, rest) => proceed (.one (mode.fold (.single c))) rest
      | (.set set, rest) => proceed (.one (mode.fold set)) rest
      | (.place place, rest) => proceed place rest
    | '^' :: rest => proceed (.start mode.byLine) rest
    | '$' :: rest => proceed (.finish mode.byLine) rest
    | '.' :: rest =>
      proceed
        (.one (if mode.dotBreaks then .complement .empty else .complement (.single '\n'))) rest
    | c :: rest =>
      if "*+?\x7b".toList.contains c then none
      else proceed (.one (mode.fold (.single c))) rest

/-- The pattern that a text writes. -/
def read? (s : String) : Option Pattern :=
  match readGroup (s.length + 1) .standard none .nothing s.toList with
  | some (pattern, []) => some pattern
  | _ => none

end DesignTables.Pattern
