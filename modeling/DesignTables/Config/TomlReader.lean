import DesignTables.Config.TomlValue
import DesignTables.Number.Reading
import DesignTables.Text.Quoted
import DesignTables.Text.Split

/-!
Reading TOML: keys, strings, numbers, dates, arrays, inline tables, headers.

Every reader takes the characters still to be read and gives what it read with the characters after
it, or nothing when the text is malformed.
-/
namespace DesignTables.Toml

/-- Characters with what was read before them. -/
abbrev Reader (α : Type) := List Char → Option (α × List Char)

/-- Whether a character is a blank within a line. -/
def isSpace (c : Char) : Bool := c = ' ' || c = '\t'

/-- The characters after blanks. -/
def skipSpaces (cs : List Char) : List Char := cs.dropWhile isSpace

/-- Whether a character may stand in a comment or a string: no control character but the tab. -/
def isPrintable (c : Char) : Bool := c = '\t' || (32 ≤ c.toNat && c.toNat ≠ 127)

/-- The characters after a line break. -/
def lineBreak? : List Char → Option (List Char)
  | '\n' :: cs => some cs
  | '\r' :: '\n' :: cs => some cs
  | _ => none

/-- The characters after a comment, if there is one; a comment holds no control character. -/
def skipComment? (cs : List Char) : Option (List Char) :=
  match cs with
  | '#' :: rest =>
    let after := rest.dropWhile isPrintable
    if after.isEmpty || (lineBreak? after).isSome then some after else none
  | _ => some cs

/-- The characters after the end of a line: blanks, a comment, and a line break or the end. -/
def endLine? (cs : List Char) : Option (List Char) := do
  let rest ← skipComment? (skipSpaces cs)
  if rest.isEmpty then some [] else lineBreak? rest

/-- The characters after blanks, comments and line breaks; `fuel` is the number of lines. -/
def skipLines? : Nat → List Char → Option (List Char)
  | 0, cs => some cs
  | fuel + 1, cs => do
    let rest ← skipComment? (skipSpaces cs)
    match lineBreak? rest with
    | some after => skipLines? fuel after
    | none => some rest

/-- The character that an escape stands for, after the backslash. -/
def readEscape : Reader Char
  | 'b' :: cs => some ('\x08', cs)
  | 't' :: cs => some ('\t', cs)
  | 'n' :: cs => some ('\n', cs)
  | 'f' :: cs => some ('\x0c', cs)
  | 'r' :: cs => some ('\r', cs)
  | 'e' :: cs => some ('\x1b', cs)
  | '"' :: cs => some ('"', cs)
  | '\\' :: cs => some ('\\', cs)
  | 'x' :: cs => Text.readCode 2 cs
  | 'u' :: cs => Text.readCode 4 cs
  | 'U' :: cs => Text.readCode 8 cs
  | _ => none

/-- A string up to its closing quote, on one line; `fuel` is the number of characters. -/
def readBasic : Nat → Reader (List Char)
  | 0, _ => none
  | _ + 1, [] => none
  | fuel + 1, c :: cs =>
    if c = '"' then some ([], cs)
    else if c = '\\' then do
      let (first, rest) ← readEscape cs
      let (text, rest) ← readBasic fuel rest
      some (first :: text, rest)
    else if isPrintable c then do
      let (text, rest) ← readBasic fuel cs
      some (c :: text, rest)
    else none

/-- A string without escapes up to its closing quote, on one line. -/
def readLiteral (cs : List Char) : Option (List Char × List Char) :=
  let text := cs.takeWhile (· ≠ '\'')
  match cs.dropWhile (· ≠ '\'') with
  | _ :: rest => if text.all isPrintable then some (text, rest) else none
  | [] => none

/-- What stands at the end of a string of several lines: up to two quotes belong to it. -/
def closing? (quote : Char) (cs : List Char) : Option (List Char × List Char) :=
  let quotes := cs.takeWhile (· = quote)
  if quotes.length < 3 then none
  else
    let kept := min (quotes.length - 3) 2
    some (List.replicate kept quote, cs.drop (kept + 3))

/-- The characters after blanks and line breaks. -/
def skipBreaks : List Char → List Char
  | '\r' :: '\n' :: cs => skipBreaks cs
  | c :: cs => if isSpace c || c = '\n' then skipBreaks cs else c :: cs
  | [] => []

/-- The characters after a backslash at the end of a line: all blanks and line breaks are
skipped. -/
def skipFolded? (cs : List Char) : Option (List Char) :=
  (lineBreak? (skipSpaces cs)).map skipBreaks

/-- A string of several lines up to its closing quotes; `fuel` is the number of characters. Line
breaks stay as they are written. -/
def readMultiline (quote : Char) (escapes : Bool) : Nat → Reader (List Char)
  | 0, _ => none
  | _ + 1, [] => none
  | fuel + 1, c :: cs =>
    match closing? quote (c :: cs) with
    | some found => some found
    | none =>
      if escapes && c = '\\' then
        match skipFolded? cs with
        | some rest => readMultiline quote escapes fuel rest
        | none => do
          let (first, rest) ← readEscape cs
          let (text, rest) ← readMultiline quote escapes fuel rest
          some (first :: text, rest)
      else if isPrintable c || (lineBreak? (c :: cs)).isSome then do
        let (text, rest) ← readMultiline quote escapes fuel cs
        some (c :: text, rest)
      else none

/-- The characters of a string of several lines: a line break right after the quotes is no part
of it. -/
def afterOpening (cs : List Char) : List Char := (lineBreak? cs).getD cs

/-- A string of any form. -/
def readString : Reader String
  | '"' :: '"' :: '"' :: cs =>
    let body := afterOpening cs
    (readMultiline '"' true (body.length + 1) body).map fun (text, rest) =>
      (String.ofList text, rest)
  | '\'' :: '\'' :: '\'' :: cs =>
    let body := afterOpening cs
    (readMultiline '\'' false (body.length + 1) body).map fun (text, rest) =>
      (String.ofList text, rest)
  | '"' :: cs => (readBasic (cs.length + 1) cs).map fun (text, rest) => (String.ofList text, rest)
  | '\'' :: cs => (readLiteral cs).map fun (text, rest) => (String.ofList text, rest)
  | _ => none

/-- Whether a character may stand in a key without quotes. -/
def isBare (c : Char) : Bool := c.isAlphanum || c = '_' || c = '-'

/-- One part of a key. -/
def readSimpleKey (cs : List Char) : Option (String × List Char) :=
  match cs with
  | '"' :: rest => (readBasic (rest.length + 1) rest).map fun (text, rest) =>
    (String.ofList text, rest)
  | '\'' :: rest => (readLiteral rest).map fun (text, rest) => (String.ofList text, rest)
  | _ =>
    let name := cs.takeWhile isBare
    if name.isEmpty then none else some (String.ofList name, cs.dropWhile isBare)

/-- How many parts a key may have, and how deep arrays and inline tables may lie within each
other. -/
def maxDepth : Nat := 80

/-- A key of parts between dots, at most `room` of them. -/
def readParts : Nat → Reader (List String)
  | 0, _ => none
  | room + 1, cs => do
    let (first, rest) ← readSimpleKey (skipSpaces cs)
    match skipSpaces rest with
    | '.' :: rest =>
      let (path, rest) ← readParts room rest
      some (first :: path, rest)
    | rest => some ([first], rest)

/-- A key. -/
def readKey : Reader (List String) := readParts maxDepth

/-- Digits of a kind with single underscores between them, without the underscores. -/
def plainDigits? (isKind : Char → Bool) (cs : List Char) : Option (List Char) :=
  let groups := Text.pieces (· == '_') cs
  if groups.all fun group => !group.isEmpty && group.all isKind then some (groups.flatMap id)
  else none

/-- An unsigned decimal integer: no zero in front of other digits. -/
def unsigned? (cs : List Char) : Option Nat := do
  let digits ← plainDigits? isDigit cs
  if 1 < digits.length && digits.head? = some '0' then none else some (digitsValue digits)

/-- An integer in a base whose digits the condition admits. -/
def inBase? (base : Nat) (cs : List Char) : Option Nat := do
  let digits ← plainDigits? (fun c => (Text.hexValue? c).any (· < base)) cs
  let values ← digits.mapM Text.hexValue?
  some (values.foldl (fun value digit => base * value + digit) 0)

/-- A sign and the characters after it. -/
def splitSign (cs : List Char) : Bool × List Char :=
  match cs with
  | '-' :: rest => (true, rest)
  | '+' :: rest => (false, rest)
  | _ => (false, cs)

/-- An integer of any size. -/
def wideInteger? (token : List Char) : Option Int :=
  match token with
  | '0' :: 'x' :: digits => (inBase? 16 digits).map Int.ofNat
  | '0' :: 'o' :: digits => (inBase? 8 digits).map Int.ofNat
  | '0' :: 'b' :: digits => (inBase? 2 digits).map Int.ofNat
  | _ =>
    let (negative, digits) := splitSign token
    (unsigned? digits).map fun n => if negative then -(n : Int) else n

/-- Whether an integer is within the signed or the unsigned range of 128 bits. -/
def isInRange (n : Int) : Bool := -Int.pow 2 127 ≤ n && n < Int.pow 2 128

/-- Whether a number without its sign is one of the special ones. -/
def isSpecial (unsignedPart : List Char) : Bool :=
  String.ofList unsignedPart = "inf" || String.ofList unsignedPart = "nan"

/-- Whether a token has the form of a number with a fraction or an exponent, or of a special
one. -/
def isFloat (token : List Char) : Bool :=
  let (_, unsignedPart) := splitSign token
  let isExponent (c : Char) : Bool := c = 'e' || c = 'E'
  let mantissa := unsignedPart.takeWhile (!isExponent ·)
  let exponentOk := match unsignedPart.dropWhile (!isExponent ·) with
    | [] => true
    | _ :: exponent => (plainDigits? isDigit (splitSign exponent).2).isSome
  let whole := mantissa.takeWhile (· ≠ '.')
  let fractionOk := match mantissa.dropWhile (· ≠ '.') with
    | [] => mantissa.length < unsignedPart.length
    | _ :: fraction => (plainDigits? isDigit fraction).isSome
  isSpecial unsignedPart || ((unsigned? whole).isSome && fractionOk && exponentOk)

/-- Whether a number that is not written as a special one is finite once it is rounded. -/
def isRepresentable (token : List Char) : Bool :=
  isSpecial (splitSign token).2 ||
    (Double.read? (String.ofList (token.filter (· ≠ '_')))).any Double.isFinite

/-- A number of exactly so many digits. -/
def fixedDigits? (count : Nat) (cs : List Char) : Option Nat :=
  if cs.length = count && cs.all isDigit then some (digitsValue cs) else none

/-- The number of days of a month. -/
def daysOf (year month : Nat) : Nat :=
  if month = 2 then
    if year % 4 = 0 && (year % 100 ≠ 0 || year % 400 = 0) then 29 else 28
  else if month = 4 || month = 6 || month = 9 || month = 11 then 30
  else 31

/-- Whether a text is a date that exists. -/
def isDate (cs : List Char) : Bool :=
  match Text.pieces (· == '-') cs with
  | [year, month, day] =>
    match fixedDigits? 4 year, fixedDigits? 2 month, fixedDigits? 2 day with
    | some year, some month, some day =>
      1 ≤ month && month ≤ 12 && 1 ≤ day && day ≤ daysOf year month
    | _, _, _ => false
  | _ => false

/-- Whether a text is a number of two digits below a bound. -/
def isBelow (bound : Nat) (cs : List Char) : Bool := (fixedDigits? 2 cs).any (· < bound)

/-- Whether a text is a time of the day. -/
def isTime (cs : List Char) : Bool :=
  match Text.pieces (· == ':') cs with
  | [hour, minute] => isBelow 24 hour && isBelow 60 minute
  | [hour, minute, second] =>
    let fraction := second.dropWhile (· ≠ '.')
    isBelow 24 hour && isBelow 60 minute && isBelow 61 (second.takeWhile (· ≠ '.')) &&
      (fraction.isEmpty || (1 < fraction.length && (fraction.drop 1).all isDigit))
  | _ => false

/-- Whether a text is a time of the day with an offset or without one. -/
def isOffsetTime (cs : List Char) : Bool :=
  let isSign (c : Char) : Bool := c = '+' || c = '-'
  match cs.getLast? with
  | some 'Z' | some 'z' => isTime cs.dropLast
  | _ =>
    match cs.dropWhile (!isSign ·) with
    | [] => isTime cs
    | _ :: offset =>
      isTime (cs.takeWhile (!isSign ·)) &&
        match Text.pieces (· == ':') offset with
        | [hour, minute] => isBelow 24 hour && isBelow 60 minute
        | _ => false

/-- Whether a token is a date, a time, or both. -/
def isDateTime (token : List Char) : Bool :=
  let date := token.take 10
  match token.drop 10 with
  | [] => isDate token || isTime token
  | separator :: time =>
    isTime token ||
      (isDate date && (separator = 'T' || separator = 't' || separator = ' ') &&
        isOffsetTime time)

/-- Whether a character may stand in a number, a date or a word. -/
def isTokenChar (c : Char) : Bool :=
  isBare c || c = '+' || c = '.' || c = ':'

/-- The characters of a number, a date or a word; a date and a time may have a blank between. -/
def splitToken (cs : List Char) : List Char × List Char :=
  let (first, rest) := cs.span isTokenChar
  match rest with
  | ' ' :: c :: _ =>
    if isDate first && isDigit c then
      let (second, rest) := (rest.drop 1).span isTokenChar
      (first ++ ' ' :: second, rest)
    else (first, rest)
  | _ => (first, rest)

/-- The value that a number, a date or a word stands for. -/
def tokenValue? (token : List Char) : Option Value :=
  match String.ofList token with
  | "true" => some (.boolean true)
  | "false" => some (.boolean false)
  | text =>
    match wideInteger? token with
    | some n => if isInRange n then some (.integer n) else none
    | none =>
      if isFloat token then if isRepresentable token then some (.float text) else none
      else if isDateTime token then some (.dateTime text)
      else none

mutual

/-- A value; `fuel` bounds the number of values within it, `room` how deep they lie. -/
def readValue : Nat → Nat → Reader Value
  | 0, _, _ => none
  | fuel + 1, room, cs =>
    match room, cs with
    | room + 1, '[' :: rest =>
      (readItems fuel room rest).map fun (items, rest) => (.array items, rest)
    | room + 1, '\x7b' :: rest => do
      let (entries, rest) ← readPairs fuel room [] rest
      some ((Node.table .opened entries).toValue, rest)
    | _, '"' :: _ => (readString cs).map fun (text, rest) => (.string text, rest)
    | _, '\'' :: _ => (readString cs).map fun (text, rest) => (.string text, rest)
    | _, _ =>
      let (token, rest) := splitToken cs
      (tokenValue? token).map fun value => (value, rest)

/-- The items of an array up to its closing bracket; a comma may follow the last one. -/
def readItems : Nat → Nat → Reader (List Value)
  | 0, _, _ => none
  | fuel + 1, room, cs => do
    match ← skipLines? cs.length cs with
    | ']' :: rest => some ([], rest)
    | start =>
      let (item, rest) ← readValue fuel room start
      match ← skipLines? rest.length rest with
      | ',' :: rest =>
        let (items, rest) ← readItems fuel room rest
        some (item :: items, rest)
      | ']' :: rest => some ([item], rest)
      | _ => none

/-- The pairs of an inline table up to its closing brace, after those read so far. Lines may break
around a key and its value. -/
def readPairs : Nat → Nat → Entries → Reader Entries
  | 0, _, _, _ => none
  | fuel + 1, room, entries, cs => do
    match ← skipLines? cs.length cs with
    | '\x7d' :: rest => some (entries, rest)
    | start =>
      let (path, rest) ← readKey start
      match ← skipLines? rest.length rest with
      | '=' :: rest =>
        let (value, rest) ← readValue fuel room (← skipLines? rest.length rest)
        let entries ← entries.insert? path value
        match ← skipLines? rest.length rest with
        | ',' :: rest => readPairs fuel room entries rest
        | '\x7d' :: rest => some (entries, rest)
        | _ => none
      | _ => none

end

/-- A document while it is read: its entries, and the table that keys go to. -/
structure Document where
  entries : Entries
  current : List String
deriving Repr

/-- Reads a header with the brackets of a kind, up to its end. -/
def readHeader (repeated : Bool) (cs : List Char) : Option (List String × List Char) := do
  let (path, rest) ← readKey cs
  match repeated, skipSpaces rest with
  | true, ']' :: ']' :: rest => some (path, rest)
  | false, ']' :: rest => some (path, rest)
  | _, _ => none

/-- Reads one line: a header, a key with its value, or neither. -/
def readLine (document : Document) (cs : List Char) : Option (Document × List Char) :=
  match skipSpaces cs with
  | '[' :: '[' :: rest => do
    let (path, rest) ← readHeader true rest
    let entries ← document.entries.openRepeated? path
    some (⟨entries, path⟩, rest)
  | '[' :: rest => do
    let (path, rest) ← readHeader false rest
    let entries ← document.entries.openTable? path
    some (⟨entries, path⟩, rest)
  | start =>
    if start.isEmpty || start.head? = some '#' || (lineBreak? start).isSome then
      some (document, start)
    else do
      let (path, rest) ← readKey start
      match skipSpaces rest with
      | '=' :: rest =>
        let (value, rest) ← readValue (rest.length + 1) maxDepth (skipSpaces rest)
        let entries ← document.entries.change? document.current (·.insert? path value)
        some ({ document with entries := entries }, rest)
      | _ => none

/-- Reads lines to the end; `fuel` is the number of lines. -/
def readLines : Nat → Document → List Char → Option Document
  | _, document, [] => some document
  | 0, _, _ :: _ => none
  | fuel + 1, document, cs => do
    let (document, rest) ← readLine document cs
    readLines fuel document (← endLine? rest)

/-- The top entries of a document. A byte order mark at its start is skipped. -/
def parse? (text : String) : Option (List (String × Value)) :=
  let cs := match text.toList with
    | '\ufeff' :: rest => rest
    | cs => cs
  (readLines (cs.length + 1) ⟨[], []⟩ cs).map fun document =>
    document.entries.map fun (key, node) => (key, node.toValue)

end DesignTables.Toml
