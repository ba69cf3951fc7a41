import DesignTables.Workbook.Folder

/-!
Workbook files as plain text, the form in which the program keeps them on disk.

A line that starts with a colon opens a sheet and holds its name. Any other line is a row of the
sheet above it, with tabs between the cells. The first character of a cell tells what it holds: a
quote a text, a number sign a number, a question mark a truth value, an at sign a date, and an
equals sign a formula, whose result follows behind a bar. A cell without characters is empty. In
texts a backslash stands in front of letters that mean a tab, a line break and a bar.
-/
namespace DesignTables.PlainWorkbook

/-- A text without tabs, line breaks and bars. -/
def escape : List Char → List Char
  | [] => []
  | '\\' :: rest => '\\' :: '\\' :: escape rest
  | '\t' :: rest => '\\' :: 't' :: escape rest
  | '\n' :: rest => '\\' :: 'n' :: escape rest
  | '|' :: rest => '\\' :: 'b' :: escape rest
  | c :: rest => c :: escape rest

/-- The text that was escaped. -/
def unescape? : List Char → Option (List Char)
  | [] => some []
  | '\\' :: '\\' :: rest => (unescape? rest).map ('\\' :: ·)
  | '\\' :: 't' :: rest => (unescape? rest).map ('\t' :: ·)
  | '\\' :: 'n' :: rest => (unescape? rest).map ('\n' :: ·)
  | '\\' :: 'b' :: rest => (unescape? rest).map ('|' :: ·)
  | '\\' :: _ => none
  | c :: rest => (unescape? rest).map (c :: ·)

/-- A text escaped. -/
def writeText (s : String) : String := String.ofList (escape s.toList)

/-- An escaped text, read. -/
def readText? (cs : List Char) : Option String := (unescape? cs).map String.ofList

/-- A cell as text. -/
def writeCell : WrittenCell → String
  | .value .empty => ""
  | .value (.text s) => "\"" ++ writeText s
  | .value (.number x) => "#" ++ x.render
  | .value (.bool b) => if b then "?true" else "?false"
  | .date serial => "@" ++ serial.render
  | .formula formula result => "=" ++ writeText formula ++ "|" ++ writeText result

/-- A cell, read. -/
def readCell? : List Char → Option WrittenCell
  | [] => some (.value .empty)
  | '"' :: rest => (readText? rest).map fun s => .value (.text s)
  | '#' :: rest => (Double.read? (String.ofList rest)).map fun x => .value (.number x)
  | ['?', 't', 'r', 'u', 'e'] => some (.value (.bool true))
  | ['?', 'f', 'a', 'l', 's', 'e'] => some (.value (.bool false))
  | '@' :: rest => (Double.read? (String.ofList rest)).map .date
  | '=' :: rest =>
    match readText? (rest.takeWhile (· ≠ '|')), readText? ((rest.dropWhile (· ≠ '|')).drop 1) with
    | some formula, some result => some (.formula formula result)
    | _, _ => none
  | _ => none

/-- A row as a line. -/
def writeRow (row : List WrittenCell) : String := Text.joinWith "\t" (row.map writeCell)

/-- A row, read. -/
def readRow? (line : String) : Option (List WrittenCell) :=
  (Text.splitOn '\t' line).mapM fun cell => readCell? cell.toList

/-- A sheet as lines. -/
def writeSheet (sheet : WrittenSheet) : List String :=
  (":" ++ writeText sheet.name) :: sheet.rows.map writeRow

/-- The text of a workbook. -/
def write (sheets : List WrittenSheet) : String :=
  String.join ((sheets.flatMap writeSheet).map (· ++ "\n"))

/-- The rows in front of the first sheet, and the sheets. -/
def readLines? : List String → Option (List (List WrittenCell) × List WrittenSheet)
  | [] => some ([], [])
  | line :: rest => do
    let (rows, sheets) ← readLines? rest
    match line.toList with
    | ':' :: name => return ([], ⟨← readText? name, rows⟩ :: sheets)
    | _ => return ((← readRow? line) :: rows, sheets)

/-- The sheets of a workbook, of which there is at least one. -/
def read? (text : String) : Option (List WrittenSheet) :=
  let lines := Text.splitOn '\n' text
  let lines := if lines.getLast? = some "" then lines.dropLast else lines
  match readLines? lines with
  | some ([], sheet :: sheets) => some (sheet :: sheets)
  | _ => none

/-- The content of a file with a name and a text: a workbook if it is named as one and reads as
one. -/
def contentOf (name text : String) : FileContent :=
  if Folder.isWorkbookName name then ((read? text).map FileContent.workbook).getD (.text text)
  else .text text

/-- The text that keeps the content of a file. -/
def textOf : FileContent → String
  | .text text => text
  | .workbook sheets => write sheets

end DesignTables.PlainWorkbook
