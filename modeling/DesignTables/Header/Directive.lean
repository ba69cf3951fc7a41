import DesignTables.Table.DataType
import DesignTables.Text.Split

/-!
The directives of a column.

A directive cell is a list of tokens between commas, where a comma inside `<…>` belongs to the
token. A token is a keyword, the name of a type, or a name with an argument in brackets; keywords
and names are taken in any ASCII case.
-/
namespace DesignTables

/-- One directive of a column. -/
inductive Directive where
  | key
  | origin
  | unique
  | null
  | dataType (type : DataType)
  /-- The enumeration group of every value, in capitals. -/
  | enumGroup (group : String)
  /-- The column that names the enumeration group. -/
  | enumRef (title : String)
  /-- The column that values are looked up in, as `table/field` in small letters. -/
  | check (target : String)
  | change (title : String)
  | before (text : String)
  | after (text : String)
  | arraySize (size : String)
  | arraySizeRef (title : String)
  | arraySizeCount (title : String)
  | commaStandIn (text : String)
  /-- A token that is no directive, as written. -/
  | unknown (token : String)
deriving DecidableEq, Repr

namespace Directive

/-- The tokens of a cell: white space around them is dropped, and so are empty ones. -/
def tokenize (cell : String) : List String :=
  ((Text.splitProtected ',' cell).map Text.trim).filter (!·.isEmpty)

/-- The directives that a keyword alone declares. -/
def ofKeyword? (keyword : String) : Option Directive :=
  match keyword with
  | "key" => some key
  | "origin" => some origin
  | "unique" => some unique
  | "null" => some null
  | _ => (DataType.ofKeyword? keyword).map dataType

/-- The name and argument of `name<argument>`: one opening bracket, a closing one at the end, and
nothing empty. -/
def splitBracketed? (token : String) : Option (String × String) :=
  let cs := token.toList
  let name := cs.takeWhile (· ≠ '<')
  match cs.dropWhile (· ≠ '<') with
  | [] => none
  | _ :: rest =>
    if name = [] ∨ '<' ∈ rest ∨ rest.getLast? ≠ some '>' ∨ rest.dropLast = [] then none
    else some (String.ofList name, String.ofList rest.dropLast)

/-- The directive of a name with an argument. -/
def ofBracketed? (name argument : String) : Option Directive :=
  match Text.asciiLower name with
  | "type" => some (enumGroup (Text.upper argument))
  | "typeref" => some (enumRef argument)
  | "check" => some (check (Text.lower argument))
  | "change" => some (change argument)
  | "prefix" => some (before argument)
  | "suffix" => some (after argument)
  | "arraysize" => some (arraySize argument)
  | "arraysizeref" => some (arraySizeRef argument)
  | "arraysizecnt" => some (arraySizeCount argument)
  | "replacecomma" => some (commaStandIn argument)
  | _ => none

/-- The directive that a token declares. -/
def parse (token : String) : Directive :=
  match ofKeyword? (Text.asciiLower token) with
  | some directive => directive
  | none =>
    ((splitBracketed? token).bind fun (name, argument) => ofBracketed? name argument).getD
      (unknown token)

end Directive

end DesignTables
