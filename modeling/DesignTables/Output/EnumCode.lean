import DesignTables.Number.Integer
import DesignTables.Registry.Enums
import DesignTables.Text.Split

/-!
Companion code of the enumerations: one block for every group that wants it.
-/
namespace DesignTables.EnumCode

/-- The name of the file. -/
def fileName : String := "TableEnum.cs"

/-- The column where comments start. -/
def commentColumn : Nat := 52

/-- The width of a tab. -/
def tabWidth : Nat := 4

/-- The tabs between an entry of a length in bytes and its comment; one if the entry is too long. -/
def commentTabs (length : Nat) : Nat :=
  if length < commentColumn then commentColumn / tabWidth - (length / tabWidth + 1) else 1

/-- An entry on a line, with its comment if it has one. -/
def entryLine (entry : EnumEntry) : String :=
  let body := entry.text ++ " = " ++ entry.value ++ ","
  if entry.comment.isEmpty then "\t" ++ body
  else
    "\t" ++ body ++ String.ofList (List.replicate (commentTabs body.utf8ByteSize) '\t') ++ "// " ++
      entry.comment

/-- The lines of a group. -/
def groupLines (group : EnumGroup) : List String :=
  ["public enum " ++ group.name, "\x7b"] ++ group.entries.map entryLine ++ ["\x7d"]

/-- The block of a group, each of its lines after a line break. -/
def renderGroup (indent : String) (group : EnumGroup) : String :=
  String.join ((groupLines group).map fun line => "\n" ++ indent ++ line)

/-- The groups that code is written for. -/
def groupsOf (enums : EnumRegistry) : List EnumGroup := enums.groups.filter (!·.nocode)

/-- The code of all groups with their number, or nothing when no group wants code. -/
def render? (enums : EnumRegistry) (codeNamespace : String) : Option (String × Nat) :=
  let space := Text.trim codeNamespace
  let groups := groupsOf enums
  let blocks (indent : String) := Text.joinWith "\n" (groups.map (renderGroup indent))
  if groups.isEmpty then none
  else if space.isEmpty then some (blocks "", groups.length)
  else
    some ("namespace " ++ space ++ "\n\x7b" ++ blocks "\t" ++ "\n\x7d", groups.length)

end DesignTables.EnumCode
