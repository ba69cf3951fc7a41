import DesignTables.Log.Entry
import DesignTables.Text.Quoted
import DesignTables.Text.Split

/-!
The layouts of log lines.

The pretty layout puts the spans with their fields in front of the message; the compact one puts only
their names there and their fields behind those of the event. Both leave out the ends of spans. The
third layout writes each entry as a JSON object. A time stands only in front of lines of text, and
it is one for all of them: there is no clock here.
-/
namespace DesignTables.Log

/-- A layout of log lines. -/
inductive Layout where
  | pretty | compact | json
deriving DecidableEq, Repr

namespace Layout

/-- The name of a layout. -/
def name : Layout → String
  | pretty => "pretty"
  | compact => "compact"
  | json => "json"

/-- The layout of a name. -/
def ofName? (name : String) : Option Layout := [pretty, compact, json].find? (·.name == name)

end Layout

/-- How log lines are written. -/
structure Style where
  layout : Layout
  /-- The time in front of each line of text, if it is shown. -/
  time : Option String
  /-- The module path of each event is shown. -/
  showsPart : Bool
  /-- The ends of spans are shown in the JSON layout. -/
  showsEnds : Bool
deriving DecidableEq, Repr

namespace Value

/-- A value in a line of text. -/
def text : Value → String
  | bare text => text
  | quoted text => Text.quoted text
  | count value => writeNat value
  | flag value => if value then "true" else "false"
  | duration => "_"

/-- A value in a JSON object; a duration is left out. -/
def json? : Value → Option String
  | bare text | quoted text => some (Text.jsonString text)
  | count value => some (writeNat value)
  | flag value => some (if value then "true" else "false")
  | duration => none

end Value

/-- A field in a line of text. -/
def Field.text (field : Field) : String := field.name ++ "=" ++ field.value.text

/-- Fields in a line of text. -/
def fieldsText (fields : List Field) : String := Text.joinWith " " (fields.map Field.text)

/-- The fields of a JSON object. -/
def fieldsJson (fields : List Field) : List (String × String) :=
  fields.filterMap fun field => field.value.json?.map fun value => (field.name, value)

/-- A JSON object on one line. -/
def jsonObject (members : List (String × String)) : String :=
  "\x7b" ++ Text.joinWith "," (members.map fun (name, value) =>
    Text.jsonString name ++ ":" ++ value) ++ "\x7d"

/-- A JSON array on one line. -/
def jsonArray (items : List String) : String := "[" ++ Text.joinWith "," items ++ "]"

namespace Span

/-- A span with its fields in braces. -/
def text (span : Span) : String :=
  if span.fields.isEmpty then span.name
  else span.name ++ "\x7b" ++ fieldsText span.fields ++ "\x7d"

/-- A span as a JSON object. -/
def json (span : Span) : String :=
  jsonObject (("name", Text.jsonString span.name) :: fieldsJson span.fields)

end Span

namespace Style

/-- The level of a line, right-aligned. -/
def levelText (level : Level) : String :=
  let label := level.label.toList
  String.ofList (List.replicate (5 - label.length) ' ' ++ label) ++ " "

/-- The names of the spans around an event, closed by a blank. -/
def spansText (spans : List String) : String :=
  if spans.isEmpty then "" else String.join (spans.map (· ++ ":")) ++ " "

/-- The module path in a line of text, if it is shown. -/
def partText (style : Style) (part : Part) : String :=
  if style.showsPart then part.path ++ ": " else ""

/-- The time in a line of text, if it is shown. -/
def timeText (style : Style) : String := (style.time.map (· ++ " ")).getD ""

/-- An event in the pretty layout. -/
def prettyText (style : Style) (event : Event) (spans : List Span) : String :=
  style.timeText ++ levelText event.level ++ spansText (spans.map Span.text) ++ style.partText event.part ++
    Text.joinWith " " (event.message :: event.fields.map Field.text)

/-- An event in the compact layout. -/
def compactText (style : Style) (event : Event) (spans : List Span) : String :=
  style.timeText ++ levelText event.level ++ spansText (spans.map (·.name)) ++ style.partText event.part ++
    Text.joinWith " " ((event.message :: event.fields.map Field.text) ++
      ((spans.map (·.fields)).filter (!·.isEmpty)).map fieldsText)

/-- The members of a JSON entry that tell where it comes from. -/
def partJson (style : Style) (part : Part) : List (String × String) :=
  if style.showsPart then [("target", Text.jsonString part.path)] else []

/-- An entry as a JSON object. -/
def entryJson (style : Style) (level : Level) (part : Part) (message : String)
    (fields : List Field) (span : Option Span) (spans : List Span) : String :=
  jsonObject
    ([("level", Text.jsonString level.label),
      ("fields", jsonObject (("message", Text.jsonString message) :: fieldsJson fields))] ++
     style.partJson part ++
     match span with
     | some span => [("span", span.json), ("spans", jsonArray (spans.map Span.json))]
     | none => [])

/-- The line of an entry, if the layout has one for it. -/
def line? (style : Style) : Entry → Option String
  | .occurred event spans =>
    match style.layout with
    | .pretty => some (style.prettyText event spans)
    | .compact => some (style.compactText event spans)
    | .json => some
      (style.entryJson event.level event.part event.message event.fields spans.getLast? spans)
  | .closed span around =>
    if style.layout = .json ∧ style.showsEnds then
      some (style.entryJson Span.level span.part "close" [] (some span) around)
    else none

end Style

end DesignTables.Log
