import DesignTables.Log.Entry
import DesignTables.Number.Reading
import DesignTables.Pattern.Reader

/-!
Directives: a threshold with the parts, the spans and the fields that it is for.

A directive is written `target[span{field=value}]=level`, and each piece may be absent. One that
names a span or a field opens the spans it concerns and sets the threshold for what lies within
them. One that names neither a span nor the value of a field decides about events where they occur.
-/
namespace DesignTables.Log

/-- What the value of a field must be. -/
inductive ValueTest where
  | flag (value : Bool)
  | count (value : Nat)
  /-- A number that is no count; no field holds one. -/
  | number (text : String)
  /-- A text whose end the match of a pattern reaches. -/
  | pattern (text : String) (pattern : Pattern)
deriving DecidableEq, Repr

namespace ValueTest

/-- Reads a test: a truth value or a number if the text is one, else a pattern. -/
def read? (s : String) : Option ValueTest :=
  if s = "true" then some (.flag true)
  else if s = "false" then some (.flag false)
  else
    match readCount? s with
    | some n => some (.count n)
    | none =>
      if (readInt64? s).isSome || (Double.read? s).isSome then some (.number s)
      else (Pattern.read? s).map (.pattern s)

/-- Whether a value passes a test. -/
def accepts : ValueTest → Value → Bool
  | flag expected, .flag value => expected == value
  | count expected, .count value => expected == value
  | pattern _ expected, .bare text => expected.reachesEnd text
  | pattern _ expected, .quoted text => expected.reachesEnd text
  | _, _ => false

end ValueTest

/-- A field that must be there, with a test of its value if there is one. -/
structure FieldTest where
  name : String
  value : Option ValueTest
deriving DecidableEq, Repr

namespace FieldTest

/-- Reads a name, or a name and a value between equals signs; what follows a second one is left
out. -/
def read? (s : String) : Option FieldTest :=
  match Text.splitOn '=' s with
  | name :: value :: _ => (ValueTest.read? value).map fun test => ⟨name, some test⟩
  | name :: [] => some ⟨name, none⟩
  | [] => none

/-- Whether a field of the name is among fields. -/
def isNamedIn (test : FieldTest) (fields : List Field) : Bool :=
  fields.any (·.name == test.name)

/-- Whether fields pass a test. -/
def accepts (test : FieldTest) (fields : List Field) : Bool :=
  fields.any fun field => field.name == test.name && test.value.all (·.accepts field.value)

end FieldTest

/-- A threshold for some parts, spans and fields. -/
structure Directive where
  /-- What the path of a part starts with; absent for all parts. -/
  target : Option String
  /-- The name of a span; absent for all spans. -/
  span : Option String
  field : Option FieldTest
  threshold : Threshold
deriving DecidableEq, Repr

namespace Directive

/-- A threshold for the parts whose path starts with a text, or for all parts. -/
def ofTarget (target : Option String) (threshold : Threshold) : Directive :=
  ⟨target, none, none, threshold⟩

/-- Whether a directive can start with a character. -/
def canStart (c : Char) : Bool := "-:_".toList.contains c || Text.isAlphanumeric c

/-- The characters of a directive as it is read: each one that is looked at, with the one that is
taken at its place. The two differ only where blanks lead, for these are passed over in the looking
and yet taken along. -/
abbrev Cursor := List (Char × Char)

/-- The text taken along a stretch, and more behind it. -/
def taken (cursor : Cursor) (more : List Char) : String :=
  String.ofList (cursor.map (·.2) ++ more)

/-- Reads what follows the target and the span: nothing, or an equals sign and a threshold. -/
def readEnd? (directive : Directive) (cursor : Cursor) (tail : List Char) : Option Directive :=
  match cursor with
  | [] => some directive
  | ('=', _) :: rest =>
    let text := taken rest tail
    if text.isEmpty then some directive
    else (Threshold.read? text).map fun threshold => { directive with threshold := threshold }
  | _ => none

/-- Reads a span after its opening bracket: a name, and a field in braces if there is one. -/
def readSpan? (target : Option String) (cursor : Cursor) (tail : List Char) : Option Directive :=
  let (name, rest) := cursor.span fun (c, _) => c ≠ ']' && c ≠ '\x7b'
  let name := taken name []
  match rest with
  | (']', _) :: rest => readEnd? ⟨target, some name, none, .upTo .trace⟩ rest tail
  | _ :: rest =>
    let (field, rest) := rest.span fun (c, _) => c ≠ '\x7d'
    match rest with
    | _ :: (']', _) :: rest =>
      if field.isEmpty then none
      else do
        let test ← FieldTest.read? (taken field [])
        let span := if name.isEmpty then none else some name
        readEnd? ⟨target, span, some test, .upTo .trace⟩ rest tail
    | _ => none
  | [] => none

/-- Reads a directive: a threshold alone, or a target, a span or both, with a threshold or without
one, which admits everything. -/
def read? (s : String) : Option Directive :=
  let looked := Text.trimChars s.toList
  let cursor : Cursor := looked.zip s.toList
  let tail := s.toList.drop looked.length
  match cursor with
  | [] => none
  | ('[', _) :: rest => readSpan? none rest tail
  | (c, _) :: _ =>
    if !canStart c then none
    else
      let (target, rest) := cursor.span fun (c, _) => c ≠ '=' && c ≠ '['
      match rest with
      | [] =>
        let text := taken target tail
        match Threshold.read? text with
        | some threshold => some (ofTarget none threshold)
        | none => some (ofTarget (some text) (.upTo .trace))
      | ('[', _) :: rest => readSpan? (some (taken target [])) rest tail
      | _ => readEnd? (ofTarget (some (taken target [])) (.upTo .trace)) rest tail

/-- Whether a directive opens spans. -/
def opensSpans (directive : Directive) : Bool :=
  directive.span.isSome || directive.field.isSome

/-- Whether a directive decides about events where they occur. -/
def decidesEvents (directive : Directive) : Bool :=
  directive.span.isNone && directive.field.all (·.value.isNone)

/-- Whether a directive is for a part. -/
def concerns (directive : Directive) (part : Part) : Bool :=
  directive.target.all fun target => target.toList.isPrefixOf part.path.toList

/-- Whether a directive is for a span, by its part, its name and the names of its fields. -/
def concernsSpan (directive : Directive) (span : Span) : Bool :=
  directive.concerns span.part && directive.span.all (· == span.name) &&
    directive.field.all (·.isNamedIn span.fields)

/-- Whether the fields of a span pass the test of a directive. -/
def acceptsFields (directive : Directive) (span : Span) : Bool :=
  directive.field.all (·.accepts span.fields)

/-- Whether two directives are for the same, so that the later one replaces the earlier. -/
def isForSame (first second : Directive) : Bool :=
  first.target = second.target ∧ first.span = second.span ∧ first.field = second.field

/-- How specific a directive is: by the length of its target in bytes, then by whether it names a
field. -/
def weight (directive : Directive) : Nat :=
  2 * (directive.target.map fun target => target.utf8ByteSize + 1).getD 0 +
    (if directive.field.isSome then 1 else 0)

/-- The name of the field of a directive. -/
def fieldName (directive : Directive) : String := (directive.field.map (·.name)).getD ""

end Directive

end DesignTables.Log
