import DesignTables.Text.Split
import DesignTables.Text.Case
import DesignTables.Number.Reading
import DesignTables.Diagnostic.Code

/-!
The types of column values, and the texts each type accepts.

A number must be written the one way its own printer writes it, so a stray character or a needless
fraction is refused.
-/
namespace DesignTables

/-- The type of the values of a column. -/
inductive DataType where
  | int | long | float | double | string | bool | stream
  /-- A key of the localization registry. -/
  | localText
  /-- A text of an enumeration group. -/
  | enumText
deriving DecidableEq, Repr

namespace DataType

/-- The name of a type. -/
def name : DataType → String
  | int => "int"
  | long => "long"
  | float => "float"
  | double => "double"
  | string => "string"
  | bool => "bool"
  | stream => "stream"
  | localText => "localtext"
  | enumText => "type"

/-- The types that a keyword of their own declares; an enumeration needs its group. -/
def keyworded : List DataType := [int, long, float, double, string, bool, stream, localText]

/-- The type that a keyword declares. -/
def ofKeyword? (keyword : String) : Option DataType := keyworded.find? (·.name == keyword)

/-- Whether values of the type are numbers. -/
def isNumeric : DataType → Bool
  | int | long | float | double => true
  | _ => false

/-- Whether values of the type are written between double quotes. -/
def isQuoted : DataType → Bool
  | string | localText => true
  | _ => false

/-- The value of a merged column that a contributing sheet lacks. -/
def mergeDefault : DataType → String
  | int | long | float | double => "0"
  | string | localText | stream => ""
  | bool => "false"
  | enumText => "NONE"

/-- Whether a text is the writing of a 64-bit integer. -/
def isCanonicalInt (value : String) : Bool :=
  match readInt64? value with
  | some n => writeInt n == value
  | none => false

/-- Whether a text is the pointed writing of a double-precision number. -/
def isCanonicalFloat (value : String) : Bool :=
  match Double.read? value with
  | some x => x.pointed == value
  | none => false

/-- Whether a text is `true` or `false` in any ASCII case. -/
def isBoolText (value : String) : Bool :=
  Text.eqIgnoringCase value "true" || Text.eqIgnoringCase value "false"

/-- What is wrong with an empty value of the type, if anything. -/
def emptyFault : DataType → Option Code
  | int | long => some .intValueNull
  | float | double => some .floatValueNull
  | bool => some .boolValueNull
  | enumText => some .typeValueNull
  | string | stream | localText => none

/-- What is wrong with a non-empty value of the type, if anything. -/
def formFault (type : DataType) (value : String) : Option Code :=
  match type with
  | int | long => if isCanonicalInt value then none else some .intValueError
  | float | double =>
    if isCanonicalFloat value || isCanonicalInt value then none else some .floatValueError
  | bool => if isBoolText value then none else some .boolValueError
  | enumText => if value.toList.contains ' ' then some .typeValueSpaceError else none
  | string => if value.toList.contains '"' then some .stringValueQuoteError else none
  | stream | localText => none

/-- What is wrong with a value of the type, if anything. -/
def fault (type : DataType) (value : String) : Option Code :=
  if value.isEmpty then type.emptyFault else type.formFault value

end DataType

end DesignTables
