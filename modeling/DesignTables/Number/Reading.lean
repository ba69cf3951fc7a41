import DesignTables.Number.Notation

/-!
Reading a double-precision number from text.

The grammar is an optional sign followed by `inf`, `infinity` or `nan` in any case, or by digits
with an optional point (at least one digit on either side of it) and an optional exponent.
-/
namespace DesignTables.Double

/-- The exponent part after the digits: nothing, or `e` with an optional sign and digits. -/
def readExponent? : List Char → Option Int
  | [] => some 0
  | c :: cs =>
    if c = 'e' ∨ c = 'E' then
      match cs with
      | '-' :: digits => (readDigits? digits).map fun n => -(n : Int)
      | '+' :: digits => (readDigits? digits).map fun n => (n : Int)
      | digits => (readDigits? digits).map fun n => (n : Int)
    else none

/-- The digits after a point, and what follows them. -/
def readFraction (cs : List Char) : List Char × List Char :=
  match cs with
  | '.' :: rest => rest.span isDigit
  | _ => ([], cs)

/-- The number nearest to a decimal. A decimal far outside the range is settled by its magnitude. -/
def ofDecimalWide (negative : Bool) (digits : Nat) (exponent : Int) : Double :=
  let magnitude := (Decimal.digitsOf digits).length + exponent
  if digits = 0 then finite negative 0 minExponent
  else if 400 < magnitude then infinity negative
  else if magnitude < -400 then finite negative 0 minExponent
  else ofDecimal negative digits exponent

/-- An unsigned decimal. -/
def readDecimal? (negative : Bool) (cs : List Char) : Option Double :=
  let (whole, afterWhole) := cs.span isDigit
  let (fraction, afterFraction) := readFraction afterWhole
  let digits := whole ++ fraction
  if digits = [] then none
  else (readExponent? afterFraction).map fun exponent =>
    ofDecimalWide negative (digitsValue digits) (exponent - fraction.length)

/-- An unsigned number. -/
def readUnsigned? (negative : Bool) (cs : List Char) : Option Double :=
  match String.ofList (cs.map Char.toLower) with
  | "inf" | "infinity" => some (infinity negative)
  | "nan" => some nan
  | _ => readDecimal? negative cs

/-- The number that a text stands for. -/
def read? (s : String) : Option Double :=
  match s.toList with
  | '-' :: cs => readUnsigned? true cs
  | '+' :: cs => readUnsigned? false cs
  | cs => readUnsigned? false cs

end DesignTables.Double
