import DesignTables.Number.Shortest

/-!
Integers as text: reading within bounds and writing.

Reading takes an optional sign and one or more ASCII digits, so `+5` and `007` are read too; only
what writing gives back unchanged counts as canonical.
-/
namespace DesignTables

/-- Whether a character is an ASCII digit. -/
def isDigit (c : Char) : Bool := '0' ≤ c && c ≤ '9'

/-- The value of a digit. -/
def digitValue (c : Char) : Nat := c.toNat - '0'.toNat

/-- The value of a list of digits, the most significant first. -/
def digitsValue (cs : List Char) : Nat := cs.foldl (fun value c => 10 * value + digitValue c) 0

/-- The natural number that a non-empty list of digits stands for. -/
def readDigits? (cs : List Char) : Option Nat :=
  if cs ≠ [] ∧ cs.all isDigit then some (digitsValue cs) else none

/-- An integer with an optional sign, between two bounds. -/
def readInteger? (least greatest : Int) (s : String) : Option Int :=
  let value? : Option Int :=
    match s.toList with
    | '-' :: cs => (readDigits? cs).map fun n => -(n : Int)
    | '+' :: cs => (readDigits? cs).map fun n => (n : Int)
    | cs => (readDigits? cs).map fun n => (n : Int)
  value?.filter fun value => least ≤ value && value ≤ greatest

/-- A signed integer of 64 bits. -/
def readInt64? (s : String) : Option Int := readInteger? (-Int.pow 2 63) (Int.pow 2 63 - 1) s

/-- A count: an optional plus sign and digits, below `2 ^ 64`. -/
def readCount? (s : String) : Option Nat :=
  let value? :=
    match s.toList with
    | '+' :: cs => readDigits? cs
    | cs => readDigits? cs
  value?.filter (· < Nat.pow 2 64)

/-- A natural number in decimal digits. -/
def writeNat (n : Nat) : String := String.ofList (Decimal.digitsOf n)

/-- Digits with zeros in front up to a width. -/
def padDigits (width : Nat) (digits : List Char) : List Char :=
  List.replicate (width - digits.length) '0' ++ digits

/-- A natural number in decimal digits, with zeros in front up to a width. -/
def writePadded (width n : Nat) : String := String.ofList (padDigits width (Decimal.digitsOf n))

/-- An integer in decimal digits, with a minus sign if it is negative. -/
def writeInt : Int → String
  | .ofNat n => writeNat n
  | .negSucc n => "-" ++ writeNat (n + 1)

end DesignTables
