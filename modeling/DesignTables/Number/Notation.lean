import DesignTables.Number.Integer

/-!
Numbers as text.

Three forms are in use. `plain` never has an exponent and drops a zero fraction. `pointed` is the
canonical form of a floating-point cell: it always has a point or an exponent, and takes the
exponent form outside `10 ^ -4 … 10 ^ 16`. `render` is what a reader of the sheet sees.
-/
namespace DesignTables

namespace Decimal

/-- `n` zeros. -/
def zeros (n : Nat) : List Char := List.replicate n '0'

/-- Digits with the point after the first `point` of them; `point` may lie outside the digits. -/
def positional (digits : List Char) (point : Int) (wholeSuffix : List Char) : List Char :=
  if point ≤ 0 then '0' :: '.' :: zeros (-point).toNat ++ digits
  else if digits.length ≤ point.toNat then
    digits ++ zeros (point.toNat - digits.length) ++ wholeSuffix
  else digits.take point.toNat ++ '.' :: digits.drop point.toNat

/-- Digits with the point after the first, and the exponent of that first digit. -/
def scientific (digits : List Char) (point : Int) : List Char :=
  let fraction := if digits.length ≤ 1 then [] else '.' :: digits.drop 1
  digits.take 1 ++ fraction ++ 'e' :: (writeInt (point - 1)).toList

end Decimal

namespace Double

/-- The text of a sign. -/
def sign (negative : Bool) : String := if negative then "-" else ""

/-- The shortest digits of a finite number, and how many of them stand before the point. -/
def shortestDigits (negative : Bool) (significand : Nat) (exponent : Int) : List Char × Int :=
  let d := Decimal.shortest negative significand exponent
  let digits := Decimal.digitsOf d.digits
  if significand = 0 then (['0'], 1) else (digits, digits.length + d.exponent)

/-- The shortest text that reads back, without an exponent. -/
def plain : Double → String
  | nan => "NaN"
  | infinity negative => sign negative ++ "inf"
  | finite negative significand exponent =>
    let (digits, point) := shortestDigits negative significand exponent
    sign negative ++ String.ofList (Decimal.positional digits point [])

/-- The shortest text that reads back, with a point or an exponent in it. -/
def pointed : Double → String
  | nan => "NaN"
  | infinity negative => sign negative ++ "inf"
  | finite negative significand exponent =>
    let (digits, point) := shortestDigits negative significand exponent
    let isSmall := numerator significand exponent * Nat.pow 10 4 < denominator exponent
    let isLarge := denominator exponent * Nat.pow 10 16 ≤ numerator significand exponent
    sign negative ++ String.ofList
      (if significand ≠ 0 && (isSmall || isLarge) then Decimal.scientific digits point
       else Decimal.positional digits point ['.', '0'])

/-- The text of a number in a sheet: whole numbers below `10 ^ 15` are written exactly and without
a sign on zero, all others with the fewest digits that read back. -/
def render : Double → String
  | finite negative significand exponent =>
    let num := numerator significand exponent
    let den := denominator exponent
    if num % den = 0 ∧ num / den < Nat.pow 10 15 then
      (if num = 0 then "" else sign negative) ++ writeNat (num / den)
    else plain (finite negative significand exponent)
  | x => plain x

/-- A finite number rounded to a number of decimal places, a half going to the even neighbour. -/
def roundPlaces (places : Nat) : Double → Double
  | finite negative significand exponent =>
    let units := roundDiv (numerator significand exponent * Nat.pow 10 places) (denominator exponent)
    ofDecimal negative units (-places)
  | x => x

/-- The text of a numeric cell: rounded to eight places. -/
def normalize (x : Double) : String := (x.roundPlaces 8).render

end Double

end DesignTables
