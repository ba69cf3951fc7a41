/-!
Double-precision numbers as exact values, and the rounding of a quotient to the nearest of them.

A finite number is `± significand · 2 ^ exponent`, so every question about it is a question about
natural numbers: no floating-point operation is used anywhere in the library.
-/
namespace DesignTables

/-- A double-precision number. -/
inductive Double where
  | nan
  | infinity (negative : Bool)
  | finite (negative : Bool) (significand : Nat) (exponent : Int)
deriving DecidableEq, Repr

/-- The quotient of two naturals rounded to the nearest integer, a half going to the even one. -/
def roundDiv (num den : Nat) : Nat :=
  let quotient := num / den
  let twice := 2 * (num % den)
  if twice < den then quotient
  else if den < twice then quotient + 1
  else if quotient % 2 = 0 then quotient else quotient + 1

namespace Double

/-- The least exponent of a finite number. -/
def minExponent : Int := -1074

/-- The greatest exponent of a finite number. -/
def maxExponent : Int := 971

/-- The number that 64 bits stand for: a sign, eleven exponent bits, and a fraction. -/
def ofBits (bits : UInt64) : Double :=
  let negative := bits >>> 63 = 1
  let biased := ((bits >>> 52) &&& 0x7FF).toNat
  let fraction := (bits &&& 0xFFFFFFFFFFFFF).toNat
  if biased = 0x7FF then (if fraction = 0 then infinity negative else nan)
  else if biased = 0 then finite negative fraction minExponent
  else finite negative (Nat.pow 2 52 + fraction) (biased - 1075)

/-- The exponent at which `num / den` has a significand of 53 bits. -/
def exponentOf (num den : Nat) : Int :=
  let low : Int := (num.log2 : Int) - den.log2 - 53
  if num * Nat.pow 2 (-low).toNat < den * Nat.pow 2 low.toNat * Nat.pow 2 53 then low
  else low + 1

/-- The number nearest to `± num / den`; of two equally near the one with an even significand. -/
def nearest (negative : Bool) (num den : Nat) : Double :=
  if num = 0 then finite negative 0 minExponent
  else
    let exponent := max (exponentOf num den) minExponent
    let rounded :=
      roundDiv (num * Nat.pow 2 (-exponent).toNat) (den * Nat.pow 2 exponent.toNat)
    let (significand, exponent) :=
      if rounded = Nat.pow 2 53 then (Nat.pow 2 52, exponent + 1) else (rounded, exponent)
    if maxExponent < exponent then infinity negative else finite negative significand exponent

/-- The number nearest to `± digits · 10 ^ exponent`. -/
def ofDecimal (negative : Bool) (digits : Nat) (exponent : Int) : Double :=
  nearest negative (digits * Nat.pow 10 exponent.toNat) (Nat.pow 10 (-exponent).toNat)

/-- Whether a number is neither infinite nor undefined. -/
def isFinite : Double → Bool
  | finite .. => true
  | _ => false

/-- The numerator of the exact value of a finite number. -/
def numerator (significand : Nat) (exponent : Int) : Nat := significand * Nat.pow 2 exponent.toNat

/-- The denominator of the exact value of a finite number. -/
def denominator (exponent : Int) : Nat := Nat.pow 2 (-exponent).toNat

end Double

end DesignTables
