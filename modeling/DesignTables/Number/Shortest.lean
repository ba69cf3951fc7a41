import DesignTables.Number.Double

/-!
The decimal with the fewest digits that reads back to a given number.

Decimals of one, two, … seventeen digits are tried in turn. On each grid only the two neighbours
of the exact value can be nearest, so those are tested by reading them back; of two that pass the
nearer is taken, and the upper one if they are equally near.
-/
namespace DesignTables

/-- The decimal `digits · 10 ^ exponent`. -/
structure Decimal where
  digits : Nat
  exponent : Int
deriving DecidableEq, Repr

namespace Decimal

/-- The decimal digits of a number, at least one. -/
def digitsOf (n : Nat) : List Char := Nat.toDigits 10 n

/-- Moves the zeros at the end of the digits into the exponent. -/
def strip (d : Decimal) : Decimal :=
  if h : d.digits ≠ 0 ∧ d.digits % 10 = 0 then strip ⟨d.digits / 10, d.exponent + 1⟩ else d
termination_by d.digits
decreasing_by omega

/-- The least `k` with `num / den < 10 ^ k`. -/
def scale (num den : Nat) : Int :=
  if num < den then 1 - ((digitsOf ((den - 1) / num)).length : Int)
  else (digitsOf (num / den)).length

/-- The decimal on the grid `10 ^ exponent` that reads back to `x` and is nearest to the exact
value `num / den`, if either neighbour of the value does. -/
def onGrid (x : Double) (negative : Bool) (num den : Nat) (exponent : Int) : Option Decimal :=
  let top := num * Nat.pow 10 (-exponent).toNat
  let bottom := den * Nat.pow 10 exponent.toNat
  let below := top / bottom
  let readsBack (digits : Nat) : Bool := Double.ofDecimal negative digits exponent == x
  match readsBack below, readsBack (below + 1) with
  | true, true =>
    if 2 * (top % bottom) < bottom then some ⟨below, exponent⟩ else some ⟨below + 1, exponent⟩
  | true, false => some ⟨below, exponent⟩
  | false, true => some ⟨below + 1, exponent⟩
  | false, false => none

/-- The exact value of a finite number as a decimal. -/
def exact (significand : Nat) (exponent : Int) : Decimal :=
  if exponent < 0 then ⟨significand * Nat.pow 5 (-exponent).toNat, exponent⟩
  else ⟨significand * Nat.pow 2 exponent.toNat, 0⟩

/-- The shortest decimal that reads back to `± significand · 2 ^ exponent`. -/
def shortest (negative : Bool) (significand : Nat) (exponent : Int) : Decimal :=
  if significand = 0 then ⟨0, 0⟩
  else
    let num := Double.numerator significand exponent
    let den := Double.denominator exponent
    let top := scale num den
    let found := (List.range 17).findSome? fun (n : Nat) =>
      onGrid (.finite negative significand exponent) negative num den (top - (n + 1))
    (found.getD (exact significand exponent)).strip

end Decimal

end DesignTables
