import DesignTables.Number.Double
import Mathlib.Algebra.Order.Ring.Abs
import Mathlib.Data.Int.Log
import Mathlib.Data.Rat.Floor
import Mathlib.Tactic.FieldSimp
import Mathlib.Tactic.Linarith
import Mathlib.Tactic.Ring

/-!
# Rounding to the nearest double-precision number

The nearest number of a quotient depends on the quotient alone, and is away from it by half a unit
of its last bit at most. A number with a significand of 53 bits, or with the least exponent, is the
nearest one to its own value.
-/
namespace DesignTables

section Division

variable {num den : Nat}

theorem roundDiv_mul_left {k : Nat} (pos : 0 < k) (num den : Nat) :
    roundDiv (k * num) (k * den) = roundDiv num den := by
  have twice : 2 * (k * (num % den)) = k * (2 * (num % den)) := Nat.mul_left_comm _ _ _
  rw [roundDiv, roundDiv, Nat.mul_div_mul_left _ _ pos, Nat.mul_mod_mul_left, twice]
  simp only [Nat.mul_lt_mul_left pos]

theorem roundDiv_mul_self (pos : 0 < den) (n : Nat) : roundDiv (n * den) den = n := by
  rw [roundDiv, Nat.mul_mod_left, Nat.mul_div_cancel _ pos]
  exact if_pos pos

/-- A rounded quotient is away from the exact one by a half at most. -/
theorem roundDiv_near (pos : 0 < den) (num : Nat) :
    2 * (den * roundDiv num den) ≤ 2 * num + den ∧ 2 * num ≤ 2 * (den * roundDiv num den) + den := by
  have split := Nat.div_add_mod num den
  have next : den * (num / den + 1) = den * (num / den) + den := Nat.mul_succ _ _
  rw [roundDiv]
  by_cases below : 2 * (num % den) < den
  · rw [if_pos below]
    omega
  · rw [if_neg below]
    by_cases above : den < 2 * (num % den)
    · rw [if_pos above, next]
      have small := Nat.mod_lt num pos
      omega
    · rw [if_neg above]
      split
      · omega
      · rw [next]
        omega

theorem abs_roundDiv_sub_le (pos : 0 < den) :
    |(roundDiv num den : ℚ) - num / den| ≤ 1 / 2 := by
  obtain ⟨high, low⟩ := roundDiv_near pos num
  have pos : (0 : ℚ) < den := Nat.cast_pos.2 pos
  have high : 2 * ((den : ℚ) * roundDiv num den) ≤ 2 * num + den := by exact_mod_cast high
  have low : 2 * (num : ℚ) ≤ 2 * (den * roundDiv num den) + den := by exact_mod_cast low
  have whole : (num : ℚ) = num / den * den := by field_simp
  rw [abs_le]
  constructor
  · by_contra less
    nlinarith
  · by_contra more
    nlinarith

end Division

namespace Double

variable {num den : Nat}

/-- The fraction with an exponent of two is the quotient with the exponent. -/
theorem cast_div_two_zpow (num den : Nat) (exponent : Int) :
    ((num * Nat.pow 2 (-exponent).toNat : Nat) : ℚ) / (den * Nat.pow 2 exponent.toNat : Nat) =
      num / den / 2 ^ exponent := by
  have two : (2 : ℚ) ≠ 0 := two_ne_zero
  rw [Nat.pow_eq, Nat.pow_eq, Nat.cast_mul, Nat.cast_mul, Nat.cast_pow, Nat.cast_pow,
    Nat.cast_ofNat]
  obtain ⟨n, rfl | rfl⟩ := exponent.eq_nat_or_neg
  · simp [div_div]
  · simp [div_eq_mul_inv]
    ring

theorem value_eq (significand : Nat) (exponent : Int) :
    (numerator significand exponent : ℚ) / denominator exponent = significand * 2 ^ exponent := by
  have h := cast_div_two_zpow significand 1 (-exponent)
  rw [neg_neg, Nat.cast_one, div_one, zpow_neg, div_inv_eq_mul, one_mul] at h
  exact h

theorem denominator_pos (exponent : Int) : 0 < denominator exponent :=
  Nat.pow_pos (by decide)

theorem log_eq {q : ℚ} {k : Int} (low : 2 ^ k ≤ q) (high : q < 2 ^ (k + 1)) :
    Int.log 2 q = k := by
  have pos : 0 < q := (zpow_pos two_pos k).trans_le low
  have above : k ≤ Int.log 2 q := (Int.zpow_le_iff_le_log one_lt_two pos).1 low
  have below : Int.log 2 q < k + 1 := (Int.lt_zpow_iff_log_lt one_lt_two pos).1 high
  omega

/-- The exponent is told by the place of the first bit of the quotient. -/
theorem exponentOf_eq (hn : num ≠ 0) (hd : den ≠ 0) :
    exponentOf num den = Int.log 2 (num / den : ℚ) - 52 := by
  have num_pos : (0 : ℚ) < num := Nat.cast_pos.2 (Nat.pos_of_ne_zero hn)
  have den_pos : (0 : ℚ) < den := Nat.cast_pos.2 (Nat.pos_of_ne_zero hd)
  have bits {n : Nat} (some : n ≠ 0) :
      (2 : ℚ) ^ (n.log2 : Int) ≤ n ∧ (n : ℚ) < 2 ^ ((n.log2 : Int) + 1) := by
    rw [← Nat.cast_succ, zpow_natCast, zpow_natCast]
    exact ⟨by exact_mod_cast Nat.log2_self_le some, by exact_mod_cast Nat.lt_log2_self⟩
  obtain ⟨num_low, num_high⟩ := bits hn
  obtain ⟨den_low, den_high⟩ := bits hd
  -- The quotient has its first bit at one of two neighbouring places.
  generalize low_eq : (num.log2 : Int) - den.log2 - 53 = low
  have above : (2 : ℚ) ^ (low + 52) ≤ num / den := by
    have place : low + 52 = (num.log2 : Int) - (den.log2 + 1) := by omega
    rw [place, zpow_sub₀ two_ne_zero]
    exact (div_lt_div₀' num_low den_high num_pos den_pos).le
  have below : (num / den : ℚ) < 2 ^ (low + 53 + 1) := by
    have place : low + 53 + 1 = (num.log2 : Int) + 1 - den.log2 := by omega
    rw [place, zpow_sub₀ two_ne_zero]
    exact div_lt_div₀ num_high den_low (zpow_pos two_pos _).le (zpow_pos two_pos _)
  have test : num * Nat.pow 2 (-low).toNat < den * Nat.pow 2 low.toNat * Nat.pow 2 53 ↔
      (num / den : ℚ) < 2 ^ (low + 53) := by
    have some : 0 < den * Nat.pow 2 low.toNat :=
      Nat.mul_pos (Nat.pos_of_ne_zero hd) (Nat.pow_pos (by decide))
    rw [zpow_add₀ two_ne_zero, ← div_lt_iff₀' (zpow_pos two_pos low), ← cast_div_two_zpow,
      div_lt_iff₀' (Nat.cast_pos.2 some)]
    norm_cast
  rw [exponentOf, low_eq]
  simp only [test]
  split
  next small =>
    have place : low + 53 = low + 52 + 1 := by ring
    rw [place] at small
    have log := log_eq above small
    omega
  next large =>
    have log := log_eq (not_lt.1 large) below
    omega

theorem exponentOf_mul_left {k : Nat} (pos : 0 < k) (hn : num ≠ 0) (hd : den ≠ 0) :
    exponentOf (k * num) (k * den) = exponentOf num den := by
  have some := Nat.pos_iff_ne_zero.1 pos
  rw [exponentOf_eq (Nat.mul_ne_zero some hn) (Nat.mul_ne_zero some hd), exponentOf_eq hn hd,
    Nat.cast_mul, Nat.cast_mul, mul_div_mul_left _ _ (Nat.cast_ne_zero.2 some)]

/-- A significand and an exponent as a number, an infinite one if the exponent is too large. -/
def bounded (negative : Bool) (significand : Nat) (exponent : Int) : Double :=
  if maxExponent < exponent then infinity negative else finite negative significand exponent

theorem bounded_of_le {exponent : Int} (h : exponent ≤ maxExponent) (negative : Bool)
    (significand : Nat) : bounded negative significand exponent =
      finite negative significand exponent := if_neg (not_lt.2 h)

/-- A rounded significand and its exponent as a number; one of 54 bits is halved. -/
def pack (negative : Bool) (rounded : Nat) (exponent : Int) : Double :=
  if rounded = Nat.pow 2 53 then bounded negative (Nat.pow 2 52) (exponent + 1)
  else bounded negative rounded exponent

theorem pack_eq (negative : Bool) (rounded : Nat) (exponent : Int) :
    (let (significand, exponent) :=
      if rounded = Nat.pow 2 53 then (Nat.pow 2 52, exponent + 1) else (rounded, exponent)
    if maxExponent < exponent then infinity negative
    else finite negative significand exponent) = pack negative rounded exponent := by
  rw [pack]
  by_cases carry : rounded = Nat.pow 2 53
  · rw [if_pos carry, if_pos carry, bounded]
  · rw [if_neg carry, if_neg carry, bounded]

/-- The exponent that the nearest number has before its significand is rounded. -/
def unitExponent (num den : Nat) : Int := max (exponentOf num den) minExponent

/-- The significand that a quotient is rounded to at an exponent. -/
def roundedAt (exponent : Int) (num den : Nat) : Nat :=
  roundDiv (num * Nat.pow 2 (-exponent).toNat) (den * Nat.pow 2 exponent.toNat)

theorem nearest_eq (hn : num ≠ 0) (negative : Bool) (den : Nat) : nearest negative num den =
    pack negative (roundedAt (unitExponent num den) num den) (unitExponent num den) := by
  rw [nearest, if_neg hn]
  exact pack_eq _ _ _

theorem nearest_zero (negative : Bool) (den : Nat) :
    nearest negative 0 den = finite negative 0 minExponent := if_pos rfl

theorem nearest_mul_left {k : Nat} (pos : 0 < k) (negative : Bool) (num : Nat) (hd : den ≠ 0) :
    nearest negative (k * num) (k * den) = nearest negative num den := by
  by_cases hn : num = 0
  · rw [hn, Nat.mul_zero, nearest_zero, nearest_zero]
  · have unit : unitExponent (k * num) (k * den) = unitExponent num den := by
      rw [unitExponent, exponentOf_mul_left pos hn hd, unitExponent]
    rw [nearest_eq (Nat.mul_ne_zero (Nat.pos_iff_ne_zero.1 pos) hn), nearest_eq hn, unit,
      roundedAt, Nat.mul_assoc, Nat.mul_assoc, roundDiv_mul_left pos, roundedAt]

/-- Equal quotients are rounded to the same number. -/
theorem nearest_congr {num' den' : Nat} (negative : Bool) (hd : den ≠ 0) (hd' : den' ≠ 0)
    (same : num * den' = num' * den) : nearest negative num den = nearest negative num' den' := by
  rw [← nearest_mul_left (Nat.pos_of_ne_zero hd') negative num hd,
    ← nearest_mul_left (Nat.pos_of_ne_zero hd) negative num' hd', Nat.mul_comm den' num, same,
    Nat.mul_comm num' den, Nat.mul_comm den' den]

/-- The form that rounding gives a number: its significand has 53 bits, or the exponent is the
least. -/
structure IsCanonical (significand : Nat) (exponent : Int) : Prop where
  short : significand < 2 ^ 53
  least : minExponent ≤ exponent
  greatest : exponent ≤ maxExponent
  full : 2 ^ 52 ≤ significand ∨ exponent = minExponent

/-- How near a number is to what it was rounded from. -/
structure Rounds (quotient : ℚ) (significand : Nat) (exponent : Int) : Prop where
  canonical : IsCanonical significand exponent
  close : |significand * 2 ^ exponent - quotient| ≤ quotient / 2 ^ 53 + 2 ^ (-1075 : Int)

/-- Where the first bit of a quotient stands with respect to the exponent of its nearest number. -/
theorem unitExponent_spec (hn : num ≠ 0) (hd : den ≠ 0) :
    minExponent ≤ unitExponent num den ∧ (num / den : ℚ) < 2 ^ (unitExponent num den + 53) ∧
      (2 ^ (unitExponent num den + 52) ≤ (num / den : ℚ) ∨ unitExponent num den = minExponent) := by
  have pos : (0 : ℚ) < num / den :=
    div_pos (Nat.cast_pos.2 (Nat.pos_of_ne_zero hn)) (Nat.cast_pos.2 (Nat.pos_of_ne_zero hd))
  have low := Int.zpow_log_le_self (b := 2) one_lt_two pos
  have high := Int.lt_zpow_succ_log_self (b := 2) one_lt_two (num / den : ℚ)
  rw [unitExponent, exponentOf_eq hn hd]
  generalize Int.log 2 (num / den : ℚ) = place at low high
  refine ⟨le_max_right _ _, ?_, ?_⟩
  · exact high.trans_le (zpow_le_zpow_right₀ one_le_two (by omega))
  · rcases le_total (place - 52) minExponent with least | more
    · exact .inr (max_eq_right least)
    · rw [max_eq_left more, Int.sub_add_cancel]
      exact .inl low

/-- A significand and the quotient that it is rounded from, in units of its last bit. -/
theorem abs_roundedAt_sub_le (hd : den ≠ 0) (num : Nat) (exponent : Int) :
    |(roundedAt exponent num den : ℚ) - num / den / 2 ^ exponent| ≤ 1 / 2 := by
  have pos : 0 < den * Nat.pow 2 exponent.toNat :=
    Nat.mul_pos (Nat.pos_of_ne_zero hd) (Nat.pow_pos (by decide))
  rw [← cast_div_two_zpow, roundedAt]
  exact abs_roundDiv_sub_le pos

theorem roundedAt_le (hd : den ≠ 0) {exponent : Int}
    (high : (num / den : ℚ) < 2 ^ (exponent + 53)) : roundedAt exponent num den ≤ 2 ^ 53 := by
  have near := (abs_le.1 (abs_roundedAt_sub_le hd num exponent)).2
  have units : (num / den / 2 ^ exponent : ℚ) < 2 ^ 53 := by
    rw [div_lt_iff₀ (zpow_pos two_pos _), mul_comm]
    rwa [zpow_add₀ two_ne_zero] at high
  have less : (roundedAt exponent num den : ℚ) < 2 ^ 53 + 1 := by linarith
  exact Nat.lt_succ_iff.1 (by exact_mod_cast less)

theorem le_roundedAt (hd : den ≠ 0) {exponent : Int}
    (low : 2 ^ (exponent + 52) ≤ (num / den : ℚ)) : 2 ^ 52 ≤ roundedAt exponent num den := by
  have near := (abs_le.1 (abs_roundedAt_sub_le hd num exponent)).1
  have units : (2 ^ 52 : ℚ) ≤ num / den / 2 ^ exponent := by
    rw [le_div_iff₀ (zpow_pos two_pos _), mul_comm]
    rwa [zpow_add₀ two_ne_zero] at low
  have more : (2 ^ 52 : ℚ) < roundedAt exponent num den + 1 := by linarith
  exact Nat.lt_succ_iff.1 (by exact_mod_cast more)

/-- Half a unit of the last bit is small against the quotient, or the unit is the least. -/
theorem abs_rounded_sub_le (hn : num ≠ 0) (hd : den ≠ 0) :
    |(roundedAt (unitExponent num den) num den * 2 ^ unitExponent num den - num / den : ℚ)| ≤
      num / den / 2 ^ 53 + 2 ^ (-1075 : Int) := by
  obtain ⟨-, -, place⟩ := unitExponent_spec hn hd
  have near := abs_roundedAt_sub_le hd num (unitExponent num den)
  generalize unitExponent num den = exponent at *
  generalize roundedAt exponent num den = rounded at *
  have unit : (0 : ℚ) < 2 ^ exponent := zpow_pos two_pos _
  have error : |(rounded * 2 ^ exponent - num / den : ℚ)| ≤ 2 ^ exponent / 2 := by
    have scaled : (rounded * 2 ^ exponent - num / den : ℚ) =
        (rounded - num / den / 2 ^ exponent) * 2 ^ exponent := by
      field_simp
    rw [scaled, abs_mul, abs_of_pos unit]
    linarith [mul_le_mul_of_nonneg_right near unit.le]
  have quotient : (0 : ℚ) ≤ num / den := by positivity
  have least : (0 : ℚ) < 2 ^ (-1075 : Int) := zpow_pos two_pos _
  refine error.trans ?_
  rcases place with first | rfl
  · have bits : (2 : ℚ) ^ (exponent + 52) = 2 ^ exponent / 2 * 2 ^ 53 := by
      rw [zpow_add₀ two_ne_zero]
      norm_num
      ring
    rw [bits, ← le_div_iff₀ (by positivity)] at first
    linarith
  · have half : (2 : ℚ) ^ minExponent / 2 = 2 ^ (-1075 : Int) := by
      rw [div_eq_iff two_ne_zero, ← zpow_add_one₀ two_ne_zero]
      rfl
    rw [half]
    have share : (0 : ℚ) ≤ num / den / 2 ^ 53 := by positivity
    linarith

/-- A quotient has a nearest finite number, unless it is very large. -/
theorem nearest_cases (hn : num ≠ 0) (hd : den ≠ 0) (negative : Bool) :
    (∃ significand exponent, nearest negative num den = finite negative significand exponent ∧
      Rounds (num / den) significand exponent) ∨
    nearest negative num den = infinity negative ∧ 2 ^ (1023 : Int) ≤ (num / den : ℚ) := by
  obtain ⟨least, high, place⟩ := unitExponent_spec hn hd
  have le := roundedAt_le hd high
  have full := place.imp_left (le_roundedAt hd)
  have close := abs_rounded_sub_le hn hd
  rw [nearest_eq hn]
  generalize unitExponent num den = exponent at *
  generalize roundedAt exponent num den = rounded at *
  have large (above : maxExponent ≤ exponent) : 2 ^ (1023 : Int) ≤ (num / den : ℚ) := by
    rw [maxExponent] at above
    rw [minExponent] at place
    have first := place.resolve_right (by omega)
    exact (zpow_le_zpow_right₀ one_le_two (by omega)).trans first
  rw [pack]
  split
  next carry =>
    have carry : rounded = 2 ^ 53 := carry
    rcases le_or_gt (exponent + 1) maxExponent with inside | above
    · refine .inl ⟨2 ^ 52, exponent + 1, bounded_of_le inside _ _,
        ⟨by decide, by omega, inside, .inl le_rfl⟩, ?_⟩
      have same : ((2 ^ 52 : Nat) : ℚ) * 2 ^ (exponent + 1) = rounded * 2 ^ exponent := by
        rw [carry, zpow_add_one₀ two_ne_zero]
        push_cast
        ring
      rwa [same]
    · exact .inr ⟨if_pos above, large (by omega)⟩
  next whole =>
    have whole : rounded ≠ 2 ^ 53 := whole
    rcases le_or_gt exponent maxExponent with inside | above
    · exact .inl ⟨rounded, exponent, bounded_of_le inside _ _,
        ⟨by omega, least, inside, full⟩, close⟩
    · exact .inr ⟨if_pos above, large above.le⟩

/-- A quotient that is not too large has a nearest finite number. -/
theorem exists_nearest (hn : num ≠ 0) (hd : den ≠ 0) (negative : Bool)
    (small : (num / den : ℚ) < 2 ^ (1023 : Int)) :
    ∃ significand exponent, nearest negative num den = finite negative significand exponent ∧
      Rounds (num / den) significand exponent :=
  (nearest_cases hn hd negative).resolve_right fun large => not_lt.2 large.2 small

/-- A finite number that is nearest to a quotient is near to it. -/
theorem rounds_of_nearest (hn : num ≠ 0) (hd : den ≠ 0) {negative sign : Bool} {significand : Nat}
    {exponent : Int} (h : nearest negative num den = finite sign significand exponent) :
    Rounds (num / den) significand exponent := by
  rcases nearest_cases hn hd negative with ⟨significand', exponent', same, rounds⟩ | ⟨large, -⟩
  · obtain ⟨-, rfl, rfl⟩ := finite.inj (h.symm.trans same)
    exact rounds
  · rw [h] at large
    cases large

/-- A number in the form that rounding gives is the nearest one to its own value. -/
theorem nearest_self {significand : Nat} {exponent : Int} (some : significand ≠ 0)
    (canonical : IsCanonical significand exponent) (negative : Bool) :
    nearest negative (numerator significand exponent) (denominator exponent) =
      finite negative significand exponent := by
  have hn : numerator significand exponent ≠ 0 :=
    Nat.mul_ne_zero some (Nat.pos_iff_ne_zero.1 (Nat.pow_pos (by decide)))
  have hd : denominator exponent ≠ 0 := Nat.pos_iff_ne_zero.1 (denominator_pos exponent)
  have positive : (0 : ℚ) < significand := Nat.cast_pos.2 (Nat.pos_of_ne_zero some)
  have short : (significand : ℚ) < 2 ^ 53 := by exact_mod_cast canonical.short
  have unit : unitExponent (numerator significand exponent) (denominator exponent) = exponent := by
    rw [unitExponent, exponentOf_eq hn hd, value_eq]
    have pos : (0 : ℚ) < significand * 2 ^ exponent := mul_pos positive (zpow_pos two_pos _)
    have below : Int.log 2 (significand * 2 ^ exponent : ℚ) < exponent + 53 := by
      refine (Int.lt_zpow_iff_log_lt one_lt_two pos).1 ?_
      rw [Nat.cast_ofNat, zpow_add₀ two_ne_zero, mul_comm]
      exact mul_lt_mul_of_pos_left (by exact_mod_cast short) (zpow_pos two_pos _)
    have above (full : 2 ^ 52 ≤ significand) :
        exponent + 52 ≤ Int.log 2 (significand * 2 ^ exponent : ℚ) := by
      refine (Int.zpow_le_iff_le_log one_lt_two pos).1 ?_
      rw [Nat.cast_ofNat, zpow_add₀ two_ne_zero, mul_comm]
      exact mul_le_mul_of_nonneg_right (by exact_mod_cast full) (zpow_pos two_pos _).le
    have least := canonical.least
    rcases canonical.full with full | same
    · have place := above full
      omega
    · omega
  have rounded : roundedAt exponent (numerator significand exponent) (denominator exponent) =
      significand := by
    have same : numerator significand exponent * Nat.pow 2 (-exponent).toNat =
        significand * (denominator exponent * Nat.pow 2 exponent.toNat) := by
      rw [numerator, denominator]
      ring
    rw [roundedAt, same]
    exact roundDiv_mul_self (Nat.mul_pos (denominator_pos _) (Nat.pow_pos (by decide))) _
  have whole : significand ≠ Nat.pow 2 53 := canonical.short.ne
  rw [nearest_eq hn, unit, rounded, pack, if_neg whole, bounded_of_le canonical.greatest]

end Double

end DesignTables
