import DesignTables.Number.Reading
import DesignTables.Proofs.Number.Digits
import DesignTables.Proofs.Number.Rounding

/-!
# The fewest digits of a number, and the text with them

The decimals that are tried are tested by reading them back, and the exact value, which is taken
when none passes, reads back as well. So a number in the form that rounding gives is what its
shortest text stands for.
-/
namespace DesignTables

namespace Double

theorem ofDecimal_congr (negative : Bool) {digits digits' : Nat} {exponent exponent' : Int}
    (same : digits * Nat.pow 10 exponent.toNat * Nat.pow 10 (-exponent').toNat =
      digits' * Nat.pow 10 exponent'.toNat * Nat.pow 10 (-exponent).toNat) :
    ofDecimal negative digits exponent = ofDecimal negative digits' exponent' := by
  have some (n : Nat) : Nat.pow 10 n ≠ 0 := Nat.pos_iff_ne_zero.1 (Nat.pow_pos (by decide))
  exact nearest_congr negative (some _) (some _) same

/-- Ten times the digits is one more in the exponent. -/
theorem ofDecimal_succ (negative : Bool) (digits : Nat) (exponent : Int) :
    ofDecimal negative digits (exponent + 1) = ofDecimal negative (10 * digits) exponent := by
  refine ofDecimal_congr negative ?_
  simp only [Nat.pow_eq]
  rcases le_or_gt 0 exponent with whole | fraction
  · have up : (exponent + 1).toNat = exponent.toNat + 1 := by omega
    have down : (-(exponent + 1)).toNat = 0 ∧ (-exponent).toNat = 0 := by omega
    rw [up, down.1, down.2, pow_succ]
    ring
  · have up : (exponent + 1).toNat = 0 ∧ exponent.toNat = 0 := by omega
    have down : (-exponent).toNat = (-(exponent + 1)).toNat + 1 := by omega
    rw [up.1, up.2, down, pow_succ]
    ring

theorem ofDecimal_zero (negative : Bool) (exponent : Int) :
    ofDecimal negative 0 exponent = finite negative 0 minExponent := by
  rw [ofDecimal, Nat.zero_mul, nearest_zero]

end Double

namespace Decimal

theorem ofDecimal_strip (negative : Bool) (d : Decimal) :
    Double.ofDecimal negative d.strip.digits d.strip.exponent =
      Double.ofDecimal negative d.digits d.exponent := by
  induction d using strip.induct with
  | case1 d more ih =>
    have whole : 10 * (d.digits / 10) = d.digits := by omega
    rw [strip, dif_pos more, ih, Double.ofDecimal_succ, whole]
  | case2 d done => rw [strip, dif_neg done]

theorem strip_ne_zero {d : Decimal} (h : d.digits ≠ 0) : d.strip.digits ≠ 0 := by
  induction d using strip.induct with
  | case1 d more ih =>
    have rest : d.digits / 10 ≠ 0 := by omega
    rw [strip, dif_pos more]
    exact ih rest
  | case2 d done =>
    rw [strip, dif_neg done]
    exact h

/-- A decimal that is found on a grid reads back. -/
theorem ofDecimal_of_onGrid {x : Double} {negative : Bool} {num den : Nat} {place : Int}
    {d : Decimal} (found : onGrid x negative num den place = some d) :
    Double.ofDecimal negative d.digits d.exponent = x := by
  unfold onGrid at found
  dsimp only at found
  split at found
  · next below above =>
    split at found
    · exact Option.some.inj found ▸ eq_of_beq below
    · exact Option.some.inj found ▸ eq_of_beq above
  · next below _ => exact Option.some.inj found ▸ eq_of_beq below
  · next _ above => exact Option.some.inj found ▸ eq_of_beq above
  · cases found

variable {negative : Bool} {significand : Nat} {exponent : Int}

/-- The decimal that is stripped to the shortest one: it was found on a grid, or it is exact. -/
theorem shortest_cases (negative : Bool) (exponent : Int) (some : significand ≠ 0) : ∃ d : Decimal,
    shortest negative significand exponent = d.strip ∧
      (Double.ofDecimal negative d.digits d.exponent = .finite negative significand exponent ∨
        d = exact significand exponent) := by
  rw [shortest, if_neg some]
  refine ⟨_, rfl, ?_⟩
  cases found : (List.range 17).findSome? fun (n : Nat) =>
      onGrid (.finite negative significand exponent) negative
        (Double.numerator significand exponent) (Double.denominator exponent)
        (scale (Double.numerator significand exponent) (Double.denominator exponent) - (n + 1)) with
  | some d =>
    obtain ⟨n, -, grid⟩ := List.exists_of_findSome?_eq_some found
    exact .inl (ofDecimal_of_onGrid grid)
  | none => exact .inr rfl

theorem shortest_ne_zero (negative : Bool) (exponent : Int) (some : significand ≠ 0) :
    (shortest negative significand exponent).digits ≠ 0 := by
  obtain ⟨d, same, back | exact⟩ := shortest_cases negative exponent some
  all_goals
    rw [same]
    refine strip_ne_zero ?_
  · intro zero
    rw [zero, Double.ofDecimal_zero] at back
    exact some (Double.finite.inj back).2.1.symm
  · rw [exact, Decimal.exact]
    split
    · exact Nat.mul_ne_zero some (Nat.pos_iff_ne_zero.1 (Nat.pow_pos (by decide)))
    · exact Nat.mul_ne_zero some (Nat.pos_iff_ne_zero.1 (Nat.pow_pos (by decide)))

/-- The exact decimal of a number reads back. -/
theorem ofDecimal_exact (some : significand ≠ 0)
    (canonical : Double.IsCanonical significand exponent) :
    Double.ofDecimal negative (exact significand exponent).digits
      (exact significand exponent).exponent = .finite negative significand exponent := by
  have pos (b n : Nat) (some : b ≠ 0) : Nat.pow b n ≠ 0 :=
    Nat.pos_iff_ne_zero.1 (Nat.pow_pos (Nat.pos_of_ne_zero some))
  rw [← Double.nearest_self some canonical, Double.ofDecimal]
  refine Double.nearest_congr negative (pos _ _ (by decide))
    (Nat.pos_iff_ne_zero.1 (Double.denominator_pos _)) ?_
  rw [exact, Double.numerator, Double.denominator]
  simp only [Nat.pow_eq]
  split
  next fraction =>
    have whole : exponent.toNat = 0 := by omega
    have tens : 10 ^ (-exponent).toNat = 5 ^ (-exponent).toNat * 2 ^ (-exponent).toNat := by
      rw [← Nat.mul_pow]
    rw [whole, tens]
    ring
  next whole =>
    have fraction : (-exponent).toNat = 0 := by omega
    rw [fraction]
    simp

/-- The shortest decimal of a number reads back. -/
theorem ofDecimal_shortest (negative : Bool) (some : significand ≠ 0)
    (canonical : Double.IsCanonical significand exponent) :
    Double.ofDecimal negative (shortest negative significand exponent).digits
      (shortest negative significand exponent).exponent =
        .finite negative significand exponent := by
  obtain ⟨d, same, back | rfl⟩ := shortest_cases negative exponent some
  · rw [same, ofDecimal_strip, back]
  · rw [same, ofDecimal_strip, ofDecimal_exact some canonical]

/-- Digits with the point among or before them: `whole` stands before it and `fraction` behind. -/
structure Pointed (digits : List Char) (point : Int) (whole fraction : List Char) : Prop where
  text : ∀ wholeSuffix, positional digits point wholeSuffix = whole ++ '.' :: fraction
  whole_ne_nil : whole ≠ []
  all : (whole ++ fraction).all isDigit = true
  value : digitsValue (whole ++ fraction) = digitsValue digits
  length : (fraction.length : Int) = digits.length - point

theorem exists_pointed {digits : List Char} {point : Int} (all : digits.all isDigit = true)
    (inside : point < digits.length) : ∃ whole fraction, Pointed digits point whole fraction := by
  by_cases before : point ≤ 0
  · refine ⟨['0'], zeros (-point).toNat ++ digits, fun _ => ?_, List.cons_ne_nil _ _, ?_, ?_, ?_⟩
    · rw [positional, if_pos before]
      rfl
    · rw [List.all_append, List.all_append, all, all_isDigit_zeros]
      rfl
    · exact digitsValue_zeros_append ((-point).toNat + 1) digits
    · rw [List.length_append, zeros, List.length_replicate]
      omega
  · have short : ¬ digits.length ≤ point.toNat := by omega
    refine ⟨digits.take point.toNat, digits.drop point.toNat, fun _ => ?_, ?_, ?_, ?_, ?_⟩
    · rw [positional, if_neg before, if_neg short]
    · rw [Ne, List.take_eq_nil_iff]
      rintro (zero | rfl)
      · omega
      · exact short (Nat.zero_le _)
    · rw [List.take_append_drop, all]
    · rw [List.take_append_drop]
    · rw [List.length_drop]
      omega

theorem mem_positional {digits : List Char} {point : Int} {c : Char}
    (all : digits.all isDigit = true) (mem : c ∈ positional digits point []) :
    isDigit c = true ∨ c = '.' := by
  have digit (held : c ∈ digits) : isDigit c = true ∨ c = '.' :=
    .inl (List.all_eq_true.1 all c held)
  have zero {n : Nat} (held : c ∈ zeros n) : isDigit c = true ∨ c = '.' :=
    .inl (List.all_eq_true.1 (all_isDigit_zeros n) c held)
  unfold positional at mem
  split at mem
  · simp only [List.mem_append, List.mem_cons] at mem
    rcases mem with (rfl | point | held) | held
    · exact .inl rfl
    · exact .inr point
    · exact zero held
    · exact digit held
  · split at mem
    · simp only [List.mem_append] at mem
      rcases mem with (held | held) | none
      · exact digit held
      · exact zero held
      · exact absurd none List.not_mem_nil
    · simp only [List.mem_append, List.mem_cons] at mem
      rcases mem with held | point | held
      · exact digit (List.mem_of_mem_take held)
      · exact .inr point
      · exact digit (List.mem_of_mem_drop held)

/-- Behind the digits of a whole number stand its zeros. -/
theorem positional_whole {digits : Nat} (some : digits ≠ 0) (count : Nat)
    (wholeSuffix : List Char) :
    positional (digitsOf digits) ((digitsOf digits).length + count) wholeSuffix =
      digitsOf (digits * 10 ^ count) ++ wholeSuffix := by
  have filled : 0 < (digitsOf digits).length := List.length_pos_iff.2 (digitsOf_ne_nil _)
  have outside : (digitsOf digits).length ≤
      (((digitsOf digits).length : Int) + count).toNat := by omega
  have zeros : (((digitsOf digits).length : Int) + count).toNat - (digitsOf digits).length =
      count := by omega
  rw [positional, if_neg (by omega), if_pos outside, zeros, digitsOf_append_zeros some]

end Decimal

namespace Double

theorem span_digits {digits : List Char} (all : digits.all isDigit = true) :
    digits.span isDigit = (digits, []) := by
  have stop : ((([] : List Char)).head?.any isDigit) = false := rfl
  have ends := span_append all stop
  rw [List.append_nil] at ends
  rw [List.span_eq_takeWhile_dropWhile, ends.1, ends.2]

/-- Digits with a point are read with the exponent that their fraction gives them. -/
theorem readDecimal?_pointed (negative : Bool) {whole fraction : List Char}
    (all : (whole ++ fraction).all isDigit = true) (filled : whole ≠ []) :
    readDecimal? negative (whole ++ '.' :: fraction) =
      some (ofDecimalWide negative (digitsValue (whole ++ fraction)) (-fraction.length)) := by
  rw [List.all_append, Bool.and_eq_true] at all
  have stop : (('.' :: fraction).head?.any isDigit) = false := rfl
  have digits : whole ++ fraction ≠ [] := List.append_ne_nil_of_left_ne_nil filled _
  have behind : readFraction ('.' :: fraction) = (fraction, []) := span_digits all.2
  rw [readDecimal?, List.span_eq_takeWhile_dropWhile, (span_append all.1 stop).1,
    (span_append all.1 stop).2]
  dsimp only
  rw [behind]
  dsimp only
  rw [if_neg digits]
  simp [readExponent?]

/-- Digits alone are read as a whole number. -/
theorem readDecimal?_digits (negative : Bool) {digits : List Char}
    (all : digits.all isDigit = true) (filled : digits ≠ []) :
    readDecimal? negative digits = some (ofDecimalWide negative (digitsValue digits) 0) := by
  rw [readDecimal?, span_digits all]
  simp [readFraction, filled, readExponent?]

theorem readUnsigned?_of_isDigit (negative : Bool) {c : Char} (digit : isDigit c = true)
    (cs : List Char) : readUnsigned? negative (c :: cs) = readDecimal? negative (c :: cs) := by
  have first : (String.ofList ((c :: cs).map Char.toLower)).toList.head? = some c := by
    rw [String.toList_ofList, List.map_cons, toLower_of_isDigit digit]
    rfl
  have word {text : String} (same : String.ofList ((c :: cs).map Char.toLower) = text)
      (letter : (text.toList.head?.any isDigit) = false) : False := by
    rw [← same, first] at letter
    rw [Option.any_some, digit] at letter
    cases letter
  unfold readUnsigned?
  split
  · next same => exact (word same rfl).elim
  · next same => exact (word same rfl).elim
  · next same => exact (word same rfl).elim
  · rfl

/-- A sign before digits is read as it is written. -/
theorem read?_sign (negative : Bool) {c : Char} (digit : isDigit c = true) (cs : List Char) :
    read? (sign negative ++ String.ofList (c :: cs)) = readDecimal? negative (c :: cs) := by
  rw [← readUnsigned?_of_isDigit negative digit, read?, String.toList_append, String.toList_ofList]
  cases negative with
  | true => rfl
  | false =>
    have none : (sign false).toList ++ c :: cs = c :: cs := rfl
    rw [none]
    split
    · next same =>
      obtain ⟨rfl, -⟩ := List.cons.inj same
      exact absurd digit (by decide)
    · next same =>
      obtain ⟨rfl, -⟩ := List.cons.inj same
      exact absurd digit (by decide)
    · rfl

theorem cast_mul_pow_ten (digits : Nat) (exponent : Int) :
    ((digits * Nat.pow 10 exponent.toNat : Nat) : ℚ) / (Nat.pow 10 (-exponent).toNat : Nat) =
      digits * 10 ^ exponent := by
  rw [Nat.pow_eq, Nat.pow_eq, Nat.cast_mul, Nat.cast_pow, Nat.cast_pow, Nat.cast_ofNat]
  obtain ⟨n, rfl | rfl⟩ := exponent.eq_nat_or_neg
  · simp
  · simp [div_eq_mul_inv]

/-- A finite number is near to every decimal that it is read from. -/
theorem rounds_of_ofDecimal {negative sign : Bool} {digits significand : Nat}
    {place exponent : Int} (some : digits ≠ 0)
    (h : ofDecimal negative digits place = finite sign significand exponent) :
    Rounds (digits * 10 ^ place) significand exponent := by
  have pos (n : Nat) : Nat.pow 10 n ≠ 0 := Nat.pos_iff_ne_zero.1 (Nat.pow_pos (by decide))
  rw [← cast_mul_pow_ten]
  exact rounds_of_nearest (Nat.mul_ne_zero some (pos _)) (pos _) h

/-- A decimal lies between the powers of ten that its digits reach. -/
theorem pow_ten_le {digits : Nat} (some : digits ≠ 0) (place : Int) :
    (10 : ℚ) ^ ((Decimal.digitsOf digits).length + place - 1) ≤ digits * 10 ^ place ∧
      (digits * 10 ^ place : ℚ) < 10 ^ ((Decimal.digitsOf digits).length + place) := by
  obtain ⟨low, high⟩ := Decimal.pow_length_digitsOf some
  have filled : 0 < (Decimal.digitsOf digits).length :=
    List.length_pos_iff.2 (Decimal.digitsOf_ne_nil _)
  generalize (Decimal.digitsOf digits).length = count at *
  have ten : (10 : ℚ) ≠ 0 := by norm_num
  have power : (0 : ℚ) < 10 ^ place := zpow_pos (by norm_num) _
  have split : (count : Int) + place - 1 = (count - 1 : Nat) + place := by omega
  rw [split, zpow_add₀ ten, zpow_add₀ ten, zpow_natCast, zpow_natCast]
  exact ⟨mul_le_mul_of_nonneg_right (by exact_mod_cast low) power.le,
    mul_lt_mul_of_pos_right (by exact_mod_cast high) power⟩

/-- A finite number that is not zero lies between the least and the greatest one. -/
theorem IsCanonical.bounds {significand : Nat} {exponent : Int}
    (h : IsCanonical significand exponent) (some : significand ≠ 0) :
    (2 : ℚ) ^ (-1074 : Int) ≤ significand * 2 ^ exponent ∧
      (significand * 2 ^ exponent : ℚ) ≤ 2 ^ (1024 : Int) := by
  have unit : (0 : ℚ) < 2 ^ exponent := zpow_pos two_pos _
  constructor
  · have one : (1 : ℚ) ≤ significand := by exact_mod_cast Nat.pos_of_ne_zero some
    calc (2 : ℚ) ^ (-1074 : Int) ≤ 1 * 2 ^ exponent := by
          rw [one_mul]
          exact zpow_le_zpow_right₀ one_le_two h.least
      _ ≤ significand * 2 ^ exponent := mul_le_mul_of_nonneg_right one unit.le
  · have short : (significand : ℚ) ≤ 2 ^ (53 : Int) := by exact_mod_cast h.short.le
    calc (significand * 2 ^ exponent : ℚ) ≤ 2 ^ (53 : Int) * 2 ^ exponent :=
          mul_le_mul_of_nonneg_right short unit.le
      _ = 2 ^ (53 + exponent) := (zpow_add₀ two_ne_zero _ _).symm
      _ ≤ 2 ^ (1024 : Int) := zpow_le_zpow_right₀ one_le_two (by
          have greatest := h.greatest
          rw [maxExponent] at greatest
          omega)

theorem two_zpow_le_ten (n : Nat) : (2 : ℚ) ^ (3 * n : Int) ≤ 10 ^ (n : Int) := by
  rw [zpow_mul, zpow_natCast, zpow_natCast]
  exact pow_le_pow_left₀ (by norm_num) (by norm_num) n

/-- The decimals that a finite number is read from are neither too small nor too large. -/
theorem place_of_rounds {digits significand : Nat} {place exponent : Int} (some : digits ≠ 0)
    (some' : significand ≠ 0) (h : Rounds (digits * 10 ^ place) significand exponent) :
    -400 ≤ (Decimal.digitsOf digits).length + place ∧
      (Decimal.digitsOf digits).length + place ≤ 400 := by
  obtain ⟨low, high⟩ := pow_ten_le some place
  obtain ⟨least, greatest⟩ := h.canonical.bounds some'
  obtain ⟨below, above⟩ := abs_le.1 h.close
  generalize ((Decimal.digitsOf digits).length : Int) + place = point at *
  generalize (digits * 10 ^ place : ℚ) = quotient at *
  generalize (significand * 2 ^ exponent : ℚ) = value at *
  have ten : (1 : ℚ) ≤ 10 := by norm_num
  constructor
  · by_contra small
    have tiny : quotient < 2 ^ (-1077 : Int) :=
      calc quotient < 10 ^ point := high
        _ ≤ 10 ^ (-(401 : Nat) : Int) := zpow_le_zpow_right₀ ten (by omega)
        _ ≤ 2 ^ (-(3 * (401 : Nat)) : Int) := by
          rw [zpow_neg, zpow_neg]
          exact inv_anti₀ (zpow_pos two_pos _) (two_zpow_le_ten 401)
        _ ≤ 2 ^ (-1077 : Int) := zpow_le_zpow_right₀ one_le_two (by omega)
    have half : (2 : ℚ) ^ (-1075 : Int) = 2 ^ (-1077 : Int) * 2 ^ (2 : Int) :=
      zpow_add₀ two_ne_zero (-1077) 2
    have first : (2 : ℚ) ^ (-1074 : Int) = 2 ^ (-1077 : Int) * 2 ^ (3 : Int) :=
      zpow_add₀ two_ne_zero (-1077) 3
    have pos : (0 : ℚ) < 2 ^ (-1077 : Int) := zpow_pos two_pos _
    rw [half] at above
    rw [first] at least
    generalize (2 : ℚ) ^ (-1077 : Int) = step at *
    linarith
  · by_contra more
    have huge : (2 : ℚ) ^ (1024 : Int) * 2 ^ (2 : Int) ≤ quotient :=
      calc (2 : ℚ) ^ (1024 : Int) * 2 ^ (2 : Int) = 2 ^ (1024 + 2 : Int) :=
            (zpow_add₀ two_ne_zero _ _).symm
        _ ≤ 2 ^ (3 * (400 : Nat) : Int) := zpow_le_zpow_right₀ one_le_two (by omega)
        _ ≤ 10 ^ ((400 : Nat) : Int) := two_zpow_le_ten 400
        _ ≤ 10 ^ (point - 1) := zpow_le_zpow_right₀ ten (by omega)
        _ ≤ quotient := low
    have step : (2 : ℚ) ^ (-1075 : Int) ≤ 1 := zpow_le_one_of_nonpos₀ one_le_two (by omega)
    have large : (1 : ℚ) ≤ 2 ^ (1024 : Int) := one_le_zpow₀ one_le_two (by omega)
    generalize (2 : ℚ) ^ (-1075 : Int) = step at *
    generalize (2 : ℚ) ^ (1024 : Int) = limit at *
    linarith

theorem ofDecimalWide_eq {digits : Nat} {place : Int} (some : digits ≠ 0)
    (low : -400 ≤ (Decimal.digitsOf digits).length + place)
    (high : (Decimal.digitsOf digits).length + place ≤ 400) (negative : Bool) :
    ofDecimalWide negative digits place = ofDecimal negative digits place := by
  rw [ofDecimalWide, if_neg some, if_neg (not_lt.2 high), if_neg (not_lt.2 low)]

/-- The digits of a decimal with its point are read as the number that is nearest to it. -/
theorem read?_positional {digits : Nat} {place : Int} (some : digits ≠ 0)
    (low : -400 ≤ (Decimal.digitsOf digits).length + place)
    (high : (Decimal.digitsOf digits).length + place ≤ 400) (negative : Bool) :
    read? (sign negative ++ String.ofList (Decimal.positional (Decimal.digitsOf digits)
        ((Decimal.digitsOf digits).length + place) [])) =
      .some (ofDecimal negative digits place) := by
  rcases le_or_gt 0 place with whole | fraction
  · obtain ⟨count, rfl⟩ := Int.eq_ofNat_of_zero_le whole
    have grown : digits * 10 ^ count ≠ 0 :=
      Nat.mul_ne_zero some (Nat.pos_iff_ne_zero.1 (Nat.pow_pos (by decide)))
    have length : (Decimal.digitsOf (digits * 10 ^ count)).length =
        (Decimal.digitsOf digits).length + count := by
      rw [← Decimal.digitsOf_append_zeros some, List.length_append, Decimal.zeros,
        List.length_replicate]
    have same : ofDecimal negative (digits * 10 ^ count) 0 = ofDecimal negative digits count := by
      refine ofDecimal_congr negative ?_
      simp
    have all := Decimal.all_isDigit_digitsOf (digits * 10 ^ count)
    have filled := Decimal.digitsOf_ne_nil (digits * 10 ^ count)
    have read := readDecimal?_digits negative all filled
    rw [digitsValue_digitsOf, ofDecimalWide_eq grown (by omega) (by omega), same] at read
    rw [Decimal.positional_whole some, List.append_nil]
    obtain ⟨c, cs, text⟩ := List.exists_cons_of_ne_nil filled
    rw [text] at all read ⊢
    rw [read?_sign negative (Bool.and_eq_true_iff.1 all).1, read]
  · have inside : ((Decimal.digitsOf digits).length : Int) + place <
        (Decimal.digitsOf digits).length := by omega
    obtain ⟨whole, rest, pointed⟩ :=
      Decimal.exists_pointed (Decimal.all_isDigit_digitsOf digits) inside
    have length : (-rest.length : Int) = place := by
      rw [pointed.length]
      omega
    have read := readDecimal?_pointed negative pointed.all pointed.whole_ne_nil
    rw [pointed.value, digitsValue_digitsOf, length, ofDecimalWide_eq some low high] at read
    have all := pointed.all
    rw [pointed.text]
    obtain ⟨c, cs, rfl⟩ := List.exists_cons_of_ne_nil pointed.whole_ne_nil
    rw [List.cons_append] at read ⊢
    rw [read?_sign negative (Bool.and_eq_true_iff.1 all).1, read]

theorem plain_eq {significand : Nat} (some : significand ≠ 0) (negative : Bool) (exponent : Int) :
    (finite negative significand exponent).plain = sign negative ++ String.ofList
      (Decimal.positional (Decimal.digitsOf (Decimal.shortest negative significand exponent).digits)
        ((Decimal.digitsOf (Decimal.shortest negative significand exponent).digits).length +
          (Decimal.shortest negative significand exponent).exponent) []) := by
  rw [plain, shortestDigits, if_neg some]

theorem mem_sign {negative : Bool} {c : Char} (mem : c ∈ (sign negative).toList) : c = '-' := by
  cases negative with
  | true => exact List.mem_singleton.1 mem
  | false => exact absurd mem List.not_mem_nil

/-- What the text of a finite number consists of. -/
theorem mem_render {negative : Bool} {significand : Nat} {exponent : Int} {c : Char}
    (mem : c ∈ (finite negative significand exponent).render.toList) :
    isDigit c = true ∨ c = '-' ∨ c = '.' := by
  have digit {digits : List Char} (all : digits.all isDigit = true) (held : c ∈ digits) :
      isDigit c = true ∨ c = '-' ∨ c = '.' := .inl (List.all_eq_true.1 all c held)
  rw [render] at mem
  split at mem
  · rw [String.toList_append, writeNat, String.toList_ofList, List.mem_append] at mem
    rcases mem with front | held
    · split at front
      · exact absurd front List.not_mem_nil
      · exact .inr (.inl (mem_sign front))
    · exact digit (Decimal.all_isDigit_digitsOf _) held
  · have all : (shortestDigits negative significand exponent).1.all isDigit = true := by
      unfold shortestDigits
      split
      · rfl
      · exact Decimal.all_isDigit_digitsOf _
    rw [plain, String.toList_append, String.toList_ofList, List.mem_append] at mem
    rcases mem with front | held
    · exact .inr (.inl (mem_sign front))
    · rcases Decimal.mem_positional all held with own | point
      · exact .inl own
      · exact .inr (.inr point)

theorem pointed_eq {significand : Nat} (some : significand ≠ 0) (negative : Bool) (exponent : Int) :
    (finite negative significand exponent).pointed = sign negative ++ String.ofList
      (if numerator significand exponent * Nat.pow 10 4 < denominator exponent ∨
          denominator exponent * Nat.pow 10 16 ≤ numerator significand exponent then
        Decimal.scientific
          (Decimal.digitsOf (Decimal.shortest negative significand exponent).digits)
          ((Decimal.digitsOf (Decimal.shortest negative significand exponent).digits).length +
            (Decimal.shortest negative significand exponent).exponent)
      else Decimal.positional
          (Decimal.digitsOf (Decimal.shortest negative significand exponent).digits)
          ((Decimal.digitsOf (Decimal.shortest negative significand exponent).digits).length +
            (Decimal.shortest negative significand exponent).exponent) ['.', '0']) := by
  rw [pointed, shortestDigits, if_neg some]
  simp [some]

/-- Without a fraction a number is written as an integer. -/
theorem plain_of_whole {negative : Bool} {significand count : Nat} {exponent : Int}
    (some : significand ≠ 0)
    (whole : (Decimal.shortest negative significand exponent).exponent = count) :
    (finite negative significand exponent).plain = sign negative ++
      writeNat ((Decimal.shortest negative significand exponent).digits * 10 ^ count) := by
  rw [plain_eq some, whole, Decimal.positional_whole (Decimal.shortest_ne_zero _ _ some),
    List.append_nil, writeNat]

/-- With a fraction a number is written with a point, and in the pointed form as well unless that
has an exponent. -/
theorem plain_of_fraction {negative : Bool} {significand : Nat} {exponent : Int}
    (some : significand ≠ 0)
    (fraction : (Decimal.shortest negative significand exponent).exponent < 0) :
    '.' ∈ (finite negative significand exponent).plain.toList ∧
      ((finite negative significand exponent).pointed =
          (finite negative significand exponent).plain ↔
        ¬ (numerator significand exponent * Nat.pow 10 4 < denominator exponent ∨
          denominator exponent * Nat.pow 10 16 ≤ numerator significand exponent)) := by
  rw [plain_eq some, pointed_eq some]
  generalize (Decimal.shortest negative significand exponent).exponent = place at fraction
  have digits := Decimal.all_isDigit_digitsOf (Decimal.shortest negative significand exponent).digits
  generalize Decimal.digitsOf (Decimal.shortest negative significand exponent).digits = shown at *
  have inside : (shown.length : Int) + place < shown.length := by omega
  obtain ⟨whole, rest, form⟩ := Decimal.exists_pointed digits inside
  have plain : (sign negative ++ String.ofList (whole ++ '.' :: rest)).toList =
      (sign negative).toList ++ (whole ++ '.' :: rest) := by
    rw [String.toList_append, String.toList_ofList]
  rw [form.text, form.text]
  constructor
  · rw [plain]
    simp
  · split
    next exponential =>
      refine iff_of_false (fun same => ?_) (fun none => none exponential)
      have letter : 'e' ∈ Decimal.scientific shown (shown.length + place) := by
        simp [Decimal.scientific]
      rw [← String.toList_inj, String.toList_append, String.toList_append, String.toList_ofList,
        String.toList_ofList, List.append_cancel_left_eq] at same
      rw [same, List.mem_append, List.mem_cons] at letter
      have each := List.all_eq_true.1 form.all
      rcases letter with before | point | behind
      · exact absurd (each _ (List.mem_append_left _ before)) (by decide)
      · cases point
      · exact absurd (each _ (List.mem_append_right _ behind)) (by decide)
    next bare => exact iff_of_true rfl bare

/-- The shortest text of a number is read as the number. -/
theorem read?_plain {significand : Nat} {exponent : Int}
    (canonical : IsCanonical significand exponent) (negative : Bool) :
    read? (finite negative significand exponent).plain =
      some (finite negative significand exponent) := by
  by_cases zero : significand = 0
  · obtain rfl : exponent = minExponent := canonical.full.resolve_left (by rw [zero]; decide)
    rw [zero]
    cases negative <;> decide +kernel
  · have back := Decimal.ofDecimal_shortest negative zero canonical
    have digits := Decimal.shortest_ne_zero negative exponent zero
    obtain ⟨low, high⟩ := place_of_rounds digits zero (rounds_of_ofDecimal digits back)
    rw [plain_eq zero, read?_positional digits low high, back]

/-- The shortest text of a number is canonical exactly when it is the pointed one. -/
theorem isCanonicalFloat_plain {significand : Nat} {exponent : Int}
    (canonical : IsCanonical significand exponent) (negative : Bool) :
    DataType.isCanonicalFloat (finite negative significand exponent).plain = true ↔
      (finite negative significand exponent).pointed =
        (finite negative significand exponent).plain := by
  rw [DataType.isCanonicalFloat, read?_plain canonical]
  exact beq_iff_eq

end Double

end DesignTables
