import DesignTables.Proofs.Ingest.Readings
import DesignTables.Proofs.Number.Shortest

/-!
# Numbers in cells and the check of their own type

A number is rounded to whole units of eight decimal places and stored with its fewest digits. The
check accepts a text that is written as an integer or in the pointed form. Both are written alike
from one ten-thousandth on; below, the pointed form has an exponent and the stored text has not.
-/
namespace DesignTables

namespace Double

/-- The number of units of eight decimal places that a finite number is rounded to. -/
def units (significand : Nat) (exponent : Int) : Nat :=
  roundDiv (numerator significand exponent * Nat.pow 10 8) (denominator exponent)

theorem roundPlaces_eq (negative : Bool) (significand : Nat) (exponent : Int) :
    (finite negative significand exponent).roundPlaces 8 =
      ofDecimal negative (units significand exponent) (-8) := rfl

theorem units_le {significand : Nat} {exponent : Int}
    (small : numerator significand exponent < 10 ^ 15 * denominator exponent) :
    units significand exponent ≤ 10 ^ 23 := by
  obtain ⟨near, -⟩ := roundDiv_near (denominator_pos exponent)
    (numerator significand exponent * Nat.pow 10 8)
  change 2 * (denominator exponent * units significand exponent) ≤ _ at near
  have power : Nat.pow 10 8 = 10 ^ 8 := rfl
  have less : denominator exponent * (2 * units significand exponent) <
      denominator exponent * (2 * 10 ^ 23 + 1) := by
    rw [power] at near
    linarith
  have := Nat.lt_of_mul_lt_mul_left less
  omega

/-- A number is near to the quotient that it is rounded from, unless that is very small. -/
theorem Rounds.near {quotient : ℚ} {significand : Nat} {exponent : Int}
    (h : Rounds quotient significand exponent) (low : 1 / 10 ^ 8 ≤ quotient) :
    |significand * 2 ^ exponent - quotient| ≤ quotient / 2 ^ 52 := by
  have step : (2 : ℚ) ^ (-1075 : Int) ≤ 1 / 2 ^ 80 := by
    have power : (1 / 2 ^ 80 : ℚ) = 2 ^ (-80 : Int) := by rw [zpow_neg, one_div]; rfl
    rw [power]
    exact zpow_le_zpow_right₀ one_le_two (by omega)
  have close := h.close
  generalize (2 : ℚ) ^ (-1075 : Int) = least at *
  linarith

/-- A decimal that is not too large is read as a finite number. -/
theorem exists_ofDecimal {units : Nat} (some : units ≠ 0) (le : units ≤ 10 ^ 23)
    (negative : Bool) : ∃ significand exponent, significand ≠ 0 ∧
      ofDecimal negative units (-8) = finite negative significand exponent ∧
      Rounds (units / 10 ^ 8) significand exponent := by
  have high : (units : ℚ) ≤ 10 ^ 23 := by exact_mod_cast le
  have low : (1 : ℚ) ≤ units := by exact_mod_cast Nat.pos_of_ne_zero some
  have ratio : ((units * Nat.pow 10 (-8 : Int).toNat : Nat) : ℚ) /
      (Nat.pow 10 (-(-8 : Int)).toNat : Nat) = units / 10 ^ 8 := by
    rw [cast_mul_pow_ten, zpow_neg, div_eq_mul_inv]
    rfl
  have small : (units / 10 ^ 8 : ℚ) < 2 ^ (1023 : Int) := by
    have limit : (2 : ℚ) ^ (100 : Int) ≤ 2 ^ (1023 : Int) := zpow_le_zpow_right₀ one_le_two (by omega)
    refine lt_of_lt_of_le ?_ limit
    rw [div_lt_iff₀ (by norm_num)]
    exact high.trans_lt (by norm_num)
  have filled : units * Nat.pow 10 (-8 : Int).toNat ≠ 0 := Nat.mul_ne_zero some (by decide)
  have ten : Nat.pow 10 (-(-8 : Int)).toNat ≠ 0 := by decide
  obtain ⟨significand, exponent, same, rounds⟩ :=
    exists_nearest filled ten negative (by rw [ratio]; exact small)
  rw [ratio] at rounds
  refine ⟨significand, exponent, ?_, same, rounds⟩
  rintro rfl
  have near := rounds.near (by rw [div_le_div_iff_of_pos_right (by norm_num)]; exact low)
  rw [Nat.cast_zero, zero_mul, zero_sub, abs_neg, abs_of_pos (by positivity)] at near
  linarith

/-- A number that is not too large is stored with the text of a finite number. -/
theorem exists_normalize_eq_render (negative : Bool) {significand : Nat} {exponent : Int}
    (small : numerator significand exponent < 10 ^ 15 * denominator exponent) :
    ∃ significand' exponent',
      ofDecimal negative (units significand exponent) (-8) = finite negative significand' exponent' ∧
      (finite negative significand exponent).normalize =
        (finite negative significand' exponent').render := by
  rw [normalize, roundPlaces_eq]
  by_cases zero : units significand exponent = 0
  · exact ⟨0, minExponent, by rw [zero, ofDecimal_zero], by rw [zero, ofDecimal_zero]⟩
  · obtain ⟨significand', exponent', -, same, -⟩ := exists_ofDecimal zero (units_le small) negative
    exact ⟨significand', exponent', same, by rw [same]⟩

/-- The pointed form of a number has an exponent when the number is below one ten-thousandth. -/
theorem isSmall_iff (significand : Nat) (exponent : Int) :
    numerator significand exponent * Nat.pow 10 4 < denominator exponent ↔
      (significand * 2 ^ exponent : ℚ) < 1 / 10 ^ 4 := by
  have pos : (0 : ℚ) < denominator exponent := Nat.cast_pos.2 (denominator_pos _)
  rw [← value_eq, div_lt_div_iff₀ pos (by norm_num), one_mul, Nat.pow_eq]
  norm_cast

/-- The pointed form of a number has an exponent when the number is `10 ^ 16` or more. -/
theorem isLarge_iff (significand : Nat) (exponent : Int) :
    denominator exponent * Nat.pow 10 16 ≤ numerator significand exponent ↔
      (10 ^ 16 : ℚ) ≤ significand * 2 ^ exponent := by
  have pos : (0 : ℚ) < denominator exponent := Nat.cast_pos.2 (denominator_pos _)
  rw [← value_eq, le_div_iff₀ pos, mul_comm, Nat.pow_eq]
  norm_cast

/-- The rounded number is below one ten-thousandth when the units are below ten thousand. -/
theorem lt_iff_units {units significand : Nat} {exponent : Int} {negative : Bool}
    (some : units ≠ 0) (same : ofDecimal negative units (-8) = finite negative significand exponent)
    (h : Rounds (units / 10 ^ 8) significand exponent) :
    (significand * 2 ^ exponent : ℚ) < 1 / 10 ^ 4 ↔ units < 10 ^ 4 := by
  have low : (1 : ℚ) ≤ units := by exact_mod_cast Nat.pos_of_ne_zero some
  obtain ⟨below, above⟩ := abs_le.1 (h.near (by
    rw [div_le_div_iff_of_pos_right (by norm_num)]
    exact low))
  rcases Nat.lt_trichotomy units (10 ^ 4) with less | equal | more
  · refine iff_of_true ?_ less
    have bound : (units : ℚ) + 1 ≤ 10 ^ 4 := by exact_mod_cast less
    linarith
  · -- One ten-thousandth is rounded up, as no number has exactly this value.
    refine iff_of_false ?_ equal.not_lt
    have number : ofDecimal negative (10 ^ 4) (-8) =
        finite negative 7378697629483821 (-66) := by
      cases negative <;> decide
    rw [equal, number] at same
    obtain ⟨-, rfl, rfl⟩ := finite.inj same
    norm_num
  · refine iff_of_false (not_lt.2 ?_) more.not_gt
    have bound : (10 ^ 4 + 1 : ℚ) ≤ units := by exact_mod_cast more
    linarith

/-- A number that is written without a fraction is one at least, and fits into 64 bits when it is
not large. -/
theorem whole_bounds {negative : Bool} {significand count : Nat} {exponent : Int}
    (some : significand ≠ 0) (canonical : IsCanonical significand exponent)
    (whole : (Decimal.shortest negative significand exponent).exponent = count)
    (high : (significand * 2 ^ exponent : ℚ) < 10 ^ 16) :
    (1 / 2 : ℚ) < significand * 2 ^ exponent ∧
      (Decimal.shortest negative significand exponent).digits * 10 ^ count < 2 ^ 63 := by
  have digits := Decimal.shortest_ne_zero negative exponent some
  have rounds := rounds_of_ofDecimal digits (Decimal.ofDecimal_shortest negative some canonical)
  rw [whole, zpow_natCast] at rounds
  generalize (Decimal.shortest negative significand exponent).digits = shown at *
  have cast : (shown * 10 ^ count : ℚ) = (shown * 10 ^ count : Nat) := by push_cast; rfl
  have low : (1 : ℚ) ≤ (shown * 10 ^ count : Nat) :=
    Nat.one_le_cast.2 (Nat.mul_pos (Nat.pos_of_ne_zero digits) (Nat.pow_pos (by decide)))
  rw [cast] at rounds
  generalize shown * 10 ^ count = number at *
  obtain ⟨below, above⟩ := abs_le.1 (rounds.near (by linarith))
  refine ⟨by linarith, ?_⟩
  have bound : (number : ℚ) < 2 ^ 63 := by linarith
  exact_mod_cast bound

/-- A number other than zero that the denominator divides is one at least. -/
theorem whole_quotient {significand : Nat} {exponent : Int} (some : significand ≠ 0)
    (whole : numerator significand exponent % denominator exponent = 0) :
    numerator significand exponent ≠ 0 ∧
      numerator significand exponent / denominator exponent ≠ 0 ∧
      denominator exponent ≤ numerator significand exponent := by
  have filled : numerator significand exponent ≠ 0 :=
    Nat.mul_ne_zero some (Nat.pos_iff_ne_zero.1 (Nat.pow_pos (by decide)))
  have one := Nat.le_of_dvd (Nat.pos_of_ne_zero filled) (Nat.dvd_of_mod_eq_zero whole)
  exact ⟨filled, (Nat.div_pos one (denominator_pos exponent)).ne', one⟩

/-- A number that is neither very small nor a fraction below one ten-thousandth. -/
theorem accepts_render_iff {units : Nat} (le : units ≤ 10 ^ 23) (negative : Bool) :
    (DataType.isCanonicalFloat (ofDecimal negative units (-8)).render ||
        DataType.isCanonicalInt (ofDecimal negative units (-8)).render) = true ↔
      units = 0 ∨ 10 ^ 4 ≤ units := by
  by_cases zero : units = 0
  · have shown : (finite negative 0 minExponent).render = "0" := by
      cases negative <;> decide +kernel
    have fine : DataType.isCanonicalInt "0" = true := by decide
    rw [zero, ofDecimal_zero, shown, fine, Bool.or_true]
    exact iff_of_true rfl (.inl rfl)
  obtain ⟨significand, exponent, some, same, rounds⟩ := exists_ofDecimal zero le negative
  have small := lt_iff_units zero same rounds
  have high : (significand * 2 ^ exponent : ℚ) < 10 ^ 16 := by
    have low : (1 : ℚ) ≤ units := by exact_mod_cast Nat.pos_of_ne_zero zero
    have bound : (units : ℚ) ≤ 10 ^ 23 := by exact_mod_cast le
    have above := (abs_le.1 (rounds.near (by linarith))).2
    linarith
  have notLarge := mt (isLarge_iff significand exponent).1 (not_le.2 high)
  rw [same, or_iff_right zero, ← not_lt, ← small, ← isSmall_iff, Bool.or_eq_true, render]
  split
  next whole =>
    obtain ⟨filled, number, one⟩ := whole_quotient some whole.1
    have fits : numerator significand exponent / denominator exponent < 2 ^ 63 :=
      lt_trans whole.2 (by decide)
    rw [if_neg filled]
    refine iff_of_true (.inr (DataType.isCanonicalInt_sign number fits negative)) ?_
    have power : Nat.pow 10 4 = 10000 := rfl
    rw [power]
    omega
  next other =>
    rcases le_or_gt 0 (Decimal.shortest negative significand exponent).exponent with
      whole | fraction
    · obtain ⟨count, whole⟩ := Int.eq_ofNat_of_zero_le whole
      obtain ⟨half, fits⟩ := whole_bounds some rounds.canonical whole high
      have filled : (Decimal.shortest negative significand exponent).digits * 10 ^ count ≠ 0 :=
        Nat.mul_ne_zero (Decimal.shortest_ne_zero _ _ some)
          (Nat.pos_iff_ne_zero.1 (Nat.pow_pos (by decide)))
      rw [plain_of_whole some whole, isSmall_iff]
      refine iff_of_true (.inr (DataType.isCanonicalInt_sign filled fits negative)) ?_
      linarith
    · obtain ⟨point, pointed⟩ := plain_of_fraction some fraction
      have notInt : ¬ DataType.isCanonicalInt (finite negative significand exponent).plain = true :=
        fun int => DataType.not_mem_of_isCanonicalInt int (by decide) (by decide) point
      rw [isCanonicalFloat_plain rounds.canonical, pointed, or_iff_left notInt,
        or_iff_left notLarge]

end Double

namespace CellReading

variable {column : Column}

/-- The text of a finite number is no word and has one line. -/
theorem plainText_render (negative : Bool) (significand : Nat) (exponent : Int) :
    isNull (Double.finite negative significand exponent).render = false ∧
      ((Double.finite negative significand exponent).render.toList.any
        fun c => c = '\r' || c = '\n') = false := by
  generalize shown : (Double.finite negative significand exponent).render = value
  have each : ∀ c ∈ value.toList, isDigit c = true ∨ c = '-' ∨ c = '.' :=
    fun c mem => Double.mem_render (shown ▸ mem)
  constructor
  · rw [isNull, Text.eqIgnoringCase, beq_eq_false_iff_ne]
    intro same
    have letter : 'n' ∈ (Text.asciiLower "null").toList := by decide
    rw [← same, Text.asciiLower, String.toList_ofList] at letter
    obtain ⟨c, mem, lower⟩ := List.mem_map.1 letter
    rcases each c mem with digit | rfl | rfl
    · rw [toLower_of_isDigit digit] at lower
      rw [lower] at digit
      exact absurd digit (by decide)
    · exact absurd lower (by decide)
    · exact absurd lower (by decide)
  · rw [List.any_eq_false]
    intro c mem line
    rcases each c mem with digit | rfl | rfl
    · simp only [Bool.or_eq_true, decide_eq_true_eq] at line
      rcases line with rfl | rfl <;> exact absurd digit (by decide)
    · exact absurd line (by decide)
    · exact absurd line (by decide)

/-- In a column of plain numbers a word of one line has no problem unless its type refuses it. -/
theorem problems_of_word {cell : Cell} {value : String}
    (number : typeOf column = .float ∨ typeOf column = .double)
    (one : column.isArray = false) (before : column.before = none) (after : column.after = none)
    (read : text column cell = value) (filled : value ≠ "") (word : isNull value = false)
    (line : (value.toList.any fun c => c = '\r' || c = '\n') = false) :
    (ofCell column cell).problems =
      if DataType.isCanonicalFloat value || DataType.isCanonicalInt value then []
      else [.refusedValue .floatValueError value] := by
  have same : afterNull column value = value := by
    rw [afterNull, word, Bool.false_and, if_neg Bool.false_ne_true]
  have bare : decorated column value = value := by simp [decorated, before, after]
  have size : sizeProblem column (column.elements value) value = [] := by
    rw [sizeProblem, one]
    split <;> rfl
  have fault : typeFault column (column.elements value) value =
      if DataType.isCanonicalFloat value || DataType.isCanonicalInt value then none
      else some .floatValueError := by
    have some : value.isEmpty = false := by simpa using filled
    rw [typeFault, one, if_neg Bool.false_ne_true, DataType.fault, some,
      if_neg Bool.false_ne_true]
    rcases number with h | h <;> rw [h, DataType.formFault]
  rw [ofCell]
  dsimp only
  rw [read, same, bare, word, line, size, fault, Bool.false_and, if_neg Bool.false_ne_true,
    if_neg Bool.false_ne_true]
  split <;> rfl

/-- In a column of plain numbers a number below `10 ^ 15` has no problem, unless it is rounded to
less than one ten-thousandth but not to zero: then the text that it is stored with is refused. -/
theorem problems_of_number (type : column.dataType = some .float ∨ column.dataType = some .double)
    (one : column.isArray = false) (before : column.before = none) (after : column.after = none)
    {negative : Bool} {significand : Nat} {exponent : Int}
    (small : Double.numerator significand exponent < 10 ^ 15 * Double.denominator exponent) :
    (ofCell column (.number (.finite negative significand exponent))).problems =
      if 0 < Double.units significand exponent ∧ Double.units significand exponent < 10 ^ 4 then
        [.refusedValue .floatValueError (Double.finite negative significand exponent).normalize]
      else [] := by
  have number : typeOf column = .float ∨ typeOf column = .double := by
    rw [typeOf]
    exact type.imp (fun same => by rw [same]; rfl) (fun same => by rw [same]; rfl)
  have shown : text column (.number (.finite negative significand exponent)) =
      (Double.finite negative significand exponent).normalize := by
    have numeric : (typeOf column).isNumeric = true := by rcases number with h | h <;> rw [h] <;> rfl
    simp [text, numeric, one]
  have accepts := Double.accepts_render_iff (Double.units_le small) negative
  obtain ⟨significand', exponent', same, normal⟩ :=
    Double.exists_normalize_eq_render negative small
  rw [same, ← normal] at accepts
  obtain ⟨word, line⟩ := plainText_render negative significand' exponent'
  have filled := Double.render_ne_empty (.finite negative significand' exponent')
  rw [← normal] at word line filled
  rw [problems_of_word number one before after shown filled word line]
  refine (if_congr (accepts.trans ?_) rfl rfl).trans (ite_not _ _ _)
  omega

/-- A column of depths. -/
def depth : Column := { Column.plain 2 "depth" .data with dataType := some .float }

/-- One ten-thousandth is the least number that is accepted. -/
theorem problems_of_number_tenThousandth :
    Double.ofDecimal false 1 (-4) = .finite false 7378697629483821 (-66) ∧
    (ofCell depth (.number (.finite false 7378697629483821 (-66)))).problems = [] :=
  ⟨by decide, (problems_of_number (.inl rfl) rfl rfl rfl (by decide)).trans
    (if_neg (by decide))⟩

end CellReading

namespace RowIngest

/-- A well whose depth is half of one ten-thousandth. -/
def wells : Sheet := ⟨"wells", Grid.ofRows
  [[], [.text "#data", .text "id", .text "depth"], [.empty, .text "key,int", .text "float"],
   [.empty, .text "data", .text "data"],
   [.empty, .text "1", .number (.ofDecimal false 5 (-5))]]⟩

/-- The depth is stored as `0.00005`, and this text is refused. -/
theorem not_problems_of_number_wells : ∃ schema,
    Header.compile? wells ⟨"", "wells.xlsx", "wells"⟩ [] = some schema ∧ schema.isClean = true ∧
    (ofGrid schema wells.grid).rows.map (·.cells) = [["1", "0.00005"]] ∧
    (ofGrid schema wells.grid).diagnostics.map (fun found => (found.code, found.address)) =
      [(.floatValueError, "C5")] ∧
    (Double.ofDecimal false 5 (-5)).isFinite = true ∧
    ∀ given ∈ schema.slots, given.1.title = "depth" → given.1.dataType = some .float ∧
      given.1.isArray = false ∧ given.1.before = none ∧ given.1.after = none := by
  have found : (Header.compile? wells ⟨"", "wells.xlsx", "wells"⟩ []).isSome := by decide
  obtain ⟨schema, compiled⟩ := Option.isSome_iff_exists.1 found
  have facts : ∀ schema ∈ Header.compile? wells ⟨"", "wells.xlsx", "wells"⟩ [],
      schema.isClean = true ∧
      (ofGrid schema wells.grid).rows.map (·.cells) = [["1", "0.00005"]] ∧
      (ofGrid schema wells.grid).diagnostics.map (fun found => (found.code, found.address)) =
        [(.floatValueError, "C5")] ∧
      (Double.ofDecimal false 5 (-5)).isFinite = true ∧
      ∀ given ∈ schema.slots, given.1.title = "depth" → given.1.dataType = some .float ∧
        given.1.isArray = false ∧ given.1.before = none ∧ given.1.after = none := by
    decide +kernel
  exact ⟨schema, compiled, facts schema compiled⟩

end RowIngest

end DesignTables
