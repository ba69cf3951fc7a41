import DesignTables.Proofs.Json.Grammar
import DesignTables.Proofs.Lists
import DesignTables.Proofs.Number.Shortest

/-!
# Numbers that are JSON literals as they are written

An integer is one, and so is every finite number in its pointed form: the shortest digits of a
number that is not zero start with one that is not zero.
-/
namespace DesignTables

open Json

namespace Json

theorem isUnsigned_append {digits rest : List Char} (all : digits.all isDigit = true)
    (whole : isWhole digits = true) (stop : (rest.head?.any isDigit) = false)
    (fraction : isFraction rest = true) : isUnsigned (digits ++ rest) = true := by
  obtain ⟨taken, dropped⟩ := span_append all stop
  rw [isUnsigned, taken, dropped, whole, fraction]
  rfl

theorem isWhole_of_head? {digits : List Char} (filled : digits ≠ [])
    (h : digits.head? ≠ some '0') : isWhole digits = true := by
  rw [isWhole, bne_iff_ne.2 h, Bool.or_true, Bool.and_true, Bool.not_eq_true', List.isEmpty_eq_false_iff]
  exact filled

theorem isWhole_digitsOf (n : Nat) : isWhole (Decimal.digitsOf n) = true := by
  by_cases h : n = 0
  · rw [h]
    rfl
  · exact isWhole_of_head? (Decimal.digitsOf_ne_nil n) (Decimal.head?_digitsOf h)

theorem isUnsigned_digitsOf (n : Nat) : isUnsigned (Decimal.digitsOf n) = true := by
  have h : isUnsigned (Decimal.digitsOf n ++ []) = true :=
    isUnsigned_append (Decimal.all_isDigit_digitsOf n) (isWhole_digitsOf n) rfl rfl
  rwa [List.append_nil] at h

/-- Without a sign in front an unsigned number is a number. -/
theorem isNumber_of_isUnsigned {cs : List Char} (h : isUnsigned cs = true) : isNumber cs = true := by
  unfold isNumber
  split
  · cases h
  · exact h

theorem isLiteral_of_isNumber {spelling : String} (h : isNumber spelling.toList = true) :
    isLiteral spelling = true := by
  rw [isLiteral, h, Bool.or_true]

theorem isNumber_writeInt (n : Int) : isNumber (writeInt n).toList = true := by
  cases n with
  | ofNat n =>
    rw [writeInt, writeNat, String.toList_ofList]
    exact isNumber_of_isUnsigned (isUnsigned_digitsOf n)
  | negSucc n =>
    rw [writeInt, String.toList_append]
    change isUnsigned (writeNat (n + 1)).toList = true
    rw [writeNat, String.toList_ofList]
    exact isUnsigned_digitsOf (n + 1)

theorem isLiteral_of_isCanonicalInt {value : String} (h : DataType.isCanonicalInt value = true) :
    isLiteral value = true := by
  unfold DataType.isCanonicalInt at h
  split at h
  · next n _ => exact eq_of_beq h ▸ isLiteral_of_isNumber (isNumber_writeInt n)
  · cases h

/-- Digits may follow the letter of an exponent, with a minus sign or without. -/
theorem isExponent_of_digits {digits : List Char} (all : digits.all isDigit = true)
    (filled : digits ≠ []) :
    isExponent ('e' :: digits) = true ∧ isExponent ('e' :: '-' :: digits) = true := by
  have good : (!digits.isEmpty && digits.all isDigit) = true := by
    rw [all, Bool.and_true, Bool.not_eq_true', List.isEmpty_eq_false_iff]
    exact filled
  constructor
  · unfold isExponent
    rw [Bool.and_eq_true]
    refine ⟨rfl, ?_⟩
    split
    · cases all
    · cases all
    · exact good
  · exact good

theorem isExponent_writeInt (n : Int) : isExponent ('e' :: (writeInt n).toList) = true := by
  cases n with
  | ofNat n =>
    rw [writeInt, writeNat, String.toList_ofList]
    exact (isExponent_of_digits (Decimal.all_isDigit_digitsOf n) (Decimal.digitsOf_ne_nil n)).1
  | negSucc n =>
    rw [writeInt, String.toList_append]
    change isExponent ('e' :: '-' :: (writeNat (n + 1)).toList) = true
    rw [writeNat, String.toList_ofList]
    exact (isExponent_of_digits (Decimal.all_isDigit_digitsOf _) (Decimal.digitsOf_ne_nil _)).2

theorem isFraction_of_digits {digits rest : List Char} (all : digits.all isDigit = true)
    (filled : digits ≠ []) (stop : (rest.head?.any isDigit) = false)
    (exponent : isExponent rest = true) : isFraction ('.' :: (digits ++ rest)) = true := by
  obtain ⟨taken, dropped⟩ := span_append all stop
  rw [isFraction, taken, dropped, exponent, Bool.and_true, Bool.not_eq_true',
    List.isEmpty_eq_false_iff]
  exact filled

/-- The digits of a decimal with the point somewhere are a number. -/
theorem isUnsigned_positional {digits : List Char} {point : Int} (all : digits.all isDigit = true)
    (filled : digits ≠ []) (leading : digits.head? ≠ some '0' ∨ digits = ['0'] ∧ point = 1) :
    isUnsigned (Decimal.positional digits point ['.', '0']) = true := by
  unfold Decimal.positional
  split
  · next small =>
    have fraction : isFraction ('.' :: ((Decimal.zeros (-point).toNat ++ digits) ++ [])) = true := by
      refine isFraction_of_digits ?_ ?_ rfl rfl
      · rw [List.all_append, Decimal.all_isDigit_zeros, all]
        rfl
      · exact List.append_ne_nil_of_right_ne_nil _ filled
    rw [List.append_nil] at fraction
    exact show isUnsigned (['0'] ++ _) = true from isUnsigned_append rfl rfl rfl fraction
  · next positive =>
    split
    · next large =>
      refine isUnsigned_append ?_ ?_ rfl rfl
      · rw [List.all_append, Decimal.all_isDigit_zeros, all]
        rfl
      · rcases leading with leading | ⟨rfl, rfl⟩
        · refine isWhole_of_head? (List.append_ne_nil_of_left_ne_nil filled _) ?_
          rw [List.head?_append_of_ne_nil _ filled]
          exact leading
        · rfl
    · next inside =>
      have head : digits.head? ≠ some '0' := by
        rcases leading with leading | ⟨rfl, rfl⟩
        · exact leading
        · exact absurd (Nat.le_refl 1) inside
      have split : (digits.drop point.toNat ++ ([] : List Char)) = digits.drop point.toNat :=
        List.append_nil _
      have fraction : isFraction ('.' :: (digits.drop point.toNat ++ [])) = true := by
        refine isFraction_of_digits ?_ ?_ rfl rfl
        · exact List.all_eq_true.2 fun c mem => List.all_eq_true.1 all c (List.mem_of_mem_drop mem)
        · rw [Ne, List.drop_eq_nil_iff]
          exact inside
      rw [split] at fraction
      refine isUnsigned_append ?_ (isWhole_of_head? ?_ ?_) rfl fraction
      · exact List.all_eq_true.2 fun c mem => List.all_eq_true.1 all c (List.mem_of_mem_take mem)
      · rw [Ne, List.take_eq_nil_iff]
        rintro (zero | none)
        · omega
        · exact filled none
      · rw [List.head?_take, if_neg (by omega)]
        exact head

/-- The digits of a decimal with an exponent are a number. -/
theorem isUnsigned_scientific {digits : List Char} {point : Int} (all : digits.all isDigit = true)
    (filled : digits ≠ []) (leading : digits.head? ≠ some '0') :
    isUnsigned (Decimal.scientific digits point) = true := by
  have exponent := isExponent_writeInt (point - 1)
  obtain ⟨first, others, rfl⟩ := List.exists_cons_of_ne_nil filled
  have whole : isWhole [first] = true := isWhole_of_head? (List.cons_ne_nil _ _) leading
  rw [List.all_cons, Bool.and_eq_true] at all
  have one : [first].all isDigit = true := by
    rw [List.all_cons, all.1]
    rfl
  unfold Decimal.scientific
  dsimp only
  rw [List.append_assoc]
  refine isUnsigned_append one whole ?_ ?_
  · split <;> rfl
  · split
    · exact exponent
    · next more =>
      refine isFraction_of_digits all.2 ?_ rfl exponent
      rintro rfl
      exact more (Nat.le_refl 1)

theorem isNumber_sign {cs : List Char} (h : isUnsigned cs = true) (negative : Bool) :
    isNumber (Double.sign negative ++ String.ofList cs).toList = true := by
  rw [String.toList_append, String.toList_ofList]
  cases negative with
  | false => exact isNumber_of_isUnsigned h
  | true => exact h

/-- A finite number in its pointed form is a literal. -/
theorem isLiteral_pointed (negative : Bool) (significand : Nat) (exponent : Int) :
    isLiteral (Double.finite negative significand exponent).pointed = true := by
  refine isLiteral_of_isNumber ?_
  unfold Double.pointed Double.shortestDigits
  by_cases zero : significand = 0
  · dsimp only
    rw [if_pos zero, if_neg (by rw [zero]; exact Bool.false_ne_true)]
    exact isNumber_sign (isUnsigned_positional rfl (List.cons_ne_nil _ _) (.inr ⟨rfl, rfl⟩)) negative
  · have all := Decimal.all_isDigit_digitsOf
      (Decimal.shortest negative significand exponent).digits
    have filled := Decimal.digitsOf_ne_nil (Decimal.shortest negative significand exponent).digits
    have leading : (Decimal.digitsOf
        (Decimal.shortest negative significand exponent).digits).head? ≠ some '0' :=
      Decimal.head?_digitsOf (Decimal.shortest_ne_zero _ _ zero)
    dsimp only
    rw [if_neg zero]
    refine isNumber_sign ?_ negative
    split
    · exact isUnsigned_scientific all filled leading
    · exact isUnsigned_positional all filled (.inl leading)

/-- What a floating-point cell holds is a literal, unless it is no number or infinite. -/
theorem isLiteral_of_isCanonicalFloat {value : String}
    (h : DataType.isCanonicalFloat value = true) (finite : value ∉ ["NaN", "inf", "-inf"]) :
    isLiteral value = true := by
  unfold DataType.isCanonicalFloat at h
  split at h
  · next x _ =>
    obtain rfl := eq_of_beq h
    cases x with
    | nan => exact absurd (by decide) finite
    | infinity negative => cases negative <;> exact absurd (by decide) finite
    | finite negative significand exponent => exact isLiteral_pointed negative significand exponent
  · cases h

end Json

end DesignTables
