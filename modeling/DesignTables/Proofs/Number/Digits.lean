import DesignTables.Table.DataType
import Mathlib.Data.Nat.Digits.Lemmas

/-!
# Decimal digits and the numbers that they stand for

Reading takes the digits of a number back to the number, zeros in front aside. So an integer that
is written is read again, and a number always shows something.
-/
namespace DesignTables

theorem toLower_of_isDigit {c : Char} (h : isDigit c = true) : c.toLower = c := by
  rw [isDigit, Bool.and_eq_true, decide_eq_true_eq, decide_eq_true_eq] at h
  have below : c.val ≤ 57 := h.2
  refine dif_neg ?_
  rintro ⟨above, -⟩
  have : (65 : UInt32) ≤ 57 := UInt32.le_trans above below
  exact absurd this (by decide)

/-- Digits told by their codes. -/
theorem isDigit_iff {c : Char} : isDigit c = true ↔ 48 ≤ c.toNat ∧ c.toNat ≤ 57 := by
  rw [isDigit, Bool.and_eq_true, decide_eq_true_eq, decide_eq_true_eq]
  exact Iff.rfl

/-- The characters of a kind at the start of a text, when another one follows them. -/
theorem span_append {p : Char → Bool} {front rest : List Char} (all : front.all p = true)
    (stop : (rest.head?.any p) = false) :
    (front ++ rest).takeWhile p = front ∧ (front ++ rest).dropWhile p = rest := by
  have each := List.all_eq_true.1 all
  rw [List.takeWhile_append_of_pos each, List.dropWhile_append_of_pos each]
  cases rest with
  | nil => exact ⟨List.append_nil _, rfl⟩
  | cons c rest =>
    have other : p c = false := stop
    rw [List.takeWhile_cons_of_neg (by rw [other]; exact Bool.false_ne_true),
      List.dropWhile_cons_of_neg (by rw [other]; exact Bool.false_ne_true)]
    exact ⟨List.append_nil _, rfl⟩

namespace Decimal

theorem all_isDigit_digitsOf (n : Nat) : (digitsOf n).all isDigit = true :=
  List.all_eq_true.2 fun _ mem => Nat.isDigit_of_mem_toDigits (by decide) (Nat.le_refl _) mem

theorem digitsOf_ne_nil (n : Nat) : digitsOf n ≠ [] := Nat.toDigits_ne_nil

/-- The first digit of a number that is not zero. -/
theorem head?_digitsOf {n : Nat} (h : n ≠ 0) : (digitsOf n).head? ≠ some '0' := by
  induction n using Nat.strongRecOn with
  | ind n ih =>
    by_cases small : n < 10
    · have digits : digitsOf n = [n.digitChar] := Nat.toDigits_of_lt_base small
      have one : ∀ n < 10, n ≠ 0 → [n.digitChar].head? ≠ some '0' := by decide
      rw [digits]
      exact one n small h
    · have split : digitsOf n = digitsOf (n / 10) ++ [(n % 10).digitChar] :=
        Nat.toDigits_of_base_le (by decide) (by omega)
      rw [split, List.head?_append_of_ne_nil _ (digitsOf_ne_nil _)]
      exact ih (n / 10) (by omega) (by omega)

theorem all_isDigit_zeros (n : Nat) : (zeros n).all isDigit = true :=
  List.all_eq_true.2 fun _ mem => List.eq_of_mem_replicate mem ▸ rfl

/-- The number of digits of a number that is not zero. -/
theorem pow_length_digitsOf {n : Nat} (h : n ≠ 0) :
    10 ^ ((digitsOf n).length - 1) ≤ n ∧ n < 10 ^ (digitsOf n).length := by
  have some : 0 < (digitsOf n).length := List.length_pos_iff.2 (digitsOf_ne_nil n)
  refine ⟨?_, (Nat.length_toDigits_le_iff (by decide) some).1 (Nat.le_refl _)⟩
  by_cases one : (digitsOf n).length = 1
  · rw [one]
    exact Nat.pos_of_ne_zero h
  · have fewer : 0 < (digitsOf n).length - 1 := by omega
    rw [← Nat.not_lt, ← Nat.length_toDigits_le_iff (by decide) fewer]
    change ¬ (digitsOf n).length ≤ _
    omega

/-- Zeros behind the digits of a number are a power of ten. -/
theorem digitsOf_append_zeros {n : Nat} (h : n ≠ 0) (count : Nat) :
    digitsOf n ++ zeros count = digitsOf (n * 10 ^ count) := by
  induction count with
  | zero => rw [Nat.pow_zero, Nat.mul_one, zeros, List.replicate_zero, List.append_nil]
  | succ count ih =>
    have grown : n * 10 ^ (count + 1) = n * 10 ^ count * 10 := by
      rw [Nat.pow_succ, Nat.mul_assoc]
    have some : 0 < n * 10 ^ count := Nat.mul_pos (Nat.pos_of_ne_zero h) (Nat.pow_pos (by decide))
    have split : digitsOf (n * 10 ^ count * 10) = digitsOf (n * 10 ^ count) ++ ['0'] := by
      have step := Nat.toDigits_of_base_le (b := 10) (n := n * 10 ^ count * 10) (by decide) (by omega)
      rwa [Nat.mul_div_cancel _ (by decide), Nat.mul_mod_left] at step
    rw [grown, split, ← ih, zeros, List.replicate_succ', List.append_assoc]
    rfl

theorem positional_ne_nil {digits : List Char} (filled : digits ≠ []) (point : Int)
    (wholeSuffix : List Char) : positional digits point wholeSuffix ≠ [] := by
  rw [positional]
  split
  · exact List.cons_ne_nil _ _
  · split
    · simp [filled]
    · simp

end Decimal

theorem digitsValue_digitsOf (n : Nat) : digitsValue (Decimal.digitsOf n) = n :=
  Nat.ofDigitChars_toDigits (by decide) (by decide)

theorem digitsValue_concat (front : List Char) (c : Char) :
    digitsValue (front ++ [c]) = 10 * digitsValue front + digitValue c := by
  simp [digitsValue]

theorem digitChar_digitValue {c : Char} (digit : isDigit c = true) :
    digitValue c < 10 ∧ (digitValue c).digitChar = c := by
  have bounds := isDigit_iff.1 digit
  have value : digitValue c = c.toNat - 48 := rfl
  refine ⟨by omega, ?_⟩
  apply Char.toNat_inj.1
  rw [Nat.toNat_digitChar_of_lt_ten (by omega), value]
  omega

/-- Digits that start with no zero are the digits of the number that they stand for. -/
theorem digitsOf_digitsValue {digits : List Char} (filled : digits ≠ [])
    (all : ∀ c ∈ digits, isDigit c = true) (leading : digits.head? ≠ some '0') :
    Decimal.digitsOf (digitsValue digits) = digits := by
  induction digits using List.reverseRecOn with
  | nil => exact absurd rfl filled
  | append_singleton front c ih =>
    obtain ⟨small, same⟩ := digitChar_digitValue (all c (by simp))
    rw [digitsValue_concat]
    by_cases one : front = []
    · have none : digitsValue [] = 0 := rfl
      rw [one, none, Nat.mul_zero, Nat.zero_add, Decimal.digitsOf, Nat.toDigits_of_lt_base small,
        same]
      rfl
    · rw [List.head?_append_of_ne_nil _ one] at leading
      have before := ih one (fun d mem => all d (List.mem_append_left _ mem)) leading
      have some : 0 < digitsValue front := by
        -- A front of value zero would be written `0`, but it starts with no zero.
        apply Nat.pos_of_ne_zero
        intro zero
        rw [zero] at before
        exact leading (before ▸ rfl)
      have split : Decimal.digitsOf (10 * digitsValue front + digitValue c) =
          Decimal.digitsOf ((10 * digitsValue front + digitValue c) / 10) ++
            [((10 * digitsValue front + digitValue c) % 10).digitChar] :=
        Nat.toDigits_of_base_le (by decide) (by omega)
      have quotient : (10 * digitsValue front + digitValue c) / 10 = digitsValue front := by omega
      have remainder : (10 * digitsValue front + digitValue c) % 10 = digitValue c := by omega
      rw [split, quotient, remainder, before, same]

theorem digitsValue_zeros_append (count : Nat) (digits : List Char) :
    digitsValue (Decimal.zeros count ++ digits) = digitsValue digits := by
  rw [digitsValue, List.foldl_append]
  congr 1
  induction count with
  | zero => rfl
  | succ count ih => exact ih

theorem readDigits?_digitsOf (n : Nat) : readDigits? (Decimal.digitsOf n) = some n := by
  rw [readDigits?, if_pos ⟨Decimal.digitsOf_ne_nil n, Decimal.all_isDigit_digitsOf n⟩,
    digitsValue_digitsOf]

/-- A written integer is read again. -/
theorem readInteger?_writeInt {least greatest n : Int} (low : least ≤ n) (high : n ≤ greatest) :
    readInteger? least greatest (writeInt n) = some n := by
  have inside : (decide (least ≤ n) && decide (n ≤ greatest)) = true := by simp [low, high]
  cases n with
  | ofNat n =>
    have digits : (writeInt (.ofNat n)).toList = Decimal.digitsOf n := by
      rw [writeInt, writeNat, String.toList_ofList]
    have all := List.all_eq_true.1 (Decimal.all_isDigit_digitsOf n)
    unfold readInteger?
    rw [digits]
    split
    · next cs same =>
      have wrong := all '-' (same ▸ List.mem_cons_self)
      exact absurd wrong (by decide)
    · next cs same =>
      have wrong := all '+' (same ▸ List.mem_cons_self)
      exact absurd wrong (by decide)
    · rw [readDigits?_digitsOf]
      exact if_pos inside
  | negSucc n =>
    have digits : (writeInt (.negSucc n)).toList = '-' :: Decimal.digitsOf (n + 1) := by
      simp [writeInt, writeNat]
    unfold readInteger?
    rw [digits]
    split
    · next cs same =>
      obtain rfl := (List.cons.inj same).2
      rw [readDigits?_digitsOf]
      exact if_pos inside
    · next cs same => cases same
    · next other _ => exact absurd rfl (other _)

/-- Different integers are written differently. -/
theorem writeInt_inj {m n : Int} : writeInt m = writeInt n ↔ m = n := by
  refine ⟨fun same => ?_, congrArg writeInt⟩
  have read := readInteger?_writeInt (min_le_left m n) (le_max_left m n)
  rw [same, readInteger?_writeInt (min_le_right m n) (le_max_right m n)] at read
  exact (Option.some.inj read).symm

namespace Double

theorem sign_append_writeNat {n : Nat} (some : n ≠ 0) (negative : Bool) :
    sign negative ++ writeNat n = writeInt (if negative then -(n : Int) else n) := by
  obtain ⟨m, rfl⟩ := Nat.exists_eq_succ_of_ne_zero some
  cases negative with
  | true => rfl
  | false => exact String.empty_append

end Double

namespace DataType

theorem isCanonicalInt_iff {value : String} :
    isCanonicalInt value = true ↔ ∃ n, readInt64? value = some n ∧ writeInt n = value := by
  rw [isCanonicalInt]
  cases readInt64? value with
  | none => simp
  | some n => simp

/-- What an integer of 64 bits is written as is canonical. -/
theorem isCanonicalInt_writeInt {n : Int} (low : -2 ^ 63 ≤ n) (high : n < 2 ^ 63) :
    isCanonicalInt (writeInt n) = true := by
  have read : readInt64? (writeInt n) = some n :=
    readInteger?_writeInt (by exact low) (Int.le_sub_one_of_lt high)
  rw [isCanonicalInt, read]
  exact beq_self_eq_true _

theorem isCanonicalInt_sign {n : Nat} (some : n ≠ 0) (high : n < 2 ^ 63) (negative : Bool) :
    isCanonicalInt (Double.sign negative ++ writeNat n) = true := by
  rw [Double.sign_append_writeNat some]
  refine isCanonicalInt_writeInt ?_ ?_
  all_goals
    split
    all_goals omega

/-- An integer is written with digits and a sign. -/
theorem not_mem_of_isCanonicalInt {value : String} (h : isCanonicalInt value = true) {c : Char}
    (other : isDigit c = false) (apart : c ≠ '-') : c ∉ value.toList := by
  obtain ⟨n, -, rfl⟩ := isCanonicalInt_iff.1 h
  have digits (m : Nat) : c ∉ (writeNat m).toList := by
    intro mem
    rw [writeNat, String.toList_ofList] at mem
    rw [List.all_eq_true.1 (Decimal.all_isDigit_digitsOf m) c mem] at other
    cases other
  cases n with
  | ofNat m => exact digits m
  | negSucc m =>
    rw [writeInt, String.toList_append, List.mem_append]
    rintro (sign | mem)
    · exact apart (List.mem_singleton.1 sign)
    · exact digits _ mem

end DataType

namespace Double

theorem plain_ne_empty (x : Double) : x.plain ≠ "" := by
  cases x with
  | nan => decide
  | infinity negative => cases negative <;> decide
  | finite negative significand exponent =>
    have digits : (shortestDigits negative significand exponent).1 ≠ [] := by
      unfold shortestDigits
      split
      · exact List.cons_ne_nil _ _
      · exact Decimal.digitsOf_ne_nil _
    intro empty
    rw [plain, String.append_eq_empty_iff, String.ofList_eq_empty_iff] at empty
    exact Decimal.positional_ne_nil digits _ _ empty.2

/-- A number always shows something. -/
theorem render_ne_empty (x : Double) : x.render ≠ "" := by
  cases x with
  | nan => exact plain_ne_empty .nan
  | infinity negative => exact plain_ne_empty (.infinity negative)
  | finite negative significand exponent =>
    rw [render]
    split
    · intro empty
      rw [String.append_eq_empty_iff, writeNat, String.ofList_eq_empty_iff] at empty
      exact Decimal.digitsOf_ne_nil _ empty.2
    · exact plain_ne_empty _

end Double

end DesignTables
