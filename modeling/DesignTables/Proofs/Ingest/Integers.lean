import DesignTables.Proofs.Json.Numbers
import DesignTables.Proofs.Number.Digits

/-!
# Integer cells have one spelling for each integer

An integer is accepted when it is written as it is printed. So what is accepted can be told by a
grammar: `0`, or a digit from one to nine with any digits behind it, and a minus sign in front if
the integer is negative.
-/
namespace DesignTables

/-- The number that digits stand for. Each of them counts ten times as much as the one behind it. -/
def magnitude (digits : List Char) : Nat := Nat.ofDigits 10 (digits.reverse.map digitValue)

/-- The integer that digits stand for, or that they do behind a minus sign. -/
def numeralValue : List Char → Int
  | '-' :: digits => -(magnitude digits : Int)
  | digits => magnitude digits

/-- The numerals without a needless character: no plus sign, no zero in front, and no minus sign in
front of zero. -/
inductive IsPlainNumeral : List Char → Prop
  | zero : IsPlainNumeral ['0']
  | positive {lead : Char} {digits : List Char} (first : '1' ≤ lead ∧ lead ≤ '9')
    (rest : ∀ c ∈ digits, isDigit c = true) : IsPlainNumeral (lead :: digits)
  | negative {lead : Char} {digits : List Char} (first : '1' ≤ lead ∧ lead ≤ '9')
    (rest : ∀ c ∈ digits, isDigit c = true) : IsPlainNumeral ('-' :: lead :: digits)

theorem magnitude_eq (digits : List Char) : magnitude digits = digitsValue digits := by
  induction digits using List.reverseRecOn with
  | nil => rfl
  | append_singleton front c ih =>
    rw [magnitude] at ih
    rw [digitsValue_concat, ← ih, magnitude, List.reverse_append, List.reverse_singleton,
      List.singleton_append, List.map_cons, Nat.ofDigits_cons, Nat.add_comm]

theorem magnitude_digitsOf (n : Nat) : magnitude (Decimal.digitsOf n) = n := by
  rw [magnitude_eq, digitsValue_digitsOf]

/-- A digit from one to nine is a digit other than zero. -/
theorem isLeading_iff {c : Char} : ('1' ≤ c ∧ c ≤ '9') ↔ isDigit c = true ∧ c ≠ '0' := by
  have codes : ('1' ≤ c ∧ c ≤ '9') ↔ 49 ≤ c.toNat ∧ c.toNat ≤ 57 := Iff.rfl
  have zero : '0'.toNat = 48 := rfl
  rw [codes, isDigit_iff, Ne, ← Char.toNat_inj, zero]
  omega

/-- Without a sign in front a numeral stands for the number of its digits. -/
theorem numeralValue_of_digits {digits : List Char} (all : ∀ c ∈ digits, isDigit c = true) :
    numeralValue digits = magnitude digits := by
  unfold numeralValue
  split
  · next rest =>
    have sign : isDigit '-' = true := all '-' List.mem_cons_self
    cases sign
  · rfl

/-- Digits of a number that is not zero start with one that is not zero. -/
theorem exists_digitsOf {n : Nat} (some : n ≠ 0) : ∃ lead digits,
    Decimal.digitsOf n = lead :: digits ∧ ('1' ≤ lead ∧ lead ≤ '9') ∧
      ∀ c ∈ digits, isDigit c = true := by
  have all := List.all_eq_true.1 (Decimal.all_isDigit_digitsOf n)
  have leading := Decimal.head?_digitsOf some
  obtain ⟨lead, digits, shown⟩ := List.exists_cons_of_ne_nil (Decimal.digitsOf_ne_nil n)
  rw [shown] at all leading
  refine ⟨lead, digits, shown, isLeading_iff.2 ⟨all lead List.mem_cons_self, ?_⟩, ?_⟩
  · exact fun zero => leading (congrArg Option.some zero)
  · exact fun c mem => all c (List.mem_cons_of_mem _ mem)

theorem isDigit_of_mem {lead : Char} {digits : List Char} (first : '1' ≤ lead ∧ lead ≤ '9')
    (rest : ∀ c ∈ digits, isDigit c = true) : ∀ c ∈ lead :: digits, isDigit c = true := by
  rintro c (_ | ⟨_, mem⟩)
  · exact (isLeading_iff.1 first).1
  · exact rest c mem

theorem digitsOf_magnitude {lead : Char} {digits : List Char} (first : '1' ≤ lead ∧ lead ≤ '9')
    (rest : ∀ c ∈ digits, isDigit c = true) :
    Decimal.digitsOf (magnitude (lead :: digits)) = lead :: digits := by
  rw [magnitude_eq]
  apply digitsOf_digitsValue (List.cons_ne_nil _ _) (isDigit_of_mem first rest)
  intro zero
  exact (isLeading_iff.1 first).2 (Option.some.inj zero)

theorem magnitude_ne_zero {lead : Char} {digits : List Char} (first : '1' ≤ lead ∧ lead ≤ '9')
    (rest : ∀ c ∈ digits, isDigit c = true) : magnitude (lead :: digits) ≠ 0 := by
  intro zero
  have written := digitsOf_magnitude first rest
  rw [zero] at written
  exact (isLeading_iff.1 first).2 (List.cons.inj written).1.symm

theorem toList_writeInt_natCast (n : Nat) : (writeInt n).toList = Decimal.digitsOf n := by
  change (writeNat n).toList = _
  rw [writeNat, String.toList_ofList]

theorem toList_writeInt_neg {n : Nat} (some : n ≠ 0) :
    (writeInt (-n)).toList = '-' :: Decimal.digitsOf n := by
  obtain ⟨m, rfl⟩ := Nat.exists_eq_succ_of_ne_zero some
  change (writeInt (.negSucc m)).toList = _
  simp [writeInt, writeNat]

theorem isPlainNumeral_digitsOf {n : Nat} (some : n ≠ 0) :
    IsPlainNumeral (Decimal.digitsOf n) ∧ IsPlainNumeral ('-' :: Decimal.digitsOf n) := by
  obtain ⟨lead, digits, shown, first, rest⟩ := exists_digitsOf some
  rw [shown]
  exact ⟨.positive first rest, .negative first rest⟩

theorem numeralValue_digitsOf (n : Nat) : numeralValue (Decimal.digitsOf n) = n ∧
    numeralValue ('-' :: Decimal.digitsOf n) = -n := by
  have value := magnitude_digitsOf n
  constructor
  · rw [numeralValue_of_digits (List.all_eq_true.1 (Decimal.all_isDigit_digitsOf n)), value]
  · rw [numeralValue, value]

/-- What an integer is written as is a plain numeral for it. -/
theorem isPlainNumeral_writeInt (n : Int) :
    IsPlainNumeral (writeInt n).toList ∧ numeralValue (writeInt n).toList = n := by
  rcases eq_or_ne n 0 with rfl | some
  · exact ⟨.zero, rfl⟩
  obtain ⟨m, rfl | rfl⟩ := n.eq_nat_or_neg
  · have filled : m ≠ 0 := by simpa using some
    rw [toList_writeInt_natCast]
    exact ⟨(isPlainNumeral_digitsOf filled).1, (numeralValue_digitsOf m).1⟩
  · have filled : m ≠ 0 := by simpa using some
    rw [toList_writeInt_neg filled]
    exact ⟨(isPlainNumeral_digitsOf filled).2, (numeralValue_digitsOf m).2⟩

/-- A plain numeral is what its integer is written as. -/
theorem writeInt_numeralValue {cs : List Char} (plain : IsPlainNumeral cs) :
    (writeInt (numeralValue cs)).toList = cs := by
  cases plain with
  | zero => rfl
  | positive first rest =>
    rw [numeralValue_of_digits (isDigit_of_mem first rest), toList_writeInt_natCast,
      digitsOf_magnitude first rest]
  | negative first rest =>
    rw [numeralValue, toList_writeInt_neg (magnitude_ne_zero first rest),
      digitsOf_magnitude first rest]

theorem readInteger?_bounds {least greatest n : Int} {s : String}
    (read : readInteger? least greatest s = some n) : least ≤ n ∧ n ≤ greatest := by
  have inside := (Option.filter_eq_some_iff.1 read).2
  simpa using inside

namespace DataType

/-- A canonical integer is what some integer of 64 bits is written as. -/
theorem isCanonicalInt_iff_writeInt {value : String} : isCanonicalInt value = true ↔
    ∃ n : Int, -2 ^ 63 ≤ n ∧ n < 2 ^ 63 ∧ writeInt n = value := by
  constructor
  · intro canonical
    obtain ⟨n, read, written⟩ := isCanonicalInt_iff.1 canonical
    obtain ⟨low, high⟩ := readInteger?_bounds read
    exact ⟨n, low, Int.lt_of_le_sub_one high, written⟩
  · rintro ⟨n, low, high, rfl⟩
    exact isCanonicalInt_writeInt low high

theorem fault_eq_none_iff {type : DataType} (integer : type = .int ∨ type = .long)
    {value : String} : type.fault value = none ↔ isCanonicalInt value = true := by
  have empty : isCanonicalInt "" = false := by decide
  rw [fault]
  split
  next none =>
    obtain rfl := String.isEmpty_iff.1 none
    rw [empty]
    rcases integer with rfl | rfl <;> simp [emptyFault]
  next =>
    rcases integer with rfl | rfl <;> simp [formFault]

/-- What an integer column accepts is the one plain numeral of an integer of 64 bits. -/
theorem accepts_iff_exists {type : DataType} (integer : type = .int ∨ type = .long)
    {value : String} : type.fault value = none ↔
      ∃ n : Int, -2 ^ 63 ≤ n ∧ n < 2 ^ 63 ∧ writeInt n = value := by
  rw [fault_eq_none_iff integer, isCanonicalInt_iff_writeInt]

/-- An integer column accepts the plain numerals of the integers of 64 bits and nothing else. No two
of these texts stand for one integer, and each of the integers has such a text. An accepted text is
read as the integer that it stands for, and it is a JSON number. -/
theorem integers_spelled_once {type : DataType} (integer : type = .int ∨ type = .long) :
    (∀ value : String, type.fault value = none ↔
      IsPlainNumeral value.toList ∧
        -2 ^ 63 ≤ numeralValue value.toList ∧ numeralValue value.toList < 2 ^ 63) ∧
    (∀ value value' : String, type.fault value = none → type.fault value' = none →
      numeralValue value.toList = numeralValue value'.toList → value = value') ∧
    (∀ n : Int, -2 ^ 63 ≤ n → n < 2 ^ 63 →
      ∃ value : String, type.fault value = none ∧ numeralValue value.toList = n) ∧
    ∀ value : String, type.fault value = none →
      readInt64? value = some (numeralValue value.toList) ∧
        Json.isNumber value.toList = true := by
  refine ⟨?_, ?_, ?_, ?_⟩
  · intro value
    rw [accepts_iff_exists integer]
    constructor
    · rintro ⟨n, low, high, rfl⟩
      obtain ⟨plain, same⟩ := isPlainNumeral_writeInt n
      rw [same]
      exact ⟨plain, low, high⟩
    · rintro ⟨plain, low, high⟩
      exact ⟨numeralValue value.toList, low, high,
        String.toList_inj.1 (writeInt_numeralValue plain)⟩
  · intro value value' accepted accepted' same
    obtain ⟨n, -, -, rfl⟩ := (accepts_iff_exists integer).1 accepted
    obtain ⟨n', -, -, rfl⟩ := (accepts_iff_exists integer).1 accepted'
    rw [(isPlainNumeral_writeInt n).2, (isPlainNumeral_writeInt n').2] at same
    rw [same]
  · intro n low high
    exact ⟨writeInt n, (accepts_iff_exists integer).2 ⟨n, low, high, rfl⟩,
      (isPlainNumeral_writeInt n).2⟩
  · intro value accepted
    obtain ⟨n, low, high, rfl⟩ := (accepts_iff_exists integer).1 accepted
    rw [(isPlainNumeral_writeInt n).2]
    exact ⟨readInteger?_writeInt low (Int.le_sub_one_of_lt high), Json.isNumber_writeInt n⟩

/-- The least integer has a numeral that is accepted; the one that its size would have without the
sign is too large. -/
theorem integers_spelled_once_least :
    (DataType.long = .int ∨ DataType.long = .long) ∧
      DataType.long.fault "-9223372036854775808" = none ∧
      IsPlainNumeral "-9223372036854775808".toList ∧
      DataType.long.fault "9223372036854775808" = some .intValueError ∧
      ¬ numeralValue "9223372036854775808".toList < 2 ^ 63 := by
  have integer : DataType.long = .int ∨ DataType.long = .long := .inr rfl
  have accepted : DataType.long.fault "-9223372036854775808" = none := by decide
  have spelled := (integers_spelled_once integer).1
  exact ⟨integer, accepted, ((spelled _).1 accepted).1, by decide, by decide⟩

end DataType

end DesignTables
