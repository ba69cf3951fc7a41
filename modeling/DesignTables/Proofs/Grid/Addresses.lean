import DesignTables.Proofs.Number.Digits
import DesignTables.Report.Row
import Mathlib.Logic.Function.Iterate

/-!
# Addresses of cells can be read again

The letters of a column are a numeral in base twenty-six that has no zero: `A` is one and `Z`
twenty-six. Every column has one such numeral, so an address tells the column and the row that it
was made of.

A column is a word of 64 bits. `wordLetters` takes the letters off such a word, and nothing in it
leaves the word, so they are those of the number that the word holds. Every word of capital letters
is the numeral of one number, but not every such number fits: words of up to thirteen letters do,
and words of fifteen letters and more do not.
-/
namespace DesignTables

/-- What a capital letter counts as a digit: `A` is one and `Z` twenty-six. -/
def letterValue (c : Char) : Nat := c.toNat - 'A'.toNat + 1

/-- The column that letters stand for. Each of them counts twenty-six times as much as the one
behind it. -/
def columnNumber (letters : List Char) : Nat := Nat.ofDigits 26 (letters.reverse.map letterValue)

/-- What is left of a column when its last letter is taken off. -/
def withoutLetter (column : Nat) : Nat := (column - 1) / 26

/-- The column and the row that a text names with letters and digits. -/
def readAddress? (s : String) : Option (Nat × Nat) :=
  let letters := s.toList.takeWhile Char.isUpper
  let digits := s.toList.dropWhile Char.isUpper
  if letters = [] then none else (readDigits? digits).map fun row => (columnNumber letters, row)

theorem letterValue_letter {digit : Nat} (small : digit < 26) :
    letterValue (letter digit) = digit + 1 := by
  have all : ∀ digit < 26, letterValue (letter digit) = digit + 1 := by decide
  exact all digit small

theorem isUpper_letter {digit : Nat} (small : digit < 26) : (letter digit).isUpper = true := by
  have all : ∀ digit < 26, (letter digit).isUpper = true := by decide
  exact all digit small

/-- Capital letters told by their codes. -/
theorem isUpper_iff {c : Char} : c.isUpper = true ↔ 65 ≤ c.toNat ∧ c.toNat ≤ 90 := by
  have codes : c.isUpper = decide (65 ≤ c.val ∧ c.val ≤ 90) := rfl
  rw [codes, decide_eq_true_eq]
  exact Iff.rfl

/-- A capital letter is the letter of its value. -/
theorem letter_of_isUpper {c : Char} (upper : c.isUpper = true) :
    ∃ digit < 26, letterValue c = digit + 1 ∧ letter digit = c := by
  have bounds := isUpper_iff.1 upper
  have capital : 'A'.toNat = 65 := rfl
  refine ⟨c.toNat - 65, by omega, by rw [letterValue, capital], ?_⟩
  rw [letter, capital, Nat.add_sub_cancel' bounds.1, Char.ofNat_toNat]

theorem toNat_pos {column : UInt64} (some : column ≠ 0) : 0 < column.toNat :=
  Nat.pos_of_ne_zero fun zero => some (UInt64.toNat.inj zero)

/-- One can be taken off a word that is not zero. -/
theorem toNat_sub_one {column : UInt64} (some : column ≠ 0) :
    (column - 1).toNat = column.toNat - 1 :=
  UInt64.toNat_sub_of_le column 1 (UInt64.le_iff_toNat_le.2 (toNat_pos some))

theorem toNat_withoutLetter {column : UInt64} (some : column ≠ 0) :
    ((column - 1) / 26).toNat = withoutLetter column.toNat := by
  rw [UInt64.toNat_div, toNat_sub_one some]
  rfl

/-- The letters of a column as a word of 64 bits gives them, the last letter first. -/
def wordLetters (column : UInt64) : List Char :=
  if h : column = 0 then []
  else letter ((column - 1) % 26).toNat :: wordLetters ((column - 1) / 26)
termination_by column.toNat
decreasing_by
  have some : 0 < column.toNat := toNat_pos h
  rw [toNat_withoutLetter h, withoutLetter]
  omega

section Columns

/-- A column that is not zero has a last letter, and the others are those of what is left. -/
theorem lettersReversed_of_pos {column : Nat} (some : 0 < column) :
    lettersReversed column =
      letter ((column - 1) % 26) :: lettersReversed (withoutLetter column) := by
  rw [lettersReversed, dif_neg (by omega)]
  rfl

/-- The word loop takes the letters off the number that the word holds. -/
theorem wordLetters_eq (column : UInt64) : wordLetters column = lettersReversed column.toNat := by
  fun_induction wordLetters column with
  | case1 => rw [UInt64.toNat_zero, lettersReversed, dif_pos rfl]
  | case2 column some ih =>
    have last : ((column - 1) % 26).toNat = (column.toNat - 1) % 26 := by
      rw [UInt64.toNat_mod, toNat_sub_one some]
      rfl
    rw [ih, last, toNat_withoutLetter some, lettersReversed_of_pos (toNat_pos some)]

/-- A column is made of its last letter and what is left. -/
theorem value_of_pos {column : Nat} (some : 0 < column) :
    letterValue (letter ((column - 1) % 26)) + 26 * withoutLetter column = column := by
  have rest : (column - 1) % 26 < 26 := Nat.mod_lt _ (by decide)
  rw [letterValue_letter rest, withoutLetter]
  omega

theorem lettersReversed_zero : lettersReversed 0 = [] := by
  rw [lettersReversed, dif_pos rfl]

/-- The letters of a column are a numeral for it. -/
theorem ofDigits_lettersReversed (column : Nat) :
    Nat.ofDigits 26 ((lettersReversed column).map letterValue) = column := by
  fun_induction lettersReversed column with
  | case1 => rfl
  | case2 column some ih =>
    rw [List.map_cons, Nat.ofDigits_cons, ih]
    exact value_of_pos (Nat.pos_of_ne_zero some)

theorem isUpper_of_mem_lettersReversed {column : Nat} {c : Char}
    (mem : c ∈ lettersReversed column) : c.isUpper = true := by
  fun_induction lettersReversed column with
  | case1 => exact absurd mem List.not_mem_nil
  | case2 column some ih =>
    rcases List.mem_cons.1 mem with rfl | mem
    · exact isUpper_letter (Nat.mod_lt _ (by decide))
    · exact ih mem

/-- A word of capital letters is what the column that it stands for is written with. The word is
taken from its end, as the letters are found. -/
theorem lettersReversed_ofDigits {word : List Char} (upper : ∀ c ∈ word, c.isUpper = true) :
    lettersReversed (Nat.ofDigits 26 (word.map letterValue)) = word := by
  induction word with
  | nil => exact lettersReversed_zero
  | cons c word ih =>
    obtain ⟨first, others⟩ := List.forall_mem_cons.1 upper
    obtain ⟨digit, small, value, rfl⟩ := letter_of_isUpper first
    -- There is no zero among the digits, so taking one off the numeral leaves the last digit.
    rw [List.map_cons, Nat.ofDigits_cons, value]
    generalize Nat.ofDigits 26 (word.map letterValue) = rest at ih ⊢
    have last : (digit + 1 + 26 * rest - 1) % 26 = digit := by omega
    have before : withoutLetter (digit + 1 + 26 * rest) = rest := by
      rw [withoutLetter]
      omega
    rw [lettersReversed_of_pos (by omega), last, before, ih others]

/-- All words of one length stand for columns below one bound. -/
theorem ofDigits_letterValue_le {word : List Char} (upper : ∀ c ∈ word, c.isUpper = true) :
    25 * Nat.ofDigits 26 (word.map letterValue) + 26 ≤ 26 ^ (word.length + 1) := by
  induction word with
  | nil => decide
  | cons c word ih =>
    obtain ⟨first, others⟩ := List.forall_mem_cons.1 upper
    obtain ⟨digit, small, value, -⟩ := letter_of_isUpper first
    have bound := ih others
    rw [List.map_cons, Nat.ofDigits_cons, value, List.length_cons, Nat.pow_succ]
    omega

/-- No letter counts nothing, so all words of one length stand for numbers from one bound on. -/
theorem le_ofDigits_letterValue (word : List Char) :
    26 ^ word.length ≤ 25 * Nat.ofDigits 26 (word.map letterValue) + 1 := by
  induction word with
  | nil => decide
  | cons c word ih =>
    have one : 1 ≤ letterValue c := Nat.le_add_left _ _
    rw [List.map_cons, Nat.ofDigits_cons, List.length_cons, Nat.pow_succ]
    omega

theorem toList_columnLetters (column : Nat) :
    (columnLetters column).toList = (lettersReversed column).reverse := by
  rw [columnLetters, String.toList_ofList]

theorem columnLetters_zero : columnLetters 0 = "" := by
  rw [columnLetters, lettersReversed_zero]
  rfl

theorem columnNumber_columnLetters (column : Nat) :
    columnNumber (columnLetters column).toList = column := by
  rw [columnNumber, toList_columnLetters, List.reverse_reverse, ofDigits_lettersReversed]

theorem columnLetters_columnNumber {word : String} (upper : ∀ c ∈ word.toList, c.isUpper = true) :
    columnLetters (columnNumber word.toList) = word := by
  have letters : lettersReversed (columnNumber word.toList) = word.toList.reverse :=
    lettersReversed_ofDigits fun c mem => upper c (List.mem_reverse.1 mem)
  rw [columnLetters, letters, List.reverse_reverse, String.ofList_toList]

theorem isUpper_of_mem_columnLetters {column : Nat} {c : Char}
    (mem : c ∈ (columnLetters column).toList) : c.isUpper = true := by
  rw [toList_columnLetters, List.mem_reverse] at mem
  exact isUpper_of_mem_lettersReversed mem

theorem columnLetters_ne_empty {column : Nat} (some : 0 < column) : columnLetters column ≠ "" := by
  intro empty
  have number := columnNumber_columnLetters column
  rw [empty] at number
  have none : columnNumber "".toList = 0 := rfl
  omega

/-- A word of up to thirteen letters stands for a column of 64 bits. -/
theorem columnNumber_lt {word : List Char} (upper : ∀ c ∈ word, c.isUpper = true)
    (short : word.length ≤ 13) : columnNumber word < 2 ^ 64 := by
  have bound := ofDigits_letterValue_le fun c mem => upper c (List.mem_reverse.1 mem)
  have power : 26 ^ (word.reverse.length + 1) ≤ 26 ^ 14 := by
    rw [List.length_reverse]
    exact Nat.pow_le_pow_right (by decide) (by omega)
  rw [columnNumber]
  omega

/-- A word of fifteen letters or more stands for no column of 64 bits. -/
theorem le_columnNumber {word : List Char} (long : 15 ≤ word.length) :
    2 ^ 64 ≤ columnNumber word := by
  have bound := le_ofDigits_letterValue word.reverse
  have power : 26 ^ 15 ≤ 26 ^ word.reverse.length := by
    rw [List.length_reverse]
    exact Nat.pow_le_pow_right (by decide) long
  rw [columnNumber]
  omega

/-- A letter is taken off the column for each one that is written, and then nothing is left. -/
theorem iterate_withoutLetter_eq_zero_iff (column steps : Nat) :
    withoutLetter^[steps] column = 0 ↔ (lettersReversed column).length ≤ steps := by
  induction steps generalizing column with
  | zero =>
    rcases Nat.eq_zero_or_pos column with rfl | some
    · simp [lettersReversed_zero]
    · simp [lettersReversed_of_pos some, Nat.pos_iff_ne_zero.1 some]
  | succ steps ih =>
    rw [Function.iterate_succ_apply]
    refine (ih (withoutLetter column)).trans ?_
    rcases Nat.eq_zero_or_pos column with rfl | some
    · have zero : withoutLetter 0 = 0 := rfl
      simp [zero, lettersReversed_zero]
    · rw [lettersReversed_of_pos some, List.length_cons]
      omega

theorem length_columnLetters (column : Nat) :
    (columnLetters column).length = (lettersReversed column).length := by
  rw [← String.length_toList, toList_columnLetters, List.length_reverse]

end Columns

section Rows

theorem isUpper_of_isDigit {c : Char} (digit : isDigit c = true) : c.isUpper = false := by
  have bounds := isDigit_iff.1 digit
  rw [← Bool.not_eq_true, isUpper_iff]
  omega

theorem isDigit_of_isUpper {c : Char} (upper : c.isUpper = true) : isDigit c = false := by
  cases digit : isDigit c with
  | false => rfl
  | true =>
    rw [isUpper_of_isDigit digit] at upper
    cases upper

theorem toList_cellAddress (column row : Nat) : (cellAddress column row).toList =
    (columnLetters column).toList ++ Decimal.digitsOf row := by
  rw [cellAddress, String.toList_append, writeNat, String.toList_ofList]

/-- The letters of an address end where its digits begin. -/
theorem span_cellAddress (column row : Nat) :
    (cellAddress column row).toList.takeWhile Char.isUpper = (columnLetters column).toList ∧
      (cellAddress column row).toList.dropWhile Char.isUpper = Decimal.digitsOf row := by
  rw [toList_cellAddress]
  apply span_append
  · exact List.all_eq_true.2 fun _ mem => isUpper_of_mem_columnLetters mem
  · have digits := List.all_eq_true.1 (Decimal.all_isDigit_digitsOf row)
    cases shown : Decimal.digitsOf row with
    | nil => rfl
    | cons c rest => exact isUpper_of_isDigit (digits c (shown ▸ List.mem_cons_self))

/-- Columns and rows are told apart by their addresses. -/
theorem cellAddress_inj {column row column' row' : Nat} :
    cellAddress column row = cellAddress column' row' ↔ column = column' ∧ row = row' := by
  constructor
  · intro same
    obtain ⟨letters, digits⟩ := span_cellAddress column row
    obtain ⟨letters', digits'⟩ := span_cellAddress column' row'
    rw [same] at letters digits
    constructor
    · rw [← columnNumber_columnLetters column, ← letters, letters', columnNumber_columnLetters]
    · rw [← digitsValue_digitsOf row, ← digits, digits', digitsValue_digitsOf]
  · rintro ⟨rfl, rfl⟩
    rfl

theorem readAddress?_cellAddress {column : Nat} (some : 0 < column) (row : Nat) :
    readAddress? (cellAddress column row) = .some (column, row) := by
  obtain ⟨letters, digits⟩ := span_cellAddress column row
  have filled : (columnLetters column).toList ≠ [] := by
    simpa using columnLetters_ne_empty some
  rw [readAddress?, letters, digits, if_neg filled, readDigits?_digitsOf, Option.map_some,
    columnNumber_columnLetters]

/-- Without the digits at its end an address is the letters of its column. -/
theorem dropEndWhile_cellAddress (column row : Nat) :
    Text.dropEndWhile isDigit (cellAddress column row) = columnLetters column := by
  have digits : (Decimal.digitsOf row).reverse.all isDigit = true := by
    rw [List.all_reverse]
    exact Decimal.all_isDigit_digitsOf row
  have stop : ((columnLetters column).toList.reverse.head?.any isDigit) = false := by
    cases shown : (columnLetters column).toList.reverse with
    | nil => rfl
    | cons c rest =>
      have mem : c ∈ (columnLetters column).toList.reverse := shown ▸ List.mem_cons_self
      exact isDigit_of_isUpper (isUpper_of_mem_columnLetters (List.mem_reverse.1 mem))
  rw [Text.dropEndWhile, toList_cellAddress, List.reverse_append, (span_append digits stop).2,
    List.reverse_reverse, String.ofList_toList]

end Rows

/-- Letters can be taken off any column until nothing is left, one for each letter that it is
written with, and words of 64 bits give the same letters. The letters of a column are a numeral for
it, and a word of capital letters is that of one column if its number has 64 bits, and of none
otherwise. The address of a diagnostic tells its column and its row, and the letters in a row of the
report are those of the column. -/
theorem addresses_decode :
    (∀ column steps : Nat,
      withoutLetter^[steps] column = 0 ↔ (columnLetters column).length ≤ steps) ∧
    (∀ column : UInt64,
      String.ofList (wordLetters column).reverse = columnLetters column.toNat) ∧
    (∀ column : Nat, 0 < column →
      columnLetters column ≠ "" ∧ (∀ c ∈ (columnLetters column).toList, c.isUpper = true) ∧
      columnNumber (columnLetters column).toList = column) ∧
    (∀ word : String, word ≠ "" → (∀ c ∈ word.toList, c.isUpper = true) →
      0 < columnNumber word.toList ∧
      (∀ column < 2 ^ 64, columnLetters column = word ↔ column = columnNumber word.toList) ∧
      ((∃ column < 2 ^ 64, columnLetters column = word) ↔ columnNumber word.toList < 2 ^ 64) ∧
      (word.length ≤ 13 → columnNumber word.toList < 2 ^ 64) ∧
      (15 ≤ word.length → 2 ^ 64 ≤ columnNumber word.toList)) ∧
    (∀ d : Diagnostic, 0 < d.column → readAddress? d.address = some (d.column, d.row)) ∧
    (∀ d d' : Diagnostic, d.address = d'.address → d.column = d'.column ∧ d.row = d'.row) ∧
    ∀ d : Diagnostic, (ReportRow.ofDiagnostic d).column = columnLetters d.column := by
  refine ⟨?_, ?_, ?_, ?_, ?_, ?_, ?_⟩
  · intro column steps
    rw [length_columnLetters]
    exact iterate_withoutLetter_eq_zero_iff column steps
  · intro column
    rw [wordLetters_eq, columnLetters]
  · intro column some
    exact ⟨columnLetters_ne_empty some, fun _ mem => isUpper_of_mem_columnLetters mem,
      columnNumber_columnLetters column⟩
  · intro word filled upper
    have written := columnLetters_columnNumber upper
    have own : ∀ column, columnLetters column = word ↔ column = columnNumber word.toList := by
      intro column
      constructor
      · rintro rfl
        exact (columnNumber_columnLetters column).symm
      · rintro rfl
        exact written
    refine ⟨?_, fun column _ => own column, ?_, columnNumber_lt upper, le_columnNumber⟩
    · apply Nat.pos_of_ne_zero
      intro zero
      rw [zero, columnLetters_zero] at written
      exact filled written.symm
    · constructor
      · rintro ⟨column, small, same⟩
        rwa [← (own column).1 same]
      · intro small
        exact ⟨_, small, written⟩
  · intro d some
    exact readAddress?_cellAddress some d.row
  · intro d d' same
    exact cellAddress_inj.1 same
  · intro d
    exact dropEndWhile_cellAddress d.column d.row

/-- No column is written as fifteen times the letter `A`: the number of that word has 66 bits. -/
theorem not_all_words_are_columns : ¬ ∀ word : String, word ≠ "" →
    (∀ c ∈ word.toList, c.isUpper = true) →
      ∃ column < 2 ^ 64, ∀ other < 2 ^ 64, columnLetters other = word ↔ other = column := by
  intro all
  have number : columnNumber "AAAAAAAAAAAAAAA".toList = 67090373691429037015 := by decide
  obtain ⟨column, small, own⟩ := all "AAAAAAAAAAAAAAA" (by decide)
    (List.all_eq_true.1 (by decide))
  have written : columnLetters column = "AAAAAAAAAAAAAAA" := (own column small).2 rfl
  have read := columnNumber_columnLetters column
  rw [written, number] at read
  omega

/-- `Z` is followed by `AA`, and `ZZ` by `AAA`; the last column has fourteen letters. -/
example : [26, 27, 702, 703, 2 ^ 64 - 1].map columnLetters =
    ["Z", "AA", "ZZ", "AAA", "GKGWBYLWRXTLPO"] := by decide +kernel

end DesignTables
