import DesignTables.Text.Quoted

/-!
Texts as the cells of a workbook file keep them.

A control character is kept as its code between `_x` and `_`. A low line that happens to start such
a form is kept as the code of the low line, so that the two can be told apart.
-/
namespace DesignTables.CellText

/-- The greatest number of characters in a cell. -/
def maxLength : Nat := 32767

/-- Four hexadecimal digits of a code. -/
def codeDigits (code : Nat) : List Char :=
  [code / 4096 % 16, code / 256 % 16, code / 16 % 16, code % 16].map fun digit =>
    (Nat.digitChar digit).toUpper

/-- A character as its code. -/
def coded (c : Char) : List Char := ['_', 'x'] ++ codeDigits c.toNat ++ ['_']

/-- Whether a text, after a low line, goes on like the code of a character. -/
def continuesCode : List Char → Bool
  | 'x' :: a :: b :: c :: d :: '_' :: _ => [a, b, c, d].all fun digit =>
    (Text.hexValue? digit).isSome
  | _ => false

/-- Whether a character cannot stand in a cell: all control characters but tabs and line breaks. -/
def isControl (c : Char) : Bool := c.toNat < 32 && c ≠ '\t' && c ≠ '\n'

/-- The characters that a cell keeps for a text. -/
def storedChars : List Char → List Char
  | [] => []
  | c :: cs =>
    if isControl c || (c = '_' && continuesCode cs) then coded c ++ storedChars cs
    else c :: storedChars cs

/-- The text that a cell keeps for a text. -/
def stored (s : String) : String := String.ofList (storedChars s.toList)

/-- A text without control characters and low lines is kept as it is. -/
theorem storedChars_eq_self {cs : List Char} (h : ∀ c ∈ cs, isControl c = false ∧ c ≠ '_') :
    storedChars cs = cs := by
  induction cs with
  | nil => rfl
  | cons c cs ih =>
    have first := h c (by simp)
    rw [storedChars, ih fun d member => h d (by simp [member])]
    simp [first.1, first.2]

/-- The digits of a code are no control characters. -/
theorem not_isControl_of_mem_codeDigits {code : Nat} {c : Char} (h : c ∈ codeDigits code) :
    isControl c = false := by
  have digit : ∀ n < 16, isControl (Nat.digitChar n).toUpper = false := by decide
  simp only [codeDigits, List.map_cons, List.map_nil, List.mem_cons, List.not_mem_nil,
    or_false] at h
  rcases h with rfl | rfl | rfl | rfl <;> exact digit _ (Nat.mod_lt _ (by decide))

/-- No control character stands in a code. -/
theorem not_isControl_of_mem_coded {c d : Char} (h : d ∈ coded c) : isControl d = false := by
  simp only [coded, List.cons_append, List.nil_append, List.mem_cons, List.mem_append,
    List.not_mem_nil, or_false] at h
  rcases h with rfl | rfl | h | rfl
  · decide
  · decide
  · exact not_isControl_of_mem_codeDigits h
  · decide

/-- No control character stands in a cell. -/
theorem not_isControl_of_mem_storedChars {cs : List Char} {c : Char} (h : c ∈ storedChars cs) :
    isControl c = false := by
  induction cs with
  | nil => simp [storedChars] at h
  | cons first cs ih =>
    rw [storedChars] at h
    split at h
    next =>
      rcases List.mem_append.1 h with h | h
      · exact not_isControl_of_mem_coded h
      · exact ih h
    next kept =>
      rcases List.mem_cons.1 h with rfl | h
      · simp_all
      · exact ih h

end DesignTables.CellText
