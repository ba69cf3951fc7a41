import DesignTables.Text.Split
import DesignTables.Text.Case
import DesignTables.Text.Letters
import DesignTables.Text.Quoted

/-!
Sets of characters as a pattern describes them.
-/
namespace DesignTables

/-- A set of characters. -/
inductive CharSet where
  | empty
  /-- The characters between two, both included. -/
  | range (first last : Char)
  /-- The decimal digits of all scripts. -/
  | digits
  /-- White space. -/
  | blanks
  /-- Letters, numbers, marks and the low line. -/
  | wordChars
  /-- The characters that are in a set in one case or another. -/
  | anyCase (set : CharSet)
  | complement (set : CharSet)
  | union (left right : CharSet)
  | intersection (left right : CharSet)
  | difference (left right : CharSet)
  | symmetricDifference (left right : CharSet)
deriving DecidableEq, Repr

namespace CharSet

/-- One character. -/
def single (c : Char) : CharSet := range c c

/-- A character with its forms in the other case. -/
def caseForms (c : Char) : List Char :=
  let lowered := (Text.lowerChar c).take 1
  c :: lowered ++ lowered.flatMap fun d => (Text.upperChar d).take 1

/-- Whether a character belongs to a set. -/
def contains : CharSet → Char → Bool
  | empty, _ => false
  | range first last, c => first ≤ c && c ≤ last
  | digits, c => Text.isDecimal c
  | blanks, c => Text.isBlank c
  | wordChars, c =>
    c = '_' || Text.isAlphanumeric c || Text.inRanges Text.combiningRanges c.toNat
  | anyCase set, c => (caseForms c).any set.contains
  | complement set, c => !set.contains c
  | union left right, c => left.contains c || right.contains c
  | intersection left right, c => left.contains c && right.contains c
  | difference left right, c => left.contains c && !right.contains c
  | symmetricDifference left right, c => left.contains c != right.contains c

@[simp] theorem contains_single (a c : Char) : (single a).contains c = (c == a) := by
  simp only [single, contains]
  by_cases h : c = a
  · simp [h]
  · rw [beq_eq_false_iff_ne.2 h, Bool.and_eq_false_iff]
    by_cases low : a ≤ c
    · exact .inr (by simpa using fun high => h (Char.le_antisymm high low))
    · exact .inl (by simpa using low)

@[simp] theorem contains_complement (set : CharSet) (c : Char) :
    (complement set).contains c = !set.contains c := rfl

end CharSet

end DesignTables
