import DesignTables.Proofs.Text.Pieces
import DesignTables.Text.Split
import DesignTables.Text.Case
import Mathlib.Data.List.TakeWhile

/-!
# White space around words

White space around a text that starts and ends with other characters is all that trimming takes. It
ends a word wherever it stands, so the words of a text that is put together around white space are
those of its parts. A word of ASCII letters, in whatever case, has no white space.
-/
namespace DesignTables.Text

theorem trimChars_of_blank {cs : List Char} (blank : ∀ c ∈ cs, isBlank c = true) :
    trimChars cs = [] := by
  rw [trimChars, List.dropWhile_eq_nil_iff.2 blank]
  rfl

theorem dropWhile_isBlank_append {before cs : List Char} (blank : ∀ c ∈ before, isBlank c = true)
    (start : ∀ c ∈ cs.head?, isBlank c = false) : (before ++ cs).dropWhile isBlank = cs := by
  rw [List.dropWhile_append_of_pos blank]
  cases cs with
  | nil => rfl
  | cons c cs =>
    have other := start c rfl
    rw [List.dropWhile_cons, other]
    rfl

/-- Trimming takes the white space around a text that neither starts nor ends with any. -/
theorem trimChars_between {before cs after : List Char} (some : cs ≠ [])
    (front : ∀ c ∈ before, isBlank c = true) (behind : ∀ c ∈ after, isBlank c = true)
    (start : ∀ c ∈ cs.head?, isBlank c = false) (last : ∀ c ∈ cs.getLast?, isBlank c = false) :
    trimChars (before ++ (cs ++ after)) = cs := by
  have starts : ∀ c ∈ (cs ++ after).head?, isBlank c = false := by
    obtain ⟨c, cs, rfl⟩ := List.exists_cons_of_ne_nil some
    exact start
  have ends : ∀ c ∈ cs.reverse.head?, isBlank c = false := by rwa [List.head?_reverse]
  have blank : ∀ c ∈ after.reverse, isBlank c = true := fun c mem =>
    behind c (List.mem_reverse.1 mem)
  rw [trimChars, dropWhile_isBlank_append front starts, List.reverse_append,
    dropWhile_isBlank_append blank ends, List.reverse_reverse]

/-- The words of a text: its runs without white space. -/
def words (cs : List Char) : List (List Char) := (pieces isBlank cs).filter (· ≠ [])

theorem words_append_blank {c : Char} (blank : isBlank c = true) (cs ds : List Char) :
    words (cs ++ c :: ds) = words cs ++ words ds := by
  rw [words, pieces_append_separator blank, List.filter_append]
  rfl

theorem words_blank_append {blanks : List Char} (blank : ∀ c ∈ blanks, isBlank c = true)
    (cs : List Char) : words (blanks ++ cs) = words cs := by
  induction blanks with
  | nil => rfl
  | cons c blanks ih =>
    obtain ⟨first, rest⟩ := List.forall_mem_cons.1 blank
    exact (words_append_blank first [] (blanks ++ cs)).trans (ih rest)

theorem words_of_free {cs : List Char} (some : cs ≠ []) (free : ∀ c ∈ cs, isBlank c = false) :
    words cs = [cs] := by
  rw [words, pieces_of_free free, List.filter_cons_of_pos (by simpa using some), List.filter_nil]

theorem free_of_mem_words {cs word : List Char} (mem : word ∈ words cs) :
    word ≠ [] ∧ ∀ c ∈ word, isBlank c = false ∧ c ∈ cs := by
  obtain ⟨piece, some⟩ := List.mem_filter.1 mem
  exact ⟨by simpa using some, free_of_mem_pieces piece⟩

/-- Whether a character is an ASCII letter. -/
def isLetter (c : Char) : Bool := c.toLower.isLower

theorem isLetter_iff {c : Char} : isLetter c = true ↔
    (65 ≤ c.toNat ∧ c.toNat ≤ 90) ∨ (97 ≤ c.toNat ∧ c.toNat ≤ 122) := by
  have code : c.toNat = c.val.toNat := rfl
  have first : 'A'.val.toNat = 65 := rfl
  have last : 'Z'.val.toNat = 90 := rfl
  rw [code]
  delta isLetter Char.toLower Char.isLower
  split
  next capital =>
    simp only [ge_iff_le, UInt32.le_iff_toNat_le] at capital
    simp [UInt32.le_iff_toNat_le]
    omega
  next other =>
    simp only [ge_iff_le, UInt32.le_iff_toNat_le] at other
    simp [UInt32.le_iff_toNat_le]
    omega

theorem isBlank_of_isLetter {c : Char} (letter : isLetter c = true) : isBlank c = false := by
  rw [isLetter_iff] at letter
  simp [isBlank, blankRanges]
  omega

/-- The letters of a word in any case. -/
theorem isLetter_of_asciiLower {word name : String} (same : asciiLower name = word)
    (letters : ∀ c ∈ word.toList, c.isLower = true) : ∀ c ∈ name.toList, isLetter c = true := by
  intro c mem
  refine letters c.toLower ?_
  rw [← same, asciiLower, String.toList_ofList]
  exact List.mem_map_of_mem mem

end DesignTables.Text
