import DesignTables.Output.EnumCode
import DesignTables.Output.Records
import DesignTables.Proofs.Json.Numbers
import DesignTables.Proofs.Text.Paths

/-!
# How the paths of the files of tables end

A path ends with what its file is: records, code, a shard with its number, an index. The ends are
different whatever stands before them, so files that are not the same thing have different paths.
-/
namespace DesignTables

/-- How the path of a file of tables ends. -/
inductive Ending where
  | records | code
  | shard (number : Nat)
  | index | enums
deriving DecidableEq, Repr

namespace Ending

/-- The end of the file name. -/
def text : Ending → String
  | records => "Table.json"
  | code => "Table.cs"
  | shard number => "_" ++ writePadded 5 number ++ ".json"
  | index => "_index.json"
  | enums => EnumCode.fileName

/-- The digits of a shard number, at least five. -/
def digits (number : Nat) : List Char := padDigits 5 (Decimal.digitsOf number)

theorem toList_shard (number : Nat) :
    (shard number).text.toList = '_' :: (digits number ++ ['.', 'j', 's', 'o', 'n']) := by
  have written : (writePadded 5 number).toList = digits number := String.toList_ofList
  rw [text, String.toList_append, String.toList_append, written, List.append_assoc]
  rfl

theorem isDigit_of_mem_digits {number : Nat} {c : Char} (mem : c ∈ digits number) :
    isDigit c = true := by
  rcases List.mem_append.1 mem with zero | digit
  · rw [(List.mem_replicate.1 zero).2]
    rfl
  · exact List.all_eq_true.1 (Decimal.all_isDigit_digitsOf number) c digit

theorem digits_inj {m n : Nat} (h : digits m = digits n) : m = n := by
  have value : ∀ n, Nat.ofDigitChars 10 (digits n) 0 = n := by
    intro n
    have zeros : ∀ k, Nat.ofDigitChars 10 (List.replicate k '0' ++ Decimal.digitsOf n) 0 =
        Nat.ofDigitChars 10 (Decimal.digitsOf n) 0 := by
      intro k
      induction k with
      | zero => rfl
      | succ k ih =>
        rw [List.replicate_succ, List.cons_append, Nat.ofDigitChars_cons]
        exact ih
    rw [digits, padDigits, zeros, Decimal.digitsOf,
      Nat.ofDigitChars_toDigits (by decide) (by decide)]
  rw [← value m, h, value n]

/-- The shards of a group are told apart by their numbers, those of two groups by these. -/
theorem append_digits_inj {start start' : List Char} {m n : Nat}
    (h : start ++ '_' :: digits m = start' ++ '_' :: digits n) : start = start' ∧ m = n := by
  have digit : ∀ {k : Nat}, '_' ∉ digits k := fun mem => by
    have := isDigit_of_mem_digits mem
    contradiction
  rcases List.append_eq_append_iff.1 h with ⟨more, rfl, same⟩ | ⟨more, rfl, same⟩ <;>
    cases more with
    | nil =>
      rw [List.nil_append, List.cons.injEq] at same
      exact ⟨by rw [List.append_nil], digits_inj (by first | exact same.2 | exact same.2.symm)⟩
    | cons c more =>
      rw [List.cons_append, List.cons.injEq] at same
      exact absurd (same.2 ▸ List.mem_append_right more List.mem_cons_self) digit

theorem isEnding_text (ending : Ending) : Path.isEnding ending.text = true := by
  cases ending with
  | shard number =>
    rw [Path.isEnding_iff, toList_shard]
    refine ⟨fun c mem => ?_, by simp⟩
    rcases List.mem_cons.1 mem with rfl | mem
    · rfl
    · rcases List.mem_append.1 mem with digit | rest
      · have isDigit := isDigit_of_mem_digits digit
        by_contra slash
        rw [Bool.not_eq_false, beq_iff_eq] at slash
        subst slash
        cases isDigit
      · simp only [List.mem_cons, List.not_mem_nil, or_false] at rest
        rcases rest with rfl | rfl | rfl | rfl | rfl <;> rfl
  | _ => decide

/-- The last six characters of an ending, from the end. -/
def close (ending : Ending) : List Char := ending.text.toList.reverse.take 6

theorem take_reverse_append (start : List Char) (ending : Ending) :
    (start ++ ending.text.toList).reverse.take 6 = ending.close := by
  have long : 6 ≤ ending.text.toList.reverse.length := by
    rw [List.length_reverse]
    cases ending with
    | shard number =>
      rw [toList_shard]
      simp
    | _ => decide
  rw [List.reverse_append, List.take_append_of_le_length long]
  rfl

/-- Only a shard has a digit before the extension. -/
theorem any_isDigit_close (number : Nat) : (shard number).close.any isDigit = true := by
  cases last : (digits number).getLast? with
  | none =>
    have empty := List.getLast?_eq_none_iff.1 last
    have some := Decimal.digitsOf_ne_nil number
    rw [digits, padDigits, List.append_eq_nil_iff] at empty
    exact absurd empty.2 some
  | some d =>
    obtain ⟨front, split⟩ := List.getLast?_eq_some_iff.1 last
    have mem : d ∈ digits number := split ▸ List.mem_append_right _ List.mem_cons_self
    have there : d ∈ (shard number).close := by
      rw [close, toList_shard, split]
      simp
    exact List.any_eq_true.2 ⟨d, there, isDigit_of_mem_digits mem⟩

/-- Whatever stands before them, endings are different. -/
theorem append_inj {a b : Ending} {start start' : List Char}
    (h : start ++ a.text.toList = start' ++ b.text.toList) : a = b ∧ start = start' := by
  have close : a.close = b.close := by
    rw [← take_reverse_append start, h, take_reverse_append]
  cases a with
  | shard m =>
    cases b with
    | shard n =>
      rw [toList_shard, toList_shard, ← List.cons_append, ← List.cons_append, ← List.append_assoc,
        ← List.append_assoc] at h
      obtain ⟨same, rfl⟩ := append_digits_inj (List.append_cancel_right h)
      exact ⟨rfl, same⟩
    | _ =>
      have digit := any_isDigit_close m
      rw [close] at digit
      exact absurd digit (by decide)
  | _ =>
    cases b with
    | shard n =>
      have digit := any_isDigit_close n
      rw [← close] at digit
      exact absurd digit (by decide)
    | _ =>
      first
      | exact absurd close (by decide)
      | exact ⟨rfl, List.append_cancel_right h⟩

end Ending

namespace Path

/-- Paths of the same components end alike, and any other end would not tell them apart. -/
theorem components_append_inj {x y : String} {a b : Ending}
    (h : components (x ++ a.text) = components (y ++ b.text)) :
    a = b ∧ ∀ c : Ending, components (x ++ c.text) = components (y ++ c.text) := by
  obtain ⟨directory, start, whole⟩ := exists_components_append x
  obtain ⟨directory', start', whole'⟩ := exists_components_append y
  rw [whole _ a.isEnding_text, whole' _ b.isEnding_text] at h
  obtain ⟨rfl, last⟩ := List.append_inj' h rfl
  have names := String.ofList_injective (List.cons.inj last).1
  obtain ⟨rfl, rfl⟩ := Ending.append_inj names
  exact ⟨rfl, fun c => by rw [whole _ c.isEnding_text, whole' _ c.isEnding_text]⟩

/-- A name that is no absolute path stays at the end of the path it is joined to. -/
theorem join_append (base below : String) {name : String} (ending : isEnding name = true) :
    join base (below ++ name) = join base below ++ name := by
  rw [join, join, isAbsolute_append ending]
  split
  next => rfl
  next =>
    split
    · rw [String.append_assoc]
    · rw [String.append_assoc, String.append_assoc, String.append_assoc]

end Path

/-- A path, with its end apart. -/
structure EndedPath where
  stem : String
  ending : Ending

namespace EndedPath

/-- The path. -/
def path (ended : EndedPath) : String := ended.stem ++ ended.ending.text

/-- The components of the path. -/
def components (ended : EndedPath) : List String := Path.components ended.path

theorem ending_eq {a b : EndedPath} (h : a.components = b.components) : a.ending = b.ending :=
  (Path.components_append_inj h).1

/-- Another end on the same stem. -/
theorem components_eq_of_components_eq {a b : EndedPath} (h : a.components = b.components)
    (ending : Ending) : components ⟨a.stem, ending⟩ = components ⟨b.stem, ending⟩ :=
  (Path.components_append_inj h).2 ending

end EndedPath

end DesignTables
