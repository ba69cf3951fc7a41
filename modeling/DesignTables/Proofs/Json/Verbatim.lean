import DesignTables.Proofs.Json.Grammar
import Mathlib.Algebra.GroupWithZero.Nat

/-!
# When a text that escapes nothing is read back

Backslashes and zeros are counted. An escape holds more of them than the character that it stands
for, so a text that writes its tokens verbatim can only be read as these tokens when nothing in it
is an escape. Line breaks and tabs do not count, so it does not matter if some of them are dropped.
-/
namespace DesignTables.Json

/-- The number of backslashes and zeros. -/
def weight (cs : List Char) : Nat := cs.countP fun c => c = '\\' || c = '0'

theorem weight_append (a b : List Char) : weight (a ++ b) = weight a + weight b :=
  List.countP_append

theorem weight_cons (c : Char) (cs : List Char) : weight (c :: cs) = weight [c] + weight cs :=
  weight_append [c] cs

theorem weight_singleton_le (c : Char) : weight [c] ≤ 1 := List.countP_le_length

theorem weight_plain {c : Char} (h : c ≠ '\\') (h' : c ≠ '0') : weight [c] = 0 := by
  simp [weight, h, h']

theorem weight_escaped (digits : List Char) :
    weight ('\\' :: 'u' :: digits) = 1 + weight digits :=
  weight_append ['\\', 'u'] digits

theorem weight_verbatim_string (text : String) :
    weight (Token.string text).verbatim = weight text.toList := by
  rw [Token.verbatim, weight_cons, weight_append]
  exact Nat.zero_add _

/-- A small code unit has a leading zero. -/
theorem head_of_codeUnit? {digits : List Char} {n : Nat} (h : codeUnit? digits = some n)
    (small : n < 4096) : 1 ≤ weight digits := by
  match digits, h with
  | [a, b, c, d], h =>
    simp only [codeUnit?, Option.bind_eq_bind, Option.bind_eq_some_iff, Option.pure_def,
      Option.some.injEq] at h
    obtain ⟨first, value, _, _, _, _, _, _, rfl⟩ := h
    have none : first = 0 := by omega
    have zero : a = '0' := by
      rw [none, hexValue?] at value
      split at value
      · next digit =>
        have bound : 48 ≤ a.toNat := digit.1
        have same : a.toNat = 48 := by
          have := Option.some.inj value
          have code : '0'.toNat = 48 := rfl
          omega
        exact Char.toNat_inj.1 same
      · split at value
        · exact absurd (Option.some.inj value) (by omega)
        · split at value
          · exact absurd (Option.some.inj value) (by omega)
          · cases value
    rw [zero, weight_cons]
    exact Nat.le_add_right _ _

theorem weight_short_lt {e c : Char} (escape : unescape? e = some c) :
    weight [c] < weight ['\\', e] := by
  unfold unescape? at escape
  split at escape
  all_goals first | (obtain rfl := Option.some.inj escape; decide) | cases escape

theorem weight_unit_lt {digits : List Char} {n : Nat} (unit : codeUnit? digits = some n)
    (valid : n.isValidChar) : weight [Char.ofNat n] < weight ('\\' :: 'u' :: digits) := by
  rw [weight_escaped]
  by_cases small : n < 4096
  · have zero := head_of_codeUnit? unit small
    have one := weight_singleton_le (Char.ofNat n)
    omega
  · have code : (Char.ofNat n).toNat = n := by
      rw [Char.ofNat, dif_pos valid]
      rfl
    have none : weight [Char.ofNat n] = 0 := by
      apply weight_plain
      · intro same
        rw [same] at code
        exact small (code ▸ by decide)
      · intro same
        rw [same] at code
        exact small (code ▸ by decide)
    omega

/-- What spells a text is as heavy as the text only when it is the text. -/
theorem Spells.weight_le {raw text : List Char} (h : Spells raw text) :
    weight text ≤ weight raw ∧
      (weight text = weight raw → raw = text ∧ text.all isPlain = true) := by
  induction h with
  | nil => exact ⟨Nat.le_refl _, fun _ => ⟨rfl, rfl⟩⟩
  | @plain c raw text self rest ih =>
    rw [weight_cons c raw, weight_cons c text]
    refine ⟨Nat.add_le_add_left ih.1 _, fun same => ?_⟩
    obtain ⟨eq, all⟩ := ih.2 (Nat.add_left_cancel same)
    refine ⟨by rw [eq], ?_⟩
    rw [List.all_cons, self, all]
    rfl
  | @short e c raw text escape rest ih =>
    have lighter := weight_short_lt escape
    have split : weight ('\\' :: e :: raw) = weight ['\\', e] + weight raw :=
      weight_append ['\\', e] raw
    rw [split, weight_cons c text]
    omega
  | @unit digits raw text n unit valid rest ih =>
    have lighter := weight_unit_lt unit valid
    have split : weight ('\\' :: 'u' :: (digits ++ raw)) =
        weight ('\\' :: 'u' :: digits) + weight raw :=
      weight_append ('\\' :: 'u' :: digits) raw
    rw [split, weight_cons (Char.ofNat n) text]
    omega
  | @pair digits digits' raw text high low first second isHigh isLow rest ih =>
    have one := weight_singleton_le (Char.ofNat (0x10000 + 0x400 * (high - 0xD800) + (low - 0xDC00)))
    have split : weight ('\\' :: 'u' :: (digits ++ '\\' :: 'u' :: (digits' ++ raw))) =
        1 + weight digits + (1 + weight digits' + weight raw) := by
      rw [weight_escaped, weight_append, weight_escaped, weight_append]
      omega
    rw [split, weight_cons _ text]
    omega

theorem Spells.self {text : List Char} (h : text.all isPlain = true) : Spells text text := by
  induction text with
  | nil => exact .nil
  | cons c text ih =>
    rw [List.all_cons, Bool.and_eq_true] at h
    exact .plain h.1 (ih h.2)

/-- Line breaks and tabs. -/
def isLayout (c : Char) : Bool := c = '\n' || c = '\r' || c = '\t'

/-- The second text is the first one without some of its line breaks and tabs. -/
inductive Thinned : List Char → List Char → Prop where
  | nil : Thinned [] []
  | keep (c : Char) {cs ds : List Char} (rest : Thinned cs ds) : Thinned (c :: cs) (c :: ds)
  | drop {c : Char} {cs ds : List Char} (layout : isLayout c = true) (rest : Thinned cs ds) :
    Thinned (c :: cs) ds

namespace Thinned

variable {a b cs ds : List Char}

theorem refl (cs : List Char) : Thinned cs cs := by
  induction cs with
  | nil => exact .nil
  | cons c cs ih => exact .keep c ih

theorem append (h : Thinned a b) (h' : Thinned cs ds) : Thinned (a ++ cs) (b ++ ds) := by
  induction h with
  | nil => exact h'
  | keep c rest ih => exact .keep c ih
  | drop layout rest ih => exact .drop layout ih

theorem trans (h : Thinned a b) (h' : Thinned b cs) : Thinned a cs := by
  induction h generalizing cs with
  | nil => exact h'
  | keep c rest ih =>
    cases h' with
    | keep c rest' => exact .keep c (ih rest')
    | drop layout rest' => exact .drop layout (ih rest')
  | drop layout rest ih => exact .drop layout (ih h')

/-- Nothing but line breaks and tabs can be left out. -/
theorem of_all (layout : cs.all isLayout = true) : Thinned cs [] := by
  induction cs with
  | nil => exact .nil
  | cons c cs ih =>
    rw [List.all_cons, Bool.and_eq_true] at layout
    exact .drop layout.1 (ih layout.2)

theorem weight_eq (h : Thinned cs ds) : weight ds = weight cs := by
  induction h with
  | nil => rfl
  | @keep c cs ds rest ih => rw [weight_cons c cs, weight_cons c ds, ih]
  | @drop c cs ds layout rest ih =>
    have light : weight [c] = 0 := by
      apply weight_plain <;> rintro rfl <;> cases layout
    rw [weight_cons c cs, light, Nat.zero_add, ih]

/-- A part without line breaks and tabs stays as it is. -/
theorem of_append {own : List Char} (h : Thinned (own ++ cs) ds)
    (solid : ∀ c ∈ own, isLayout c = false) : ∃ es, Thinned cs es ∧ ds = own ++ es := by
  induction own generalizing ds with
  | nil => exact ⟨ds, h, rfl⟩
  | cons c own ih =>
    cases h with
    | keep c rest =>
      obtain ⟨es, thin, rfl⟩ := ih rest fun d mem => solid d (List.mem_cons_of_mem _ mem)
      exact ⟨es, thin, rfl⟩
    | drop layout rest =>
      rw [solid c List.mem_cons_self] at layout
      cases layout

end Thinned

theorem not_isLayout_of_isPlain {c : Char} (h : isPlain c = true) : isLayout c = false := by
  rw [Bool.eq_false_iff]
  intro layout
  simp only [isLayout, Bool.or_eq_true, decide_eq_true_eq] at layout
  rcases layout with (rfl | rfl) | rfl <;> cases h

theorem isPlain_of_isDigit {c : Char} (h : isDigit c = true) : isPlain c = true := by
  rw [isDigit, Bool.and_eq_true, decide_eq_true_eq, decide_eq_true_eq] at h
  have low : 48 ≤ c.toNat := h.1
  have high : c.toNat ≤ 57 := h.2
  have quote : c ≠ '"' := by
    rintro rfl
    exact absurd low (by decide)
  have backslash : c ≠ '\\' := by
    rintro rfl
    exact absurd high (by decide)
  rw [isPlain, decide_eq_true quote, decide_eq_true backslash, Bool.true_and, Bool.true_and,
    decide_eq_true_eq]
  omega

theorem isPlain_of_isExponent {cs : List Char} (h : isExponent cs = true) :
    ∀ c ∈ cs, isPlain c = true := by
  have allPlain {digits : List Char} (all : digits.all isDigit = true) :
      ∀ c ∈ digits, isPlain c = true :=
    fun c mem => isPlain_of_isDigit (List.all_eq_true.1 all c mem)
  cases cs with
  | nil => exact List.forall_mem_nil _
  | cons e cs =>
    unfold isExponent at h
    rw [Bool.and_eq_true] at h
    obtain ⟨letter, digits⟩ := h
    have own : isPlain e = true := by
      simp only [Bool.or_eq_true, decide_eq_true_eq] at letter
      rcases letter with rfl | rfl <;> rfl
    refine List.forall_mem_cons.2 ⟨own, ?_⟩
    split at digits
    all_goals rw [Bool.and_eq_true] at digits
    · exact List.forall_mem_cons.2 ⟨rfl, allPlain digits.2⟩
    · exact List.forall_mem_cons.2 ⟨rfl, allPlain digits.2⟩
    · exact allPlain digits.2

/-- What follows the leading digits decides. -/
theorem isPlain_of_dropWhile {cs : List Char}
    (h : ∀ c ∈ cs.dropWhile isDigit, isPlain c = true) : ∀ c ∈ cs, isPlain c = true := by
  intro c mem
  rw [← List.takeWhile_append_dropWhile (p := isDigit) (l := cs), List.mem_append] at mem
  rcases mem with mem | mem
  · exact isPlain_of_isDigit (List.all_eq_true.1 List.all_takeWhile c mem)
  · exact h c mem

theorem isPlain_of_isUnsigned {cs : List Char} (h : isUnsigned cs = true) :
    ∀ c ∈ cs, isPlain c = true := by
  rw [isUnsigned, Bool.and_eq_true] at h
  refine isPlain_of_dropWhile ?_
  obtain ⟨-, rest⟩ := h
  unfold isFraction at rest
  split at rest
  · next digits point =>
    rw [Bool.and_eq_true] at rest
    rw [point]
    exact List.forall_mem_cons.2 ⟨rfl, isPlain_of_dropWhile (isPlain_of_isExponent rest.2)⟩
  · exact isPlain_of_isExponent rest

theorem isPlain_of_isLiteral {spelling : String} (h : isLiteral spelling = true) :
    ∀ c ∈ spelling.toList, isPlain c = true := by
  rw [isLiteral, Bool.or_eq_true, List.contains_iff_mem] at h
  rcases h with word | number
  · have words : ∀ word ∈ ["true", "false", "null"], word.toList.all isPlain = true := by decide
    exact List.all_eq_true.1 (words spelling word)
  · unfold isNumber at number
    split at number
    · next cs minus =>
      rw [minus]
      exact List.forall_mem_cons.2 ⟨rfl, isPlain_of_isUnsigned number⟩
    · exact isPlain_of_isUnsigned number

namespace Token

theorem IsSound.isWritten {token : Token} (h : token.IsSound) : token.IsWritten token.verbatim := by
  cases token with
  | string text => exact ⟨text.toList, Spells.self h, rfl⟩
  | literal spelling => exact ⟨h, rfl⟩
  | _ => rfl

theorem IsSound.not_isLayout {token : Token} (h : token.IsSound) :
    ∀ c ∈ token.verbatim, isLayout c = false := by
  cases token with
  | string text =>
    have plain : ∀ c ∈ text.toList, isLayout c = false :=
      fun c mem => not_isLayout_of_isPlain (List.all_eq_true.1 h c mem)
    refine List.forall_mem_cons.2 ⟨rfl, List.forall_mem_append.2 ⟨plain, ?_⟩⟩
    exact List.forall_mem_cons.2 ⟨rfl, List.forall_mem_nil _⟩
  | literal spelling =>
    exact fun c mem => not_isLayout_of_isPlain (isPlain_of_isLiteral h c mem)
  | _ => exact List.forall_mem_cons.2 ⟨rfl, List.forall_mem_nil _⟩

/-- A token is as heavy as it is verbatim only when it is sound. -/
theorem IsWritten.weight_le {token : Token} {own : List Char} (h : token.IsWritten own) :
    weight token.verbatim ≤ weight own ∧ (weight token.verbatim = weight own → token.IsSound) := by
  cases token with
  | string text =>
    obtain ⟨raw, spells, rfl⟩ := h
    have quoted : weight ('"' :: (raw ++ ['"'])) = weight raw := by
      rw [weight_cons, weight_append]
      exact Nat.zero_add _
    rw [weight_verbatim_string, quoted]
    exact ⟨spells.weight_le.1, fun same => (spells.weight_le.2 same).2⟩
  | literal spelling =>
    obtain ⟨sound, rfl⟩ := h
    exact ⟨Nat.le_refl _, fun _ => sound⟩
  | _ =>
    obtain rfl := h
    exact ⟨Nat.le_refl _, fun _ => trivial⟩

end Token

namespace Written

/-- Tokens that are all written verbatim. -/
abbrev Verbatim (tokens : List Token) (cs : List Char) : Prop :=
  Written (fun token own => own = token.verbatim) tokens cs

variable {spell : Token → List Char → Prop} {tokens more : List Token} {cs ds : List Char}

theorem append (h : Written spell tokens cs) (h' : Written spell more ds) :
    Written spell (tokens ++ more) (cs ++ ds) := by
  induction h with
  | nil => exact h'
  | space blank rest ih => exact .space blank ih
  | token spelled rest ih =>
    rw [List.append_assoc]
    exact .token spelled ih

theorem single {token : Token} {own : List Char} (spelled : spell token own) :
    Written spell [token] own := by
  have h : Written spell [token] (own ++ []) := .token spelled .nil
  rwa [List.append_nil] at h

theorem blank (h : cs.all isSpace = true) : Written spell [] cs := by
  induction cs with
  | nil => exact .nil
  | cons c cs ih =>
    rw [List.all_cons, Bool.and_eq_true] at h
    exact .space h.1 (ih h.2)

/-- A text that is a token with white space around it. -/
theorem padded {token : Token} {text : String} (before after : List Char)
    (same : text.toList = before ++ (token.verbatim ++ after)) (left : before.all isSpace = true)
    (right : after.all isSpace = true) : Verbatim [token] text.toList := by
  rw [same]
  exact (blank left).append ((single rfl).append (blank right))

theorem weight_verbatim (h : Verbatim tokens cs) :
    weight cs = (tokens.map fun token => weight token.verbatim).sum := by
  induction h with
  | nil => rfl
  | @space c tokens cs blank rest ih =>
    have light : weight [c] = 0 := by
      apply weight_plain <;> rintro rfl <;> cases blank
    rw [weight_cons, light, Nat.zero_add, ih]
  | token spelled rest ih =>
    obtain rfl := spelled
    rw [weight_append, ih, List.map_cons, List.sum_cons]

theorem weight_le (h : Written Token.IsWritten tokens cs) :
    (tokens.map fun token => weight token.verbatim).sum ≤ weight cs ∧
      ((tokens.map fun token => weight token.verbatim).sum = weight cs →
        ∀ token ∈ tokens, token.IsSound) := by
  induction h with
  | nil => exact ⟨Nat.le_refl _, fun _ => List.forall_mem_nil _⟩
  | @space c tokens cs blank rest ih =>
    have light : weight [c] = 0 := by
      apply weight_plain <;> rintro rfl <;> cases blank
    rw [weight_cons, light, Nat.zero_add]
    exact ih
  | @token token tokens own cs spelled rest ih =>
    rw [weight_append, List.map_cons, List.sum_cons]
    obtain ⟨less, sound⟩ := spelled.weight_le
    obtain ⟨less', sound'⟩ := ih
    refine ⟨Nat.add_le_add less less', fun same => List.forall_mem_cons.2 ⟨?_, ?_⟩⟩
    · exact sound (by omega)
    · exact sound' (by omega)

theorem of_sound (h : Verbatim tokens cs) (thin : Thinned cs ds)
    (sound : ∀ token ∈ tokens, token.IsSound) : Written Token.IsWritten tokens ds := by
  induction h generalizing ds with
  | nil =>
    cases thin
    exact .nil
  | space blank rest ih =>
    cases thin with
    | keep c thin => exact .space blank (ih thin sound)
    | drop layout thin => exact ih thin sound
  | token spelled rest ih =>
    obtain rfl := spelled
    obtain ⟨own, others⟩ := List.forall_mem_cons.1 sound
    obtain ⟨es, thinRest, rfl⟩ := thin.of_append own.not_isLayout
    exact .token own.isWritten (ih thinRest others)

end Written

/-- A text that writes the tokens of a document verbatim is read as the document exactly when
every token may be written so, and dropping line breaks and tabs makes no difference. -/
theorem isReadFrom_iff {document : Json} {text thinner : String}
    (h : Written.Verbatim document.tokens text.toList)
    (thin : Thinned text.toList thinner.toList) :
    document.IsReadFrom thinner ↔ ∀ token ∈ document.tokens, token.IsSound := by
  constructor
  · intro read
    exact (Written.weight_le read).2 (by rw [thin.weight_eq, h.weight_verbatim])
  · exact h.of_sound thin

/-- Whether each backslash stands before a character that it can escape. -/
def escapesWell : List Char → Bool
  | [] => true
  | [c] => c ≠ '\\'
  | c :: e :: cs =>
    if c = '\\' then (e = 'u' || (unescape? e).isSome) && escapesWell cs else escapesWell (e :: cs)

theorem escapesWell_cons {c : Char} (h : c ≠ '\\') (cs : List Char) :
    escapesWell (c :: cs) = escapesWell cs := by
  cases cs with
  | nil => exact decide_eq_true h
  | cons e cs => rw [escapesWell, if_neg h]

theorem escapesWell_append {own : List Char} (h : '\\' ∉ own) (cs : List Char) :
    escapesWell (own ++ cs) = escapesWell cs := by
  induction own with
  | nil => rfl
  | cons c own ih =>
    rw [List.mem_cons, not_or] at h
    rw [List.cons_append, escapesWell_cons (Ne.symm h.1), ih h.2]

theorem not_mem_of_codeUnit? {digits : List Char} {n : Nat} (h : codeUnit? digits = some n) :
    '\\' ∉ digits := by
  match digits, h with
  | [a, b, c, d], h =>
    simp only [codeUnit?, Option.bind_eq_bind, Option.bind_eq_some_iff] at h
    obtain ⟨_, first, _, second, _, third, _, fourth, -⟩ := h
    intro mem
    simp only [List.mem_cons, List.not_mem_nil, or_false] at mem
    rcases mem with rfl | rfl | rfl | rfl
    · cases first
    · cases second
    · cases third
    · cases fourth

theorem Spells.escapesWell_append {raw text : List Char} (h : Spells raw text) (cs : List Char) :
    escapesWell (raw ++ cs) = escapesWell cs := by
  have unit {digits : List Char} {n : Nat} (h : codeUnit? digits = some n) (cs : List Char) :
      escapesWell ('\\' :: 'u' :: (digits ++ cs)) = escapesWell cs := by
    rw [escapesWell, if_pos rfl, Json.escapesWell_append (not_mem_of_codeUnit? h)]
    rfl
  induction h with
  | nil => rfl
  | @plain c raw text self rest ih =>
    have other : c ≠ '\\' := by
      rintro rfl
      cases self
    rw [List.cons_append, escapesWell_cons other, ih]
  | short escape rest ih =>
    rw [List.cons_append, List.cons_append, escapesWell, if_pos rfl, ih, escape,
      Option.isSome_some, Bool.or_true, Bool.true_and]
  | unit first valid rest ih =>
    rw [List.cons_append, List.cons_append, List.append_assoc, unit first, ih]
  | pair first second isHigh isLow rest ih =>
    rw [List.cons_append, List.cons_append, List.append_assoc, unit first, List.cons_append,
      List.cons_append, List.append_assoc, unit second, ih]

theorem Token.IsWritten.escapesWell_append {token : Token} {own : List Char}
    (h : token.IsWritten own) (cs : List Char) : escapesWell (own ++ cs) = escapesWell cs := by
  cases token with
  | string text =>
    obtain ⟨raw, spells, rfl⟩ := h
    have quote : '"' ≠ '\\' := by decide
    rw [List.cons_append, escapesWell_cons quote, List.append_assoc, spells.escapesWell_append,
      List.cons_append, escapesWell_cons quote, List.nil_append]
  | literal spelling =>
    obtain ⟨sound, rfl⟩ := h
    refine Json.escapesWell_append (fun mem => ?_) cs
    have plain := isPlain_of_isLiteral sound _ mem
    cases plain
  | _ =>
    obtain rfl := h
    exact escapesWell_cons (by decide) cs

theorem Written.escapesWell {tokens : List Token} {cs : List Char}
    (h : Written Token.IsWritten tokens cs) : escapesWell cs = true := by
  induction h with
  | nil => rfl
  | @space c tokens cs blank rest ih =>
    have other : c ≠ '\\' := by
      rintro rfl
      cases blank
    rw [escapesWell_cons other, ih]
  | token spelled rest ih => rw [spelled.escapesWell_append, ih]

/-- A text with a backslash before any other character is no JSON text. -/
theorem IsReadFrom.escapesWell {document : Json} {text : String}
    (h : document.IsReadFrom text) : escapesWell text.toList = true :=
  Written.escapesWell h

theorem tokens_ne_nil (document : Json) : document.tokens ≠ [] := by
  cases document with
  | literal spelling => exact List.cons_ne_nil _ _
  | string text => exact List.cons_ne_nil _ _
  | array items => exact List.cons_ne_nil _ _
  | object members => exact List.cons_ne_nil _ _

theorem Token.IsWritten.ne_nil {token : Token} {own : List Char} (h : token.IsWritten own) :
    own ≠ [] := by
  rintro rfl
  cases token with
  | string text =>
    obtain ⟨raw, -, same⟩ := h
    cases same
  | literal spelling =>
    obtain ⟨sound, empty⟩ := h
    rw [← String.ofList_toList (s := spelling), ← empty] at sound
    cases sound
  | _ => cases h

theorem Written.ne_nil {tokens : List Token} {cs : List Char}
    (h : Written Token.IsWritten tokens cs) (some : tokens ≠ []) : cs ≠ [] := by
  cases h with
  | nil => exact (some rfl).elim
  | space blank rest => exact List.cons_ne_nil _ _
  | token spelled rest => exact List.append_ne_nil_of_left_ne_nil spelled.ne_nil _

/-- An empty text is no JSON text. -/
theorem IsReadFrom.ne_empty {document : Json} {text : String} (h : document.IsReadFrom text) :
    text ≠ "" := by
  rintro rfl
  exact h.ne_nil document.tokens_ne_nil rfl

end DesignTables.Json
