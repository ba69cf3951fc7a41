import DesignTables.Text.Split
import Mathlib.Data.List.Basic

/-!
# The pieces of a text that is put together

Where two texts meet, the last piece of the first and the first piece of the second become one, and
all other pieces stay as they are.
-/
namespace DesignTables

namespace Text

section Separators

variable {isSeparator : Char → Bool}

theorem pieces_ne_nil (cs : List Char) : pieces isSeparator cs ≠ [] := by
  cases cs with
  | nil => exact List.cons_ne_nil _ _
  | cons c cs =>
    rw [pieces]
    split
    next => exact List.cons_ne_nil _ _
    next => exact consFirst_ne_nil _ _

theorem pieces_of_free {name : List Char} (free : ∀ c ∈ name, isSeparator c = false) :
    pieces isSeparator name = [name] := by
  induction name with
  | nil => rfl
  | cons c name ih =>
    obtain ⟨first, rest⟩ := List.forall_mem_cons.1 free
    rw [pieces, first, ih rest]
    rfl

theorem exists_pieces_eq_append (isSeparator : Char → Bool) (cs : List Char) :
    ∃ before last, pieces isSeparator cs = before ++ [last] :=
  ⟨_, _, (List.dropLast_append_getLast (pieces_ne_nil cs)).symm⟩

/-- Where two texts meet, the pieces beside the joint become one. -/
theorem pieces_append {cs ds last first : List Char} {before behind : List (List Char)}
    (left : pieces isSeparator cs = before ++ [last])
    (right : pieces isSeparator ds = first :: behind) :
    pieces isSeparator (cs ++ ds) = before ++ (last ++ first) :: behind := by
  induction cs generalizing before last with
  | nil =>
    have empty : [] ++ [[]] = before ++ [last] := left
    obtain ⟨rfl, same⟩ := List.append_inj' empty rfl
    rw [← List.singleton_inj.1 same]
    exact right
  | cons c cs ih =>
    obtain ⟨before', last', cut⟩ := exists_pieces_eq_append isSeparator cs
    rw [pieces, cut] at left
    rw [List.cons_append, pieces, ih cut]
    split
    next separates =>
      rw [if_pos separates, ← List.cons_append] at left
      obtain ⟨rfl, same⟩ := List.append_inj' left rfl
      rw [← List.singleton_inj.1 same]
      rfl
    next separates =>
      rw [if_neg separates] at left
      cases before' with
      | nil =>
        have single : [] ++ [c :: last'] = before ++ [last] := left
        obtain ⟨rfl, same⟩ := List.append_inj' single rfl
        rw [← List.singleton_inj.1 same]
        rfl
      | cons piece before' =>
        have more : ((c :: piece) :: before') ++ [last'] = before ++ [last] := left
        obtain ⟨rfl, same⟩ := List.append_inj' more rfl
        rw [← List.singleton_inj.1 same]
        rfl

/-- A separator ends a piece. -/
theorem pieces_append_separator {c : Char} (cut : isSeparator c = true) (cs ds : List Char) :
    pieces isSeparator (cs ++ c :: ds) = pieces isSeparator cs ++ pieces isSeparator ds := by
  obtain ⟨before, last, left⟩ := exists_pieces_eq_append isSeparator cs
  have right : pieces isSeparator (c :: ds) = [] :: pieces isSeparator ds := by
    rw [pieces, if_pos cut]
  rw [pieces_append left right, left, List.append_nil, List.append_assoc]
  rfl

theorem eq_of_pieces_eq_singleton {cs piece : List Char} (h : pieces isSeparator cs = [piece]) :
    cs = piece := by
  induction cs generalizing piece with
  | nil => exact (List.singleton_inj.1 h)
  | cons c cs ih =>
    rw [pieces] at h
    split at h
    · exact absurd (List.cons.inj h).2 (pieces_ne_nil cs)
    · cases rest : pieces isSeparator cs with
      | nil => exact absurd rest (pieces_ne_nil cs)
      | cons first more =>
        rw [rest] at h
        obtain ⟨rfl, rfl⟩ := List.cons.inj h
        rw [ih rest]

/-- A piece holds no separator, and nothing but characters of the text. -/
theorem free_of_mem_pieces {cs piece : List Char}
    (mem : piece ∈ pieces isSeparator cs) : ∀ c ∈ piece, isSeparator c = false ∧ c ∈ cs := by
  induction cs generalizing piece with
  | nil =>
    obtain rfl := List.mem_singleton.1 mem
    exact fun c inside => absurd inside List.not_mem_nil
  | cons d cs ih =>
    have later {own : List Char} (own_mem : own ∈ pieces isSeparator cs) :
        ∀ c ∈ own, isSeparator c = false ∧ c ∈ d :: cs := fun c inside =>
      (ih own_mem c inside).imp_right (List.mem_cons_of_mem d)
    rw [pieces] at mem
    split at mem
    · rcases List.mem_cons.1 mem with rfl | mem
      · exact fun c inside => absurd inside List.not_mem_nil
      · exact later mem
    next separates =>
      cases cut : pieces isSeparator cs with
      | nil => exact absurd cut (pieces_ne_nil cs)
      | cons first rest =>
        rw [cut, consFirst] at mem
        rcases List.mem_cons.1 mem with rfl | mem
        · refine List.forall_mem_cons.2 ⟨⟨Bool.eq_false_iff.2 separates, List.mem_cons_self⟩, ?_⟩
          exact later (cut ▸ List.mem_cons_self)
        · exact later (cut ▸ List.mem_cons_of_mem first mem)

/-- Parts that each end in a separator are cut apart again, with nothing behind the last one. -/
theorem pieces_flatMap_append {mark : Char}
    (cut : isSeparator mark = true) {parts : List (List Char)}
    (free : ∀ part ∈ parts, ∀ c ∈ part, isSeparator c = false) :
    pieces isSeparator (parts.flatMap (· ++ [mark])) = parts ++ [[]] := by
  induction parts with
  | nil => rfl
  | cons part parts ih =>
    obtain ⟨first, rest⟩ := List.forall_mem_cons.1 free
    have joint : (part :: parts).flatMap (· ++ [mark]) =
        part ++ mark :: parts.flatMap (· ++ [mark]) := by
      rw [List.flatMap_cons, List.append_assoc]
      rfl
    rw [joint, pieces_append_separator cut, pieces_of_free first, ih rest]
    rfl

end Separators

theorem joinPieces_pieces (sep : Char) (cs : List Char) :
    joinPieces sep (pieces (· == sep) cs) = cs := by
  induction cs with
  | nil => rfl
  | cons c cs ih =>
    rw [pieces]
    split
    · next cut =>
      rw [joinPieces_nil_cons sep (pieces_ne_nil cs), ih, eq_of_beq cut]
    · rw [joinPieces_consFirst, ih]

/-- A joined text is cut into the pieces of its parts. -/
theorem pieces_joinPieces (sep : Char) {parts : List (List Char)} (some : parts ≠ []) :
    pieces (· == sep) (joinPieces sep parts) = parts.flatMap (pieces (· == sep)) := by
  induction parts with
  | nil => exact absurd rfl some
  | cons part parts ih =>
    cases parts with
    | nil => simp [joinPieces]
    | cons next parts =>
      have cut : pieces (· == sep) (part ++ sep :: joinPieces sep (next :: parts)) =
          pieces (· == sep) part ++ pieces (· == sep) (joinPieces sep (next :: parts)) :=
        pieces_append_separator (by simp) part _
      rw [ih (List.cons_ne_nil _ _)] at cut
      exact cut

theorem toList_joinWith_of_single {sep : String} {c : Char} (single : sep.toList = [c])
    (parts : List String) :
    (joinWith sep parts).toList = joinPieces c (parts.map String.toList) := by
  induction parts with
  | nil => rfl
  | cons part parts ih =>
    cases parts with
    | nil => rfl
    | cons next parts =>
      rw [joinWith, String.toList_append, String.toList_append, ih, single]
      · simp [joinPieces]
      · exact List.cons_ne_nil _ _

theorem toList_joinWith (parts : List String) :
    (joinWith "," parts).toList = joinPieces ',' (parts.map String.toList) :=
  toList_joinWith_of_single rfl parts

/-- What a joined text holds stands in a part or between two of them. -/
theorem mem_joinPieces {sep c : Char} {parts : List (List Char)} (mem : c ∈ joinPieces sep parts) :
    c = sep ∨ ∃ part ∈ parts, c ∈ part := by
  induction parts with
  | nil => exact absurd mem List.not_mem_nil
  | cons part parts ih =>
    cases parts with
    | nil => exact .inr ⟨part, List.mem_cons_self, mem⟩
    | cons next parts =>
      rw [joinPieces, List.mem_append, List.mem_cons] at mem
      · rcases mem with own | rfl | later
        · exact .inr ⟨part, List.mem_cons_self, own⟩
        · exact .inl rfl
        · exact (ih later).imp_right fun ⟨other, known, held⟩ =>
            ⟨other, List.mem_cons_of_mem _ known, held⟩
      · exact List.cons_ne_nil _ _

theorem infix_joinPieces {sep : Char} {part : List Char} {parts : List (List Char)}
    (mem : part ∈ parts) : part <:+: joinPieces sep parts := by
  induction parts with
  | nil => exact absurd mem List.not_mem_nil
  | cons first parts ih =>
    cases parts with
    | nil => exact List.mem_singleton.1 mem ▸ List.infix_refl _
    | cons next parts =>
      have joined : joinPieces sep (first :: next :: parts) =
          first ++ sep :: joinPieces sep (next :: parts) := rfl
      rw [joined]
      rcases List.mem_cons.1 mem with rfl | later
      · exact (List.prefix_append _ _).isInfix
      · exact (ih later).trans
          ((List.suffix_cons sep _).trans (List.suffix_append first _)).isInfix

/-- Without an opening bracket every separator cuts. -/
theorem protectedPieces_of_free {sep : Char} {cs : List Char} (free : '<' ∉ cs) :
    protectedPieces sep false cs = pieces (· == sep) cs := by
  induction cs with
  | nil => rfl
  | cons c cs ih =>
    rw [List.mem_cons, not_or] at free
    have outside : insideAfter false c = false := by simp [insideAfter, Ne.symm free.1]
    rw [protectedPieces, pieces, outside, ih free.2]
    simp

/-- Parts without opening brackets are cut at every separator once they are joined. -/
theorem splitProtected_joinWith {parts : List String} (some : parts ≠ [])
    (free : ∀ part ∈ parts, '<' ∉ part.toList) :
    splitProtected ',' (joinWith "," parts) = parts.flatMap (splitOn ',') := by
  have outside : '<' ∉ joinPieces ',' (parts.map String.toList) := by
    intro mem
    rcases mem_joinPieces mem with comma | ⟨part, known, held⟩
    · cases comma
    · obtain ⟨given, mem, rfl⟩ := List.mem_map.1 known
      exact free given mem held
  rw [splitProtected, toList_joinWith, protectedPieces_of_free outside,
    pieces_joinPieces _ (by simpa using some), List.flatMap_map, List.map_flatMap]
  rfl

theorem dropSuffix?_eq_some_iff {ending s rest : String} :
    dropSuffix? ending s = some rest ↔ s = rest ++ ending := by
  rw [dropSuffix?]
  constructor
  · intro h
    split at h
    next ends =>
      obtain ⟨front, same⟩ := List.isSuffixOf_iff_suffix.1 ends
      have length := congrArg List.length same
      rw [List.length_append, String.length_toList, String.length_toList] at length
      obtain rfl := Option.some.inj h
      refine String.toList_inj.1 ?_
      rw [String.toList_append, String.toList_ofList, ← same,
        List.take_append_of_le_length (by omega), List.take_of_length_le (by omega)]
    next => cases h
  · rintro rfl
    rw [if_pos (by rw [String.toList_append]; exact List.isSuffixOf_iff_suffix.2 ⟨_, rfl⟩)]
    refine congrArg some (String.toList_inj.1 ?_)
    rw [String.toList_ofList, String.toList_append, String.length_append, Nat.add_sub_cancel,
      ← String.length_toList, List.take_left]

end Text

end DesignTables
