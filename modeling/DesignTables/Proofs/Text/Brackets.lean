import DesignTables.Proofs.Lists
import DesignTables.Proofs.Text.Pieces
import Mathlib.Algebra.BigOperators.Group.List.Basic
import Mathlib.Algebra.GroupWithZero.Nat

/-!
# Separators outside brackets

A list in a cell has one element more than it has commas outside brackets. So a list that is put
together from parts is cut into these parts again when no part has such a comma, provided that all
parts but the last end where brackets are closed.

Brackets do not nest and need not match: whether a place stands in brackets is told by the last
bracket before it. So the parts that a cut leaves are known by two facts. A separator in a part
stands behind a `<` that is still open there, and no part but the last leaves a `<` open. Cutting
and joining are inverse between texts and lists of such parts.
-/
namespace DesignTables.Text

/-- Whether what follows a text stands inside brackets; `inside` tells whether the text itself
starts in one. -/
def endsInside (inside : Bool) (cs : List Char) : Bool := cs.foldl insideAfter inside

/-- The number of commas outside brackets. -/
def openCommas : Bool → List Char → Nat
  | _, [] => 0
  | inside, c :: cs =>
    (if c = ',' ∧ insideAfter inside c = false then 1 else 0) +
      openCommas (insideAfter inside c) cs

theorem endsInside_append (inside : Bool) (a b : List Char) :
    endsInside inside (a ++ b) = endsInside (endsInside inside a) b := by
  simp [endsInside]

theorem openCommas_append (inside : Bool) (a b : List Char) :
    openCommas inside (a ++ b) = openCommas inside a + openCommas (endsInside inside a) b := by
  induction a generalizing inside with
  | nil => simp [openCommas, endsInside]
  | cons c a ih =>
    rw [List.cons_append, openCommas, openCommas, ih, Nat.add_assoc]
    rfl

theorem insideAfter_of_ne {c : Char} (h : c ≠ '<') : insideAfter false c = false := by
  simp [insideAfter, h]

/-- Without an opening bracket a text that starts outside of brackets stays there. -/
theorem endsInside_of_free {cs : List Char} (free : '<' ∉ cs) : endsInside false cs = false := by
  induction cs with
  | nil => rfl
  | cons c cs ih =>
    rw [List.mem_cons, not_or] at free
    show endsInside (insideAfter false c) cs = false
    rw [insideAfter_of_ne (Ne.symm free.1)]
    exact ih free.2

theorem openCommas_of_free {cs : List Char} (free : '<' ∉ cs) :
    openCommas false cs = cs.count ',' := by
  induction cs with
  | nil => rfl
  | cons c cs ih =>
    rw [List.mem_cons, not_or] at free
    rw [openCommas, insideAfter_of_ne (Ne.symm free.1), ih free.2, List.count_cons]
    by_cases comma : c = ',' <;> simp [comma, Nat.add_comm]

/-- A cut leaves one piece more than there are commas to cut at. -/
theorem length_protectedPieces (inside : Bool) (cs : List Char) :
    (protectedPieces ',' inside cs).length = openCommas inside cs + 1 := by
  induction cs generalizing inside with
  | nil => rfl
  | cons c cs ih =>
    have grown (ps : List (List Char)) (some : ps ≠ []) : (consFirst c ps).length = ps.length := by
      cases ps with
      | nil => exact absurd rfl some
      | cons => rfl
    rw [protectedPieces, openCommas]
    by_cases cut : c = ',' ∧ insideAfter inside c = false
    · rw [if_pos cut, if_pos (by simpa using cut), List.length_cons, ih]
      omega
    · rw [if_neg cut, if_neg (by simpa using cut), grown _ (protectedPieces_ne_nil _ _ _), ih]
      omega

theorem length_splitProtected (s : String) :
    (splitProtected ',' s).length = openCommas false s.toList + 1 := by
  rw [splitProtected, List.length_map, length_protectedPieces]

/-- Parts that end where brackets are closed bring their own commas into a list, and every joint
brings one more. -/
theorem openCommas_joinWith {parts : List String} (some : parts ≠ [])
    (closed : ∀ part ∈ parts.dropLast, endsInside false part.toList = false) :
    openCommas false (joinWith "," parts).toList + 1 =
      (parts.map fun part => openCommas false part.toList).sum + parts.length := by
  induction parts with
  | nil => exact absurd rfl some
  | cons part parts ih =>
    cases parts with
    | nil => simp [joinWith]
    | cons next parts =>
      rw [List.dropLast_cons_cons] at closed
      have ended := closed part List.mem_cons_self
      have rest := ih (List.cons_ne_nil _ _) fun p mem => closed p (List.mem_cons_of_mem _ mem)
      have comma : ",".toList = [','] := rfl
      have joint : openCommas false (',' :: (joinWith "," (next :: parts)).toList) =
          1 + openCommas false (joinWith "," (next :: parts)).toList := rfl
      rw [joinWith, String.toList_append, String.toList_append, comma, List.append_assoc,
        openCommas_append, ended, List.singleton_append, joint, List.map_cons, List.sum_cons,
        List.length_cons]
      · omega
      · exact List.cons_ne_nil _ _

section Parts

variable {sep : Char} {inside : Bool}

theorem consFirst_append (c : Char) {ps : List (List Char)} (some : ps ≠ []) (qs : List (List Char)) :
    consFirst c (ps ++ qs) = consFirst c ps ++ qs := by
  cases ps with
  | nil => exact absurd rfl some
  | cons piece ps => rfl

/-- Outside brackets a separator ends a piece. -/
theorem protectedPieces_append_separator (other : sep ≠ '<') {cs : List Char}
    (closed : endsInside inside cs = false) (rest : List Char) :
    protectedPieces sep inside (cs ++ sep :: rest) =
      protectedPieces sep inside cs ++ protectedPieces sep false rest := by
  induction cs generalizing inside with
  | nil =>
    obtain rfl : inside = false := closed
    have outside : insideAfter false sep = false := insideAfter_of_ne other
    simp [protectedPieces, outside]
  | cons c cs ih =>
    have behind : endsInside (insideAfter inside c) cs = false := closed
    rw [List.cons_append, protectedPieces, protectedPieces, ih behind]
    split
    · rfl
    · exact consFirst_append c (protectedPieces_ne_nil _ _ _) _

/-- Joined parts are cut into the parts again. -/
theorem protectedPieces_joinPieces (other : sep ≠ '<') {parts : List (List Char)}
    (some : parts ≠ []) (whole : ∀ part ∈ parts, protectedPieces sep false part = [part])
    (closed : ∀ part ∈ parts.dropLast, endsInside false part = false) :
    protectedPieces sep false (joinPieces sep parts) = parts := by
  induction parts with
  | nil => exact absurd rfl some
  | cons part parts ih =>
    obtain ⟨first, wholes⟩ := List.forall_mem_cons.1 whole
    cases parts with
    | nil => exact first
    | cons next parts =>
      rw [List.dropLast_cons_cons] at closed
      obtain ⟨ended, closes⟩ := List.forall_mem_cons.1 closed
      rw [joinPieces, protectedPieces_append_separator other ended, first,
        ih (List.cons_ne_nil _ _) wholes closes]
      · rfl
      · exact List.cons_ne_nil _ _

/-- A part without commas outside brackets is left whole. -/
theorem protectedPieces_of_openCommas {cs : List Char} (none : openCommas inside cs = 0) :
    protectedPieces ',' inside cs = [cs] := by
  have single : (protectedPieces ',' inside cs).length = 1 := by rw [length_protectedPieces, none]
  obtain ⟨piece, cut⟩ := List.length_eq_one_iff.1 single
  have joined := joinPieces_protectedPieces ',' inside cs
  rw [cut] at joined
  rw [cut]
  exact congrArg ([·]) joined

theorem openCommas_of_protectedPieces {cs : List Char} (whole : protectedPieces ',' inside cs = [cs]) :
    openCommas inside cs = 0 := by
  have length := length_protectedPieces inside cs
  rw [whole, List.length_singleton] at length
  omega

end Parts

section Cuts

variable {sep : Char}

/-- A separator that is no bracket opens and closes nothing. -/
theorem insideAfter_separator (left : sep ≠ '<') (right : sep ≠ '>') (inside : Bool) :
    insideAfter inside sep = inside := by
  rw [insideAfter, if_neg left, if_neg right]

/-- What a cut leaves, by the first piece and the pieces behind it: another cut leaves every piece
whole, and only the last one may end inside brackets. -/
theorem exists_protectedPieces (left : sep ≠ '<') (right : sep ≠ '>') (inside : Bool)
    (cs : List Char) :
    ∃ first rest, protectedPieces sep inside cs = first :: rest ∧
      protectedPieces sep inside first = [first] ∧
      (rest ≠ [] → endsInside inside first = false) ∧
      (∀ piece ∈ rest, protectedPieces sep false piece = [piece]) ∧
      ∀ piece ∈ rest.dropLast, endsInside false piece = false := by
  induction cs generalizing inside with
  | nil => exact ⟨[], [], rfl, rfl, fun none => absurd rfl none, by simp, by simp⟩
  | cons c cs ih =>
    obtain ⟨first, rest, pieces, whole, closed, wholes, closes⟩ := ih (insideAfter inside c)
    rw [protectedPieces, pieces]
    by_cases cut : c = sep ∧ insideAfter inside c = false
    · -- The piece in front of the separator is empty, so it ends where it starts: outside.
      obtain ⟨rfl, outside⟩ := cut
      rw [outside] at whole closed
      refine ⟨[], first :: rest, by simp [outside], rfl, fun _ => ?_, ?_, ?_⟩
      · rw [insideAfter_separator left right] at outside
        exact outside
      · exact List.forall_mem_cons.2 ⟨whole, wholes⟩
      · exact forall_mem_dropLast_cons.2 ⟨closed, closes⟩
    · have kept : (c = sep && !insideAfter inside c) = false := by simpa using cut
      refine ⟨c :: first, rest, ?_, ?_, closed, wholes, closes⟩
      · rw [if_neg (by rw [kept]; exact Bool.false_ne_true)]
        rfl
      · rw [protectedPieces, whole, if_neg (by rw [kept]; exact Bool.false_ne_true)]
        rfl

/-- Another cut leaves a piece whole. -/
theorem protectedPieces_of_mem (left : sep ≠ '<') (right : sep ≠ '>') {cs piece : List Char}
    (mem : piece ∈ protectedPieces sep false cs) : protectedPieces sep false piece = [piece] := by
  obtain ⟨first, rest, pieces, whole, -, wholes, -⟩ := exists_protectedPieces left right false cs
  rw [pieces] at mem
  rcases List.mem_cons.1 mem with rfl | mem
  · exact whole
  · exact wholes piece mem

/-- No piece but the last ends inside brackets. -/
theorem endsInside_of_mem_protectedPieces (left : sep ≠ '<') (right : sep ≠ '>')
    {cs piece : List Char} (mem : piece ∈ (protectedPieces sep false cs).dropLast) :
    endsInside false piece = false := by
  obtain ⟨first, rest, pieces, -, closed, -, closes⟩ := exists_protectedPieces left right false cs
  rw [pieces] at mem
  exact forall_mem_dropLast_cons.2 ⟨closed, closes⟩ piece mem

theorem openCommas_of_mem_splitProtected {s piece : String} (mem : piece ∈ splitProtected ',' s) :
    openCommas false piece.toList = 0 := by
  rw [splitProtected, List.mem_map] at mem
  obtain ⟨cs, mem, rfl⟩ := mem
  rw [String.toList_ofList]
  exact openCommas_of_protectedPieces (protectedPieces_of_mem (by decide) (by decide) mem)

theorem endsInside_of_mem_dropLast {s piece : String}
    (mem : piece ∈ (splitProtected ',' s).dropLast) : endsInside false piece.toList = false := by
  rw [splitProtected, ← List.map_dropLast, List.mem_map] at mem
  obtain ⟨cs, mem, rfl⟩ := mem
  rw [String.toList_ofList]
  exact endsInside_of_mem_protectedPieces (by decide) (by decide) mem

end Cuts

/-- A text that leaves a bracket open: one of its `<` has no `>` behind it. -/
def LeavesOpen (cs : List Char) : Prop :=
  ∃ before behind, cs = before ++ '<' :: behind ∧ '>' ∉ behind

/-- The parts that a cut leaves. In all of them but the last, brackets that are opened are closed. -/
structure IsCut (sep : Char) (parts : List String) : Prop where
  filled : parts ≠ []
  /-- A separator in a part stands behind a `<` with no `>` between them. -/
  opened : ∀ part ∈ parts, ∀ before behind, part.toList = before ++ sep :: behind → LeavesOpen before
  /-- A `>` follows it in the part, unless this is the last one. -/
  ended : ∀ part ∈ parts.dropLast, ∀ before behind, part.toList = before ++ sep :: behind →
    '>' ∈ behind
  /-- No part but the last has a `<` behind its last `>`, nor any `<` if it has no `>`. -/
  closed : ∀ part ∈ parts.dropLast, ¬ LeavesOpen part.toList

theorem not_leavesOpen_nil : ¬ LeavesOpen [] := by
  rintro ⟨before, behind, same, -⟩
  simp at same

theorem leavesOpen_cons {c : Char} {cs : List Char} :
    LeavesOpen (c :: cs) ↔ (c = '<' ∧ '>' ∉ cs) ∨ LeavesOpen cs := by
  constructor
  · rintro ⟨before, behind, same, free⟩
    cases before with
    | nil =>
      obtain ⟨rfl, rfl⟩ := List.cons.inj same
      exact .inl ⟨rfl, free⟩
    | cons first before => exact .inr ⟨before, behind, (List.cons.inj same).2, free⟩
  · rintro (⟨rfl, free⟩ | ⟨before, behind, rfl, free⟩)
    · exact ⟨[], cs, rfl, free⟩
    · exact ⟨c :: before, behind, rfl, free⟩

/-- A text ends inside brackets when it leaves one open, or when it starts inside them and closes
none. -/
theorem endsInside_eq_true_iff (inside : Bool) (cs : List Char) :
    endsInside inside cs = true ↔ LeavesOpen cs ∨ (inside = true ∧ '>' ∉ cs) := by
  induction cs generalizing inside with
  | nil => simp [endsInside, not_leavesOpen_nil]
  | cons c cs ih =>
    have step : endsInside inside (c :: cs) = endsInside (insideAfter inside c) cs := rfl
    rw [step, ih, leavesOpen_cons, List.mem_cons]
    by_cases left : c = '<'
    · have inner : insideAfter inside c = true := by simp [insideAfter, left]
      have other : '>' ≠ c := by simp [left]
      rw [inner]
      tauto
    · by_cases right : c = '>'
      · have outside : insideAfter inside c = false := by simp [insideAfter, right]
        have same : '>' = c := right.symm
        rw [outside]
        tauto
      · have unchanged : insideAfter inside c = inside := by simp [insideAfter, left, right]
        have other : '>' ≠ c := Ne.symm right
        rw [unchanged]
        tauto

theorem endsInside_iff (cs : List Char) : endsInside false cs = true ↔ LeavesOpen cs := by
  rw [endsInside_eq_true_iff, or_iff_left]
  rintro ⟨wrong, -⟩
  cases wrong

theorem not_endsInside_iff (cs : List Char) : endsInside false cs = false ↔ ¬ LeavesOpen cs := by
  rw [← endsInside_iff, Bool.not_eq_true]

/-- A text that leaves none of its brackets open closes the one that is open at some place. -/
theorem mem_of_not_leavesOpen {before behind : List Char} (opened : LeavesOpen before)
    (closed : ¬ LeavesOpen (before ++ behind)) : '>' ∈ behind := by
  obtain ⟨start, inner, rfl, free⟩ := opened
  by_contra none
  apply closed
  refine ⟨start, inner ++ behind, by simp, ?_⟩
  rw [List.mem_append]
  exact fun mem => mem.elim free none

section Separators

variable {sep : Char}

theorem consFirst_eq_singleton_iff {c : Char} {cs : List Char} {ps : List (List Char)}
    (some : ps ≠ []) : consFirst c ps = [c :: cs] ↔ ps = [cs] := by
  cases ps with
  | nil => exact absurd rfl some
  | cons piece ps => simp [consFirst]

/-- A cut leaves a text whole when each of its separators stands inside brackets. -/
theorem protectedPieces_eq_self_iff (left : sep ≠ '<') (right : sep ≠ '>') (inside : Bool)
    (cs : List Char) :
    protectedPieces sep inside cs = [cs] ↔
      ∀ before behind, cs = before ++ sep :: behind → endsInside inside before = true := by
  induction cs generalizing inside with
  | nil => simp [protectedPieces]
  | cons c cs ih =>
    by_cases cut : c = sep ∧ insideAfter inside c = false
    · obtain ⟨rfl, outside⟩ := cut
      rw [insideAfter_separator left right] at outside
      refine iff_of_false ?_ fun kept => ?_
      · simp [protectedPieces, insideAfter_separator left right, outside]
      · have start : inside = true := kept [] cs rfl
        rw [outside] at start
        cases start
    · rw [protectedPieces, if_neg (by simpa using cut),
        consFirst_eq_singleton_iff (protectedPieces_ne_nil _ _ _), ih]
      constructor
      · intro kept before behind same
        cases before with
        | nil =>
          -- The first character is a separator that does not cut, so the text starts inside.
          obtain ⟨rfl, rfl⟩ := List.cons.inj same
          rw [insideAfter_separator left right] at cut
          show inside = true
          simpa using cut
        | cons first before =>
          obtain ⟨rfl, rfl⟩ := List.cons.inj same
          exact kept before behind rfl
      · rintro kept before behind rfl
        exact kept (c :: before) behind rfl

theorem isCut_splitProtected (left : sep ≠ '<') (right : sep ≠ '>') (s : String) :
    IsCut sep (splitProtected sep s) := by
  have opened : ∀ part ∈ splitProtected sep s, ∀ before behind,
      part.toList = before ++ sep :: behind → LeavesOpen before := by
    intro part mem before behind same
    obtain ⟨piece, known, rfl⟩ := List.mem_map.1 mem
    rw [String.toList_ofList] at same
    have whole := protectedPieces_of_mem left right known
    rw [protectedPieces_eq_self_iff left right] at whole
    exact (endsInside_iff before).1 (whole before behind same)
  have closed : ∀ part ∈ (splitProtected sep s).dropLast, ¬ LeavesOpen part.toList := by
    intro part mem
    rw [splitProtected, ← List.map_dropLast] at mem
    obtain ⟨piece, known, rfl⟩ := List.mem_map.1 mem
    rw [String.toList_ofList, ← not_endsInside_iff]
    exact endsInside_of_mem_protectedPieces left right known
  refine ⟨?_, opened, ?_, closed⟩
  · rw [splitProtected, Ne, List.map_eq_nil_iff]
    exact protectedPieces_ne_nil _ _ _
  · intro part mem before behind same
    have outside := closed part mem
    rw [same] at outside
    have inner := mem_of_not_leavesOpen
      (opened part (List.dropLast_subset _ mem) before behind same) outside
    exact (List.mem_cons.1 inner).resolve_left fun bracket => right bracket.symm

theorem joinWith_splitProtected (sep : Char) (s : String) :
    joinWith (String.singleton sep) (splitProtected sep s) = s := by
  apply String.toList_inj.1
  rw [toList_joinWith_of_single (String.toList_singleton sep), splitProtected, List.map_map]
  have same : String.toList ∘ String.ofList = id := funext fun _ => String.toList_ofList
  rw [same, List.map_id, joinPieces_protectedPieces]

theorem IsCut.splitProtected_joinWith (left : sep ≠ '<') (right : sep ≠ '>') {parts : List String}
    (h : IsCut sep parts) : splitProtected sep (joinWith (String.singleton sep) parts) = parts := by
  have cut : protectedPieces sep false (joinPieces sep (parts.map String.toList)) =
      parts.map String.toList := by
    apply protectedPieces_joinPieces left
    · simpa using h.filled
    · intro piece mem
      obtain ⟨part, known, rfl⟩ := List.mem_map.1 mem
      rw [protectedPieces_eq_self_iff left right]
      intro before behind same
      exact (endsInside_iff before).2 (h.opened part known before behind same)
    · intro piece mem
      rw [← List.map_dropLast] at mem
      obtain ⟨part, known, rfl⟩ := List.mem_map.1 mem
      exact (not_endsInside_iff _).2 (h.closed part known)
  rw [splitProtected, toList_joinWith_of_single (String.toList_singleton sep), cut, List.map_map]
  simp

/-- A text is cut into parts exactly when the parts are such as a cut leaves and come to the text
when they are joined. So cutting loses nothing, and undoes joining for all parts of this kind. -/
theorem splitProtected_eq_iff_joins (left : sep ≠ '<') (right : sep ≠ '>') (s : String)
    (parts : List String) :
    splitProtected sep s = parts ↔
      joinWith (String.singleton sep) parts = s ∧ IsCut sep parts := by
  constructor
  · rintro rfl
    exact ⟨joinWith_splitProtected sep s, isCut_splitProtected left right s⟩
  · rintro ⟨rfl, cut⟩
    exact cut.splitProtected_joinWith left right

/-- In the last part the bracket is not closed. -/
theorem splitProtected_eq_iff_joins_unclosed :
    ',' ≠ '<' ∧ ',' ≠ '>' ∧
      splitProtected ',' "key,check<a,b>,prefix<x,y" = ["key", "check<a,b>", "prefix<x,y"] ∧
      IsCut ',' ["key", "check<a,b>", "prefix<x,y"] := by
  have cut : splitProtected ',' "key,check<a,b>,prefix<x,y" =
      ["key", "check<a,b>", "prefix<x,y"] := by decide +kernel
  have joins := (splitProtected_eq_iff_joins (by decide) (by decide) _ _).1 cut
  exact ⟨by decide, by decide, cut, joins.2⟩

end Separators

end DesignTables.Text
