import DesignTables.Proofs.Text.Brackets
import Mathlib.Data.List.TakeWhile

/-!
# Pieces with texts around them can be told apart

Pieces that a cut at commas leaves are put between two texts, empty ones aside, and joined again.
The texts may bring commas of their own, so cutting does not give the pieces back; still no two
lists of pieces come to the same text, when the text behind a piece opens no bracket. The pieces
are found from the front. A piece that is not empty starts with no comma, so the commas in front of
the first one tell how many empty pieces stand there, and the first comma behind a piece tells
where it ends.
-/
namespace DesignTables.Text

/-- A piece between two texts; an empty one stays empty. -/
def wrap (before after piece : List Char) : List Char :=
  if piece = [] then [] else before ++ piece ++ after

/-- What stands behind the first of some pieces. -/
def behindFirst (rest : List (List Char)) : List Char :=
  if rest = [] then [] else ',' :: joinPieces ',' rest

theorem joinPieces_cons (first : List Char) (rest : List (List Char)) :
    joinPieces ',' (first :: rest) = first ++ behindFirst rest := by
  cases rest with
  | nil => exact (List.append_nil _).symm
  | cons => rfl

theorem behindFirst_eq_nil_iff {rest : List (List Char)} : behindFirst rest = [] ↔ rest = [] := by
  cases rest <;> simp [behindFirst]

/-- What a cut at the commas outside brackets leaves. -/
structure AreCut (ps : List (List Char)) : Prop where
  whole : ∀ piece ∈ ps, openCommas false piece = 0
  closed : ∀ piece ∈ ps.dropLast, endsInside false piece = false

theorem AreCut.tail {piece : List Char} {ps : List (List Char)} (h : AreCut (piece :: ps)) :
    AreCut ps where
  whole p mem := h.whole p (List.mem_cons_of_mem _ mem)
  closed := (forall_mem_dropLast_cons.1 h.closed).2

theorem AreCut.closed_head {piece : List Char} {ps : List (List Char)}
    (h : AreCut (piece :: ps)) (more : ps ≠ []) : endsInside false piece = false :=
  (forall_mem_dropLast_cons.1 h.closed).1 more

theorem areCut_protectedPieces (cs : List Char) : AreCut (protectedPieces ',' false cs) where
  whole _ mem := openCommas_of_protectedPieces (protectedPieces_of_mem (by decide) (by decide) mem)
  closed _ mem := endsInside_of_mem_protectedPieces (by decide) (by decide) mem

/-- A piece of a cut does not start with a comma. -/
theorem head?_ne_of_openCommas {piece : List Char} (whole : openCommas false piece = 0) :
    piece.head? ≠ some ',' := by
  cases piece with
  | nil => exact fun same => by cases same
  | cons c rest =>
    rintro same
    obtain rfl := Option.some.inj same
    rw [openCommas, if_pos ⟨rfl, rfl⟩] at whole
    omega

/-- Up to its first comma a text is as it was before another text that is empty or starts with a
comma. -/
theorem takeWhile_append_of_head? (cs : List Char) {rest : List Char}
    (stop : ∀ c, rest.head? = some c → c = ',') :
    (cs ++ rest).takeWhile (· ≠ ',') = cs.takeWhile (· ≠ ',') := by
  have none : rest.takeWhile (· ≠ ',') = [] := by
    cases rest with
    | nil => rfl
    | cons c rest => simp [stop c rfl]
  rw [List.takeWhile_append, none, List.append_nil]
  split
  next all => exact ((List.takeWhile_prefix _).eq_of_length all).symm
  next => rfl

theorem head?_behindFirst {rest : List (List Char)} :
    ∀ c, (behindFirst rest).head? = some c → c = ',' := by
  intro c head
  rw [behindFirst] at head
  split at head
  · cases head
  · exact (Option.some.inj head).symm

/-- A piece ends before the first comma that the text behind it does not bring, so two pieces with
the same text behind them are the same. -/
theorem eq_of_append_eq {after piece other rest rest' : List Char} (free : '<' ∉ after)
    (shorter : piece.length ≤ other.length) (whole : openCommas false other = 0)
    (stop : ∀ c, rest.head? = some c → c = ',') (stop' : ∀ c, rest'.head? = some c → c = ',')
    (closed : rest ≠ [] → endsInside false piece = false)
    (same : piece ++ (after ++ rest) = other ++ (after ++ rest')) : piece = other := by
  obtain ⟨more, rfl⟩ : piece <+: other :=
    List.prefix_of_prefix_length_le ⟨_, same⟩ ⟨_, rfl⟩ shorter
  rw [List.append_assoc, List.append_cancel_left_eq] at same
  suffices more = [] by rw [this, List.append_nil]
  by_cases last : rest = []
  · have length := congrArg List.length same
    rw [last] at length
    simp only [List.length_append, List.length_nil] at length
    exact List.eq_nil_of_length_eq_zero (by omega)
  · rw [openCommas_append, closed last] at whole
    have noComma : ',' ∉ more := by
      intro comma
      -- In front of its first comma the rest of the piece is a part of the text behind.
      obtain ⟨front, back, rfl, outside⟩ := List.eq_append_cons_of_mem comma
      have start : after.takeWhile (· ≠ ',') = front := by
        rw [← takeWhile_append_of_head? after stop, same, List.append_assoc,
          takeWhile_append_of_head? front (by simp)]
        exact List.takeWhile_eq_self_iff.2 fun c mem => by
          simpa using fun own : c = ',' => outside (own ▸ mem)
      have plain : '<' ∉ front := fun mem =>
        free ((List.takeWhile_sublist _).subset (start ▸ mem))
      rw [openCommas_append, endsInside_of_free plain, openCommas, if_pos ⟨rfl, rfl⟩] at whole
      omega
    have cut := congrArg (List.takeWhile (· ≠ ',')) same
    rw [takeWhile_append_of_head? after stop, List.takeWhile_append_of_pos (by
      exact fun c mem => by simpa using fun own : c = ',' => noComma (own ▸ mem)),
      takeWhile_append_of_head? after stop'] at cut
    have length := congrArg List.length cut
    rw [List.length_append] at length
    exact List.eq_nil_of_length_eq_zero (by omega)

/-- The number of commas in front. -/
def leadingCommas (cs : List Char) : Nat := (cs.takeWhile (· = ',')).length

theorem leadingCommas_append (before : List Char) {piece : List Char} (filled : piece ≠ [])
    (head : piece.head? ≠ some ',') (rest : List Char) :
    leadingCommas (before ++ (piece ++ rest)) = leadingCommas before := by
  have none : (piece ++ rest).takeWhile (· = ',') = [] := by
    cases piece with
    | nil => exact absurd rfl filled
    | cons c piece =>
      have other : c ≠ ',' := fun own => head (congrArg some own)
      simp [other]
  rw [leadingCommas, List.takeWhile_append, none, List.append_nil]
  split
  next all => rw [leadingCommas, all]
  next => rfl

/-- Wrapped pieces are commas throughout, or start with as many as the text in front has. -/
theorem leadingCommas_wrapped (before after : List Char) {ps : List (List Char)}
    (cut : AreCut ps) : (∀ c ∈ joinPieces ',' (ps.map (wrap before after)), c = ',') ∨
      leadingCommas before ≤ leadingCommas (joinPieces ',' (ps.map (wrap before after))) := by
  induction ps with
  | nil => exact .inl fun c mem => absurd mem List.not_mem_nil
  | cons piece ps ih =>
    rw [List.map_cons, joinPieces_cons]
    by_cases empty : piece = []
    · rw [wrap, if_pos empty, List.nil_append, behindFirst]
      split
      · exact .inl fun c mem => absurd mem List.not_mem_nil
      · rcases ih cut.tail with all | front
        · exact .inl (List.forall_mem_cons.2 ⟨rfl, all⟩)
        · refine .inr (Nat.le_trans front ?_)
          simp [leadingCommas]
    · have head := head?_ne_of_openCommas (cut.whole piece List.mem_cons_self)
      refine .inr (Nat.le_of_eq ?_)
      rw [wrap, if_neg empty, List.append_assoc, List.append_assoc,
        leadingCommas_append before empty head]

/-- An empty piece in front is not taken for one that is not empty. -/
theorem behindFirst_ne_wrap {before after piece : List Char} {ps : List (List Char)}
    (cut : AreCut ps) (filled : piece ≠ []) (whole : openCommas false piece = 0)
    (rest : List Char) :
    behindFirst (ps.map (wrap before after)) ≠ wrap before after piece ++ rest := by
  intro same
  have head := head?_ne_of_openCommas whole
  obtain ⟨c, others, rfl⟩ := List.exists_cons_of_ne_nil filled
  rw [wrap, if_neg filled, List.append_assoc, List.append_assoc] at same
  have inside : c ∈ behindFirst (ps.map (wrap before after)) := by
    rw [same]
    simp
  rw [behindFirst] at same inside
  split at same
  · next none =>
    rw [if_pos none] at inside
    cases inside
  next some =>
    rw [if_neg some] at inside
    have other : c ≠ ',' := fun own => head (congrArg Option.some own)
    have front := congrArg leadingCommas same
    rw [leadingCommas_append before filled head, leadingCommas, List.takeWhile_cons_of_pos (by simp),
      List.length_cons] at front
    rcases leadingCommas_wrapped before after cut with all | many
    · rcases List.mem_cons.1 inside with own | mem
      · exact other own
      · exact other (all c mem)
    · simp only [leadingCommas] at many front
      omega

/-- Two lists of pieces that come to one text start alike. -/
theorem first_eq_of_wrap_eq {before after : List Char} (free : '<' ∉ after)
    {piece other : List Char} {ps qs : List (List Char)} (cut : AreCut (piece :: ps))
    (cut' : AreCut (other :: qs))
    (same : wrap before after piece ++ behindFirst (ps.map (wrap before after)) =
      wrap before after other ++ behindFirst (qs.map (wrap before after))) : piece = other := by
  have whole := cut.whole piece List.mem_cons_self
  have whole' := cut'.whole other List.mem_cons_self
  by_cases empty : piece = []
  · by_contra apart
    rw [wrap, if_pos empty, List.nil_append] at same
    exact behindFirst_ne_wrap cut.tail (fun none => apart (empty.trans none.symm)) whole' _ same
  by_cases empty' : other = []
  · rw [empty', wrap.eq_1 _ _ [], if_pos rfl, List.nil_append] at same
    exact absurd same.symm (behindFirst_ne_wrap cut'.tail empty whole _)
  rw [wrap, wrap, if_neg empty, if_neg empty', List.append_assoc, List.append_assoc,
    List.append_assoc, List.append_assoc, List.append_cancel_left_eq] at same
  have closed (more : behindFirst (ps.map (wrap before after)) ≠ []) :
      endsInside false piece = false :=
    cut.closed_head fun none => more (by rw [none]; rfl)
  have closed' (more : behindFirst (qs.map (wrap before after)) ≠ []) :
      endsInside false other = false :=
    cut'.closed_head fun none => more (by rw [none]; rfl)
  rcases Nat.le_total piece.length other.length with le | le
  · exact eq_of_append_eq free le whole' head?_behindFirst head?_behindFirst closed same
  · exact (eq_of_append_eq free le whole head?_behindFirst head?_behindFirst closed'
      same.symm).symm

/-- Two lists of pieces that come to one text are the same. -/
theorem eq_of_joinPieces_wrap_eq {before after : List Char} (free : '<' ∉ after)
    {ps qs : List (List Char)} (cut : AreCut ps) (cut' : AreCut qs) (filled : ps ≠ [])
    (filled' : qs ≠ []) (same : joinPieces ',' (ps.map (wrap before after)) =
      joinPieces ',' (qs.map (wrap before after))) : ps = qs := by
  induction ps generalizing qs with
  | nil => exact absurd rfl filled
  | cons piece ps ih =>
    obtain ⟨other, qs, rfl⟩ := List.exists_cons_of_ne_nil filled'
    rw [List.map_cons, List.map_cons, joinPieces_cons, joinPieces_cons] at same
    obtain rfl := first_eq_of_wrap_eq free cut cut' same
    rw [List.append_cancel_left_eq] at same
    by_cases last : ps = []
    · have none : qs.map (wrap before after) = [] := by
        rw [← behindFirst_eq_nil_iff, ← same, last]
        rfl
      rw [last, List.map_eq_nil_iff.1 none]
    · have more : qs ≠ [] := by
        rintro rfl
        exact last (List.map_eq_nil_iff.1 (behindFirst_eq_nil_iff.1 same))
      have filledMap : ps.map (wrap before after) ≠ [] := by simpa using last
      have filledMap' : qs.map (wrap before after) ≠ [] := by simpa using more
      rw [behindFirst, behindFirst, if_neg filledMap, if_neg filledMap'] at same
      rw [ih cut.tail cut'.tail last more (List.cons.inj same).2]

end DesignTables.Text
