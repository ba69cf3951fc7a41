import DesignTables.Proofs.Text.Pieces
import DesignTables.Text.Path

/-!
# The components of a path that is put together

A name behind a path extends its last piece, and before a slash the pieces stay as they are. So the
components of a path tell what it ends with, and what stands before that.
-/
namespace DesignTables

namespace Path

/-- Whether a text ends a path without a step of its own: it has no slash, and whatever it stands
behind is a name. -/
def isEnding (name : String) : Bool :=
  name.toList.all (· ≠ '/') && decide (2 ≤ name.toList.length)

theorem isEnding_iff {name : String} : isEnding name = true ↔
    (∀ c ∈ name.toList, (c == '/') = false) ∧ 2 ≤ name.toList.length := by
  simp [isEnding]

theorem isAbsolute_append {base name : String} (ending : isEnding name = true) :
    isAbsolute (base ++ name) = isAbsolute base := by
  obtain ⟨free, long⟩ := isEnding_iff.1 ending
  rw [isAbsolute, isAbsolute, String.toList_append]
  cases first : base.toList with
  | cons c cs => rfl
  | nil =>
    cases text : name.toList with
    | nil =>
      rw [text] at long
      contradiction
    | cons c cs =>
      have other := free c (text ▸ List.mem_cons_self)
      simpa using other

theorem isIdle_of_length {piece : String} (long : 2 ≤ piece.toList.length) :
    isIdle piece = false := by
  rw [isIdle, Bool.or_eq_false_iff, decide_eq_false_iff_not, decide_eq_false_iff_not]
  constructor
  all_goals
    rintro rfl
    contradiction

theorem isIdle_append {start : List Char} {name : String} (ending : isEnding name = true) :
    isIdle (String.ofList (start ++ name.toList)) = false := by
  have long := (isEnding_iff.1 ending).2
  refine isIdle_of_length ?_
  rw [String.toList_ofList, List.length_append]
  omega

theorem components_eq (path : String) :
    components path = (if isAbsolute path then ["/"] else []) ++ steps path := by
  rw [components]
  split <;> rfl

theorem steps_of_splitOn {path first : String} {rest : List String}
    (h : Text.splitOn '/' path = first :: rest) :
    steps path = (if first = "" then [] else [first]) ++ rest.filter (!isIdle ·) := by
  rw [steps, h]

/-- A name behind a path extends its last component. -/
theorem exists_components_append (base : String) : ∃ (directory : List String) (start : List Char),
    ∀ name, isEnding name = true →
      components (base ++ name) = directory ++ [String.ofList (start ++ name.toList)] := by
  obtain ⟨before, last, cut⟩ := Text.exists_pieces_eq_append (· == '/') base.toList
  have split : ∀ name, isEnding name = true → Text.splitOn '/' (base ++ name) =
      before.map String.ofList ++ [String.ofList (last ++ name.toList)] := by
    intro name ending
    rw [Text.splitOn, String.toList_append,
      Text.pieces_append cut (Text.pieces_of_free (isEnding_iff.1 ending).1), List.map_append]
    rfl
  -- the first piece of a path is a step unless it is empty, a later one unless it is idle
  cases before with
  | nil =>
    refine ⟨if isAbsolute base then ["/"] else [], last, fun name ending => ?_⟩
    have notEmpty : String.ofList (last ++ name.toList) ≠ "" := fun empty => by
      have idle : isIdle (String.ofList (last ++ name.toList)) = false := isIdle_append ending
      rw [empty] at idle
      cases idle
    have way : steps (base ++ name) = [String.ofList (last ++ name.toList)] := by
      rw [steps_of_splitOn (split name ending), if_neg notEmpty]
      rfl
    rw [components_eq, isAbsolute_append ending, way]
  | cons first before =>
    refine ⟨(if isAbsolute base then ["/"] else []) ++
      ((if String.ofList first = "" then [] else [String.ofList first]) ++
        (before.map String.ofList).filter (!isIdle ·)), last, fun name ending => ?_⟩
    have pieces : Text.splitOn '/' (base ++ name) = String.ofList first ::
        (before.map String.ofList ++ [String.ofList (last ++ name.toList)]) := split name ending
    rw [components_eq, isAbsolute_append ending, steps_of_splitOn pieces, List.filter_append,
      List.filter_cons_of_pos (by rw [isIdle_append ending]; rfl)]
    simp only [List.filter_nil, List.append_assoc]

theorem join_below {base below : String} (slash : base.toList.getLast? = some '/')
    (relative : isAbsolute below = false) : join base below = base ++ below := by
  rw [join, relative, slash]
  simp

theorem join_beside {base below : String} (notEmpty : base.isEmpty = false)
    (noSlash : base.toList.getLast? ≠ some '/') (relative : isAbsolute below = false) :
    join base below = base ++ "/" ++ below := by
  rw [join, relative, notEmpty, decide_eq_false noSlash]
  rfl

/-- A slash separates the pieces before it from those behind it. -/
theorem splitOn_join (base below : String) : Text.splitOn '/' (base ++ "/" ++ below) =
    Text.splitOn '/' base ++ Text.splitOn '/' below := by
  have slash : (base ++ "/" ++ below).toList = base.toList ++ '/' :: below.toList := by
    rw [String.toList_append, String.toList_append, List.append_assoc]
    rfl
  rw [Text.splitOn, slash, Text.pieces_append_separator rfl, List.map_append]
  rfl

/-- Two texts around a slash are told by the pieces, when there are two. -/
theorem eq_of_splitOn_eq_pair {first second before behind : String}
    (h : Text.splitOn '/' (before ++ "/" ++ behind) = [first, second]) :
    before = first ∧ behind = second := by
  have whole : ∀ {text piece : String}, Text.splitOn '/' text = [piece] → text = piece := by
    intro text piece cut
    obtain ⟨chars, only, rfl⟩ := List.map_eq_singleton_iff.1 cut
    rw [← Text.eq_of_pieces_eq_singleton only, String.ofList_toList]
  have some : ∀ text : String, Text.splitOn '/' text ≠ [] := fun text none =>
    Text.pieces_ne_nil _ (List.map_eq_nil_iff.1 none)
  rw [splitOn_join] at h
  rcases List.append_eq_cons_iff.1 h with ⟨none, -⟩ | ⟨rest, left, right⟩
  · exact absurd none (some before)
  · cases rest with
    | nil => exact ⟨whole left, whole right.symm⟩
    | cons piece rest =>
      obtain ⟨-, none⟩ := List.cons.inj right
      exact absurd (List.append_eq_nil_iff.1 none.symm).2 (some behind)

theorem splitOn_of_isEnding {name : String} (ending : isEnding name = true) :
    Text.splitOn '/' name = [name] := by
  rw [Text.splitOn, Text.pieces_of_free (isEnding_iff.1 ending).1, List.map_singleton,
    String.ofList_toList]

theorem isIdle_of_isEnding {name : String} (ending : isEnding name = true) :
    isIdle name = false := isIdle_of_length (isEnding_iff.1 ending).2

/-- A path that starts with a name has a piece that does. -/
theorem exists_splitOn_append {first : String} (ending : isEnding first = true) (below : String) :
    ∃ more rest, Text.splitOn '/' (first ++ below) = (first ++ more) :: rest := by
  have some : Text.pieces (· == '/') below.toList ≠ [] := Text.pieces_ne_nil _
  obtain ⟨piece, rest, cut⟩ := List.exists_cons_of_ne_nil some
  have joint : Text.pieces (· == '/') (first.toList ++ below.toList) =
      [] ++ (first.toList ++ piece) :: rest :=
    Text.pieces_append (Text.pieces_of_free (isEnding_iff.1 ending).1) cut
  refine ⟨String.ofList piece, rest.map String.ofList, ?_⟩
  rw [Text.splitOn, String.toList_append, joint, List.nil_append, List.map_cons,
    String.ofList_append, String.ofList_toList]

theorem isAbsolute_of_isEnding {name : String} (ending : isEnding name = true) (below : String) :
    isAbsolute (name ++ below) = false := by
  obtain ⟨free, long⟩ := isEnding_iff.1 ending
  rw [isAbsolute, String.toList_append]
  cases text : name.toList with
  | nil =>
    rw [text] at long
    contradiction
  | cons c cs => simpa using free c (text ▸ List.mem_cons_self)

/-- The first component of a path is what stands before its first slash. -/
theorem components_below {first : String} (ending : isEnding first = true) (below : String) :
    components (first ++ "/" ++ below) =
      first :: (Text.splitOn '/' below).filter (!isIdle ·) := by
  have pieces : Text.splitOn '/' (first ++ "/" ++ below) = first :: Text.splitOn '/' below := by
    rw [splitOn_join, splitOn_of_isEnding ending]
    rfl
  have relative : isAbsolute (first ++ "/" ++ below) = false := by
    rw [String.append_assoc]
    exact isAbsolute_of_isEnding ending _
  have some : first ≠ "" := fun empty => by
    rw [empty] at ending
    cases ending
  rw [components_eq, relative, steps_of_splitOn pieces, if_neg some]
  rfl

theorem filter_isIdle_of_isEnding {name : String} (ending : isEnding name = true) :
    [name].filter (!isIdle ·) = [name] := by
  rw [List.filter_cons_of_pos (by rw [isIdle_of_isEnding ending]; rfl), List.filter_nil]

/-- The second step of a path that starts with two names. -/
theorem exists_components_below {first second : String} (ending : isEnding first = true)
    (ending' : isEnding second = true) (below : String) : ∃ more rest,
      components (first ++ "/" ++ (second ++ below)) = first :: (second ++ more) :: rest := by
  obtain ⟨more, rest, cut⟩ := exists_splitOn_append ending' below
  have step : isIdle (second ++ more) = false := by
    have long := (isEnding_iff.1 ending').2
    refine isIdle_of_length ?_
    rw [String.toList_append, List.length_append]
    omega
  refine ⟨more, rest.filter (!isIdle ·), ?_⟩
  rw [components_below ending, cut, List.filter_cons_of_pos (by rw [step]; rfl)]

theorem head?_components_of_isAbsolute {path : String} (absolute : isAbsolute path = true) :
    (components path).head? = some "/" := by
  rw [components, absolute]
  rfl

theorem head?_splitOn_of_isAbsolute {path : String} (absolute : isAbsolute path = true) :
    (Text.splitOn '/' path).head? = some "" := by
  rw [isAbsolute, decide_eq_true_eq, List.head?_eq_some_iff] at absolute
  obtain ⟨rest, text⟩ := absolute
  rw [Text.splitOn, text]
  rfl

end Path

end DesignTables
