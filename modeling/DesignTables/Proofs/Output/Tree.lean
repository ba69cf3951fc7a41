import DesignTables.Output.Files
import DesignTables.Proofs.Lists
import DesignTables.Proofs.Text.Paths
import Mathlib.Data.List.Basic
import Mathlib.Data.List.Induction

/-!
# What writing the files of a run does to a tree of files

A path that can be followed leads to one place, whatever the tree holds. Making directories only
adds directories, and writing a file changes its own place only. So after a run every place holds
what was written there last, and a place where nothing was written holds what it held once the
output root had been cleared.
-/
namespace DesignTables

namespace FileTree

variable {α : Type}

/-! ## Places of paths -/

/-- Where a piece of a path leads from a directory, whatever stands there. -/
def follow (directory : List String) (piece : String) : List String :=
  if piece = "." then directory
  else if piece = ".." then above directory
  else directory ++ [piece]

/-- Where a path leads, whatever stands there. -/
def placeFor (path : String) : List String :=
  (piecesOf path).foldl follow (if Path.isAbsolute path then root else [])

variable {tree made after : FileTree α} {path : String} {found : Lookup}
variable {directory place other : List String} {piece : String} {node : FileNode α} {content : α}

theorem follow_of_placeOf (h : placeOf directory piece = .ok place) :
    place = follow directory piece := by
  rw [placeOf] at h
  split at h
  next => cases h
  next => exact (Except.ok.inj h).symm

theorem follow_of_enter (h : tree.enter directory piece = .ok place) :
    place = follow directory piece := by
  rw [enter] at h
  split at h
  next => cases h
  next there =>
    split at h
    next =>
      obtain rfl := Except.ok.inj h
      exact follow_of_placeOf there
    next => cases h
    next => cases h

theorem foldl_follow_of_foldlM_enter {pieces : List String}
    (h : pieces.foldlM tree.enter directory = .ok place) :
    place = pieces.foldl follow directory := by
  induction pieces generalizing directory with
  | nil => exact (Except.ok.inj h).symm
  | cons piece pieces ih =>
    rw [List.foldlM_cons] at h
    obtain ⟨next, entered, rest⟩ := ok_of_bind h
    rw [List.foldl_cons, ← follow_of_enter entered]
    exact ih rest

theorem lookup_eq_ok (h : tree.lookup path = .ok found) :
    (piecesOf path).dropLast.foldlM tree.enter (if Path.isAbsolute path then root else []) =
        .ok found.directory ∧ found.last = (piecesOf path).getLast? := by
  rw [lookup] at h
  split at h
  next => cases h
  next =>
    split at h
    next => cases h
    next =>
      split at h
      next => cases h
      next =>
        obtain ⟨directory, followed, rfl⟩ := ok_of_map h
        exact ⟨followed, rfl⟩

/-- What a lookup leads to is the place of the path. -/
theorem placeFor_of_lookup (h : tree.lookup path = .ok found) (h' : found.place = .ok place) :
    place = placeFor path := by
  obtain ⟨followed, last⟩ := lookup_eq_ok h
  have directory := foldl_follow_of_foldlM_enter followed
  rw [Lookup.place] at h'
  split at h'
  next piece isLast =>
    have pieces := List.dropLast_append_getLast? piece (last.symm.trans isLast)
    rw [placeFor, ← pieces, List.foldl_append, ← directory]
    exact follow_of_placeOf h'
  next isRoot =>
    have pieces := List.getLast?_eq_none_iff.1 (last.symm.trans isRoot)
    rw [pieces] at directory
    rw [placeFor, pieces, ← Except.ok.inj h']
    exact directory

theorem find_eq_ok (h : tree.find path = .ok (place, node)) :
    place = placeFor path ∧ tree.node? place = some node := by
  obtain ⟨found, followed, h⟩ := ok_of_bind h
  obtain ⟨there, leads, h⟩ := ok_of_bind h
  obtain rfl := placeFor_of_lookup followed leads
  split at h
  next => cases h
  next isDirectory =>
    obtain ⟨rfl, rfl⟩ := Prod.mk.inj (Except.ok.inj h)
    exact ⟨rfl, isDirectory⟩
  next content isFile =>
    split at h
    next => cases h
    next =>
      obtain ⟨rfl, rfl⟩ := Prod.mk.inj (Except.ok.inj h)
      exact ⟨rfl, isFile⟩

theorem foldl_follow {pieces : List String} (noStepUp : ".." ∉ pieces) (directory : List String) :
    pieces.foldl follow directory = directory ++ pieces.filter (· ≠ ".") := by
  induction pieces generalizing directory with
  | nil => exact (List.append_nil _).symm
  | cons piece pieces ih =>
    obtain ⟨notUp, noStepUp⟩ := not_or.1 (mt List.mem_cons.2 noStepUp)
    rw [List.foldl_cons, ih noStepUp, follow, if_neg (Ne.symm notUp)]
    split
    next dot => rw [List.filter_cons_of_neg (by simp [dot])]
    next step =>
      rw [List.filter_cons_of_pos (by simp [step]), List.append_assoc]
      rfl

/-- A path without a step upwards leads where its components say, unless it starts with a dot. -/
theorem placeFor_eq_components {path : String} (noStepUp : ".." ∉ piecesOf path)
    (noDot : (Text.splitOn '/' path).head? ≠ some ".") : placeFor path = Path.components path := by
  have steps : (piecesOf path).filter (· ≠ ".") = Path.steps path := by
    have idle : ∀ pieces : List String, (pieces.filter (!·.isEmpty)).filter (· ≠ ".") =
        pieces.filter (!Path.isIdle ·) := by
      intro pieces
      rw [List.filter_filter]
      refine List.filter_congr fun piece _ => ?_
      by_cases dot : piece = "." <;> by_cases empty : piece = "" <;>
        simp [Path.isIdle, String.isEmpty_iff, dot, empty]
    rw [piecesOf, idle, Path.steps]
    split
    next none =>
      rw [none]
      rfl
    next first rest pieces =>
      rw [pieces, List.filter_cons]
      rw [pieces, List.head?_cons, ne_eq, Option.some.injEq] at noDot
      by_cases empty : first = "" <;> simp [Path.isIdle, noDot, empty]
  rw [placeFor, foldl_follow noStepUp, steps, Path.components_eq]
  rfl

/-! ## What the operations keep -/

/-- Every directory is still one. -/
def KeepsDirectories (before after : FileTree α) : Prop :=
  ∀ place, before.isDirectory place = true → after.isDirectory place = true

theorem isDirectory_iff : tree.isDirectory place = true ↔ tree.node? place = some .directory := by
  rw [isDirectory]
  split <;> simp_all

theorem KeepsDirectories.enter (keeps : KeepsDirectories tree after)
    (h : tree.enter directory piece = .ok place) : after.enter directory piece = .ok place := by
  have there := keeps place (isDirectory_of_enter h)
  rw [isDirectory_iff] at there
  rw [FileTree.enter] at h ⊢
  split at h
  next => cases h
  next next leads =>
    split at h
    next =>
      obtain rfl := Except.ok.inj h
      simp only [there]
    next => cases h
    next => cases h

/-- A path that could be followed still can. -/
theorem KeepsDirectories.lookup (keeps : KeepsDirectories tree after)
    (h : tree.lookup path = .ok found) : after.lookup path = .ok found := by
  have all : ∀ (pieces : List String) (start : List String),
      pieces.foldlM tree.enter start = .ok found.directory →
        pieces.foldlM after.enter start = .ok found.directory := by
    intro pieces
    induction pieces with
    | nil => exact fun start same => same
    | cons piece pieces ih =>
      intro start followed
      rw [List.foldlM_cons] at followed ⊢
      obtain ⟨next, entered, rest⟩ := ok_of_bind followed
      rw [keeps.enter entered]
      exact ih next rest
  obtain ⟨followed, -⟩ := lookup_eq_ok h
  have same : after.lookup path = tree.lookup path := by
    rw [FileTree.lookup, FileTree.lookup, all _ _ followed, followed]
  exact same.trans h

/-- Nothing but directories was added. -/
def AddsDirectories (before after : FileTree α) : Prop :=
  ∀ place, after.node? place = before.node? place ∨
    before.node? place = none ∧ after.node? place = some .directory

theorem AddsDirectories.refl (tree : FileTree α) : AddsDirectories tree tree :=
  fun _ => .inl rfl

theorem AddsDirectories.trans (first : AddsDirectories tree made)
    (second : AddsDirectories made after) : AddsDirectories tree after := by
  intro place
  rcases first place with same | ⟨free, added⟩ <;>
    rcases second place with same' | ⟨free', added'⟩
  · exact .inl (same'.trans same)
  · exact .inr ⟨same.symm.trans free', added'⟩
  · exact .inr ⟨free, same'.trans added⟩
  · rw [added] at free'
    cases free'

theorem AddsDirectories.keepsDirectories (adds : AddsDirectories tree after) :
    KeepsDirectories tree after := by
  intro place there
  rw [isDirectory_iff] at there ⊢
  rcases adds place with same | ⟨-, added⟩
  · exact same.trans there
  · exact added

theorem AddsDirectories.content? (adds : AddsDirectories tree after) (place : List String) :
    after.content? place = tree.content? place := by
  rw [FileTree.content?, FileTree.content?]
  rcases adds place with same | ⟨free, added⟩
  · rw [same]
  · rw [free, added]

theorem node?_put_of_ne (apart : other ≠ place) :
    (tree.put place node).node? other = tree.node? other := by
  rw [node?_put, if_neg apart]
  split
  next given => rw [node?, if_pos given]
  next => rfl

theorem node?_put_self (free : isGiven place = false) :
    (tree.put place node).node? place = some node := by
  rw [node?_put, if_pos rfl, free]
  rfl

theorem isGiven_eq_false_of_node? (h : tree.node? place ≠ some .directory) :
    isGiven place = false := by
  cases given : isGiven place with
  | false => rfl
  | true =>
    rw [node?, given] at h
    exact absurd rfl h

theorem addsDirectories_put (free : tree.node? place = none) :
    AddsDirectories tree (tree.put place .directory) := by
  intro other
  by_cases here : other = place
  · subst here
    have notGiven : isGiven other = false :=
      isGiven_eq_false_of_node? fun there => nomatch free.symm.trans there
    exact .inr ⟨free, node?_put_self notGiven⟩
  · exact .inl (node?_put_of_ne here)

theorem addsDirectories_makeDirectory (h : tree.makeDirectory path = .ok made) :
    AddsDirectories tree made := by
  obtain ⟨found, -, h⟩ := ok_of_bind h
  split at h
  next => cases h
  next name _ =>
    obtain ⟨place, -, h⟩ := ok_of_bind h
    split at h
    next => cases h
    next free =>
      obtain rfl := Except.ok.inj h
      exact addsDirectories_put (by simpa using free)

theorem unlessDirectory_eq_ok {fault : FileFault}
    (h : tree.unlessDirectory path fault = .ok made) : made = tree := by
  rw [unlessDirectory] at h
  split at h
  next => exact (Except.ok.inj h).symm
  next => cases h

theorem addsDirectories_makeDirectoriesWithin {depth : Nat}
    (h : tree.makeDirectoriesWithin depth path = .ok made) : AddsDirectories tree made := by
  fun_induction makeDirectoriesWithin depth tree path generalizing made with
  | case1 =>
    obtain rfl := Except.ok.inj h
    exact .refl tree
  | case2 _ _ _ _ makes =>
    obtain rfl := Except.ok.inj h
    exact addsDirectories_makeDirectory makes
  | case3 path _ _ _ _ _ ih =>
    -- the directories above come first, then the directory itself, unless it came with them
    obtain ⟨above, makes, h⟩ := ok_of_bind h
    refine (ih makes).trans ?_
    split at h
    next made' makes' =>
      obtain rfl := Except.ok.inj h
      exact addsDirectories_makeDirectory makes'
    next =>
      obtain rfl := unlessDirectory_eq_ok h
      exact .refl _
  | case4 => cases h
  | case5 =>
    obtain rfl := unlessDirectory_eq_ok h
    exact .refl _

/-- Making directories only adds directories. -/
theorem addsDirectories_makeDirectories (h : tree.makeDirectories path = .ok made) :
    AddsDirectories tree made := addsDirectories_makeDirectoriesWithin h

/-- A file is written to the place of its path, where no directory may stand. -/
theorem write_eq_ok (h : tree.write path content = .ok after) :
    (∃ found, tree.lookup path = .ok found ∧ found.place = .ok (placeFor path)) ∧
      endsInSlash path = false ∧ tree.isDirectory (placeFor path) = false ∧
      after = tree.put (placeFor path) (.file content) := by
  obtain ⟨⟨there, _⟩, written, rfl⟩ := ok_of_map h
  obtain ⟨found, followed, written⟩ := ok_of_bind written
  split at written
  next => cases written
  next name isName =>
    split at written
    next => cases written
    next noSlash =>
      obtain ⟨place, leads, written⟩ := ok_of_bind written
      have leads' : found.place = .ok place := by
        obtain ⟨last, -⟩ := Option.filter_eq_some_iff.1 isName
        rw [Lookup.place, last]
        exact leads
      obtain rfl := placeFor_of_lookup followed leads'
      refine ⟨⟨found, followed, leads'⟩, by simpa using noSlash, ?_⟩
      split at written
      next => cases written
      next old isFile =>
        obtain ⟨rfl, rfl⟩ := Prod.mk.inj (Except.ok.inj written)
        exact ⟨by rw [isDirectory, isFile], rfl⟩
      next isFree =>
        obtain ⟨rfl, rfl⟩ := Prod.mk.inj (Except.ok.inj written)
        exact ⟨by rw [isDirectory, isFree], rfl⟩

theorem keepsDirectories_put (free : tree.isDirectory place = false) :
    KeepsDirectories tree (tree.put place node) := by
  intro other there
  have apart : other ≠ place := by
    rintro rfl
    rw [there] at free
    cases free
  rw [isDirectory_iff, node?_put_of_ne apart]
  exact isDirectory_iff.1 there

theorem content?_put (free : tree.isDirectory place = false) (other : List String) :
    (tree.put place (.file content)).content? other =
      if other = place then some content else tree.content? other := by
  have notGiven : isGiven place = false := isGiven_eq_false_of_node? fun there =>
    Bool.false_ne_true (free.symm.trans (isDirectory_iff.2 there))
  rw [FileTree.content?]
  split_ifs with here
  · subst here
    rw [node?_put_self notGiven]
  · rw [node?_put_of_ne here, FileTree.content?]

/-! ## Clearing a directory -/

/-- A tree in which the directory of a path was cleared: what it held is gone, and the rest is as
before. Where the path leads nowhere there is nothing to clear. -/
def Cleared (before : FileTree α) (path : String) (after : FileTree α) : Prop :=
  before.find path = .error .notFound ∧ after = before ∨
    before.find path = .ok (placeFor path, .directory) ∧
      (∀ place, placeFor path <+: place → after.content? place = none) ∧
      ∀ place, ¬ placeFor path <+: place → after.node? place = before.node? place

theorem node?_filter (keep : List String → Bool) :
    (⟨tree.nodes.filter fun node => keep node.1⟩ : FileTree α).node? place =
      if isGiven place then some .directory
      else if keep place then tree.node? place else none := by
  have each : ∀ nodes : List (List String × FileNode α),
      (nodes.filter fun node => keep node.1).lookup place =
        if keep place then nodes.lookup place else none := by
    intro nodes
    induction nodes with
    | nil => exact (ite_self none).symm
    | cons first nodes ih =>
      obtain ⟨there, node⟩ := first
      rw [List.lookup_cons, List.filter_cons]
      by_cases here : place = there
      · subst here
        cases kept : keep place <;> simp [kept, ih]
      · have apart : (place == there) = false := by simpa using here
        rw [apart]
        split
        · rw [List.lookup_cons, apart]
          exact ih
        · exact ih
  rw [node?, each, node?]
  split <;> rfl

theorem content?_filter (keep : List String → Bool) :
    (⟨tree.nodes.filter fun node => keep node.1⟩ : FileTree α).content? place =
      if keep place then tree.content? place else none := by
  rw [content?, node?_filter, content?]
  by_cases given : isGiven place = true
  · rw [if_pos given, node?, if_pos given]
    exact (ite_self none).symm
  · rw [if_neg given]
    cases keep place <;> rfl

/-- What is kept of a tree without what a directory held. -/
theorem cleared_filter (found : tree.find path = .ok (placeFor path, .directory))
    (keep : List String → Bool)
    (below : ∀ place, placeFor path <+: place → place ≠ placeFor path → keep place = false)
    (rest : ∀ place, ¬ placeFor path <+: place → keep place = true) :
    Cleared tree path ⟨tree.nodes.filter fun node => keep node.1⟩ := by
  refine .inr ⟨found, fun place inside => ?_, fun place outside => ?_⟩
  · rw [content?_filter]
    by_cases here : place = placeFor path
    · rw [here, content?, (find_eq_ok found).2]
      exact ite_self none
    · rw [below place inside here]
      rfl
  · rw [node?_filter, rest place outside]
    split
    next given => rw [node?, if_pos given]
    next => rfl

/-- The cleared directory itself may be removed too. -/
theorem Cleared.remove (h : Cleared tree path after)
    (found : tree.find path = .ok (placeFor path, .directory)) :
    Cleared tree path (after.remove (placeFor path)) := by
  rcases h with ⟨absent, -⟩ | ⟨-, inside, outside⟩
  · rw [found] at absent
    cases absent
  · refine .inr ⟨found, fun place below => ?_, fun place apart => ?_⟩
    · rw [FileTree.remove, content?_filter fun place => decide (place ≠ placeFor path),
        inside place below]
      exact ite_self none
    · have other : place ≠ placeFor path := fun same => apart (same ▸ List.prefix_rfl)
      rw [FileTree.remove, node?_filter fun place => decide (place ≠ placeFor path),
        if_pos (decide_eq_true other), outside place apart]
      split
      next given => rw [node?, if_pos given]
      next => rfl

theorem cleared_of_removeDirectory (h : tree.removeDirectory path = (after, none)) :
    Cleared tree path after := by
  rw [removeDirectory] at h
  split at h
  next absent => exact .inl ⟨absent, (Prod.mk.inj h).1.symm⟩
  next => cases (Prod.mk.inj h).2
  next => cases (Prod.mk.inj h).2
  next place found =>
    obtain ⟨rfl, -⟩ := find_eq_ok found
    have belowIff : ∀ place, isBelow (placeFor path) place = true ↔
        placeFor path <+: place ∧ place ≠ placeFor path := by
      intro place
      rw [isBelow, Bool.and_eq_true, List.isPrefixOf_iff_prefix, decide_eq_true_eq]
    have emptied : Cleared tree path (tree.removeBelow (placeFor path)) := by
      refine cleared_filter found (fun place => !isBelow (placeFor path) place)
        (fun place inside apart => ?_) fun place outside => ?_
      · rw [(belowIff place).2 ⟨inside, apart⟩]
        rfl
      · rw [Bool.not_eq_true', Bool.eq_false_iff]
        exact fun inside => outside ((belowIff place).1 inside).1
    dsimp only at h
    split at h
    next => exact (Prod.mk.inj h).1 ▸ emptied
    next => cases (Prod.mk.inj h).2
    next =>
      split at h
      next => cases (Prod.mk.inj h).2
      next =>
        split at h
        next => cases (Prod.mk.inj h).2
        next => exact (Prod.mk.inj h).1 ▸ emptied.remove found

/-- Everything in the tree lies in a directory. -/
def Closed (tree : FileTree α) : Prop :=
  ∀ place name, (tree.node? (place ++ [name])).isSome → tree.isDirectory place = true

/-- Where nothing stands nothing lies below either. -/
theorem Closed.node?_eq_none (closed : tree.Closed) (free : tree.node? place = none)
    (below : place <+: other) : tree.node? other = none := by
  obtain ⟨names, rfl⟩ := below
  induction names using List.reverseRecOn with
  | nil => rwa [List.append_nil]
  | append_singleton names name ih =>
    rw [← List.append_assoc]
    cases stands : tree.node? (place ++ names ++ [name]) with
    | none => rfl
    | some node =>
      have there := closed _ name (by rw [stands]; rfl)
      rw [isDirectory_iff, ih] at there
      cases there

/-- Without a step upwards a path only goes on from where it starts. -/
theorem prefix_foldl_follow {pieces : List String} (plain : ".." ∉ pieces) :
    directory <+: pieces.foldl follow directory := by
  induction pieces generalizing directory with
  | nil => exact List.prefix_rfl
  | cons piece pieces ih =>
    rw [List.mem_cons, not_or] at plain
    obtain ⟨here, rest⟩ := plain
    refine List.IsPrefix.trans ?_ (ih rest)
    rw [follow, if_neg (Ne.symm here)]
    split
    next => exact List.prefix_rfl
    next => exact List.prefix_append _ _

theorem placeOf_ne_notFound : placeOf directory piece ≠ .error .notFound := by
  rw [placeOf]
  split <;> intro same <;> cases same

theorem node?_of_enter_notFound (h : tree.enter directory piece = .error .notFound) :
    tree.node? (follow directory piece) = none := by
  rw [enter] at h
  split at h
  next fault refused =>
    obtain rfl := Except.error.inj h
    exact absurd refused placeOf_ne_notFound
  next place leads =>
    obtain rfl := follow_of_placeOf leads
    split at h
    next => cases h
    next => cases h
    next free => exact free

theorem exists_free_of_foldlM_enter {pieces : List String} (plain : ".." ∉ pieces)
    (h : pieces.foldlM tree.enter directory = .error .notFound) :
    ∃ place, place <+: pieces.foldl follow directory ∧ tree.node? place = none := by
  induction pieces generalizing directory with
  | nil => cases h
  | cons piece pieces ih =>
    rw [List.foldlM_cons] at h
    have rest : ".." ∉ pieces := fun mem => plain (List.mem_cons_of_mem _ mem)
    cases entered : tree.enter directory piece with
    | error fault =>
      rw [entered] at h
      obtain rfl := Except.error.inj h
      refine ⟨follow directory piece, ?_, node?_of_enter_notFound entered⟩
      exact prefix_foldl_follow rest
    | ok next =>
      rw [entered] at h
      rw [List.foldl_cons, ← follow_of_enter entered]
      exact ih rest h

theorem foldlM_of_lookup_notFound (some : path ≠ "") (h : tree.lookup path = .error .notFound) :
    (piecesOf path).dropLast.foldlM tree.enter (if Path.isAbsolute path then root else []) =
      .error .notFound := by
  rw [lookup] at h
  split at h
  next => cases h
  next =>
    split at h
    next empty => exact absurd (String.isEmpty_iff.1 empty) some
    next =>
      split at h
      next => cases h
      next =>
        cases followed : (piecesOf path).dropLast.foldlM tree.enter
            (if Path.isAbsolute path then root else []) with
        | error fault =>
          rw [followed] at h
          rw [Except.error.inj h]
        | ok directory =>
          rw [followed] at h
          cases h

/-- A path without a step upwards that leads nowhere passes a place where nothing stands. -/
theorem exists_free_of_find (plain : ".." ∉ piecesOf path) (some : path ≠ "")
    (absent : tree.find path = .error .notFound) :
    ∃ place, place <+: placeFor path ∧ tree.node? place = none := by
  cases followed : tree.lookup path with
  | error fault =>
    rw [find, followed] at absent
    obtain rfl := Except.error.inj absent
    have before : ".." ∉ (piecesOf path).dropLast := fun mem =>
      plain ((List.dropLast_sublist _).mem mem)
    obtain ⟨place, inside, free⟩ :=
      exists_free_of_foldlM_enter before (foldlM_of_lookup_notFound some followed)
    obtain ⟨last, pieces⟩ := List.dropLast_prefix (piecesOf path)
    have rest : ".." ∉ last := fun mem => plain (pieces ▸ List.mem_append_right _ mem)
    have whole : placeFor path = last.foldl follow ((piecesOf path).dropLast.foldl follow
        (if Path.isAbsolute path then root else [])) := by
      rw [← List.foldl_append, pieces]
      rfl
    exact ⟨place, whole ▸ inside.trans (prefix_foldl_follow rest), free⟩
  | ok found =>
    rw [find, followed] at absent
    simp only [bind, Except.bind] at absent
    cases leads : found.place with
    | error fault =>
      rw [leads] at absent
      obtain rfl := Except.error.inj absent
      rw [Lookup.place] at leads
      split at leads
      next => exact absurd leads placeOf_ne_notFound
      next => cases leads
    | ok place =>
      obtain rfl := placeFor_of_lookup followed leads
      refine ⟨placeFor path, List.prefix_rfl, ?_⟩
      rw [leads] at absent
      dsimp only at absent
      split at absent
      next free => exact free
      next => cases absent
      next => split at absent <;> cases absent

/-- Where a path has no step upwards, nothing is left at its place or below. -/
theorem Cleared.content?_eq_none (cleared : Cleared tree path after) (closed : tree.Closed)
    (plain : ".." ∉ piecesOf path) (some : path ≠ "") (below : placeFor path <+: place) :
    after.content? place = none := by
  rcases cleared with ⟨absent, rfl⟩ | ⟨-, inside, -⟩
  · obtain ⟨free, before, none⟩ := exists_free_of_find plain some absent
    rw [content?, closed.node?_eq_none none (before.trans below)]
  · exact inside place below

end FileTree

end DesignTables
