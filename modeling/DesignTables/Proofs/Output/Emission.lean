import DesignTables.Proofs.Output.Tree

/-!
# What a run of writes comes to

Every file that is written extends what was done so far; when all could be written, a place holds
what was written there last, and what it held before where nothing was written.
-/
namespace DesignTables

open FileTree

variable {α : Type} {ofText : String → α}

/-- The last of some files that lead to a place. -/
def Output.lastAt? (files : List OutputFile) (place : List String) : Option OutputFile :=
  files.reverse.find? fun file => placeFor file.path = place

theorem Output.lastAt?_append (files others : List OutputFile) (place : List String) :
    lastAt? (files ++ others) place = (lastAt? others place).or (lastAt? files place) := by
  simp only [lastAt?, List.reverse_append, List.find?_append]

/-- Some file is the last one to lead to the place of a file. -/
theorem Output.exists_lastAt? {files : List OutputFile} {file : OutputFile} (mem : file ∈ files) :
    ∃ last ∈ files, lastAt? files (placeFor file.path) = some last ∧
      placeFor last.path = placeFor file.path := by
  have some : (lastAt? files (placeFor file.path)).isSome :=
    List.find?_isSome.2 ⟨file, List.mem_reverse.2 mem, decide_eq_true rfl⟩
  obtain ⟨last, found⟩ := Option.isSome_iff_exists.1 some
  refine ⟨last, List.mem_reverse.1 (List.mem_of_find?_eq_some found), found, ?_⟩
  simpa using List.find?_some found

namespace Emission

/-- What the tree of a successful emission is to the tree before some of its files. -/
structure Extends (ofText : String → α) (files : List OutputFile) (start last : Emission α) :
    Prop where
  written : last.written = start.written ++ files
  directories : KeepsDirectories start.tree last.tree
  content : ∀ place, last.tree.content? place =
    ((Output.lastAt? files place).map fun file => ofText file.content.text).or
      (start.tree.content? place)
  /-- The path of every file leads to its place. -/
  leads : ∀ file ∈ files, (∃ found, last.tree.lookup file.path = .ok found ∧
    found.place = .ok (placeFor file.path)) ∧ endsInSlash file.path = false

variable {start middle last : Emission α} {files others : List OutputFile} {file : OutputFile}
variable {tree after : FileTree α} {path text : String}

theorem Extends.refl (ofText : String → α) (start : Emission α) :
    Extends ofText [] start start where
  written := (List.append_nil _).symm
  directories := fun _ there => there
  content := fun _ => rfl
  leads := fun _ mem => absurd mem List.not_mem_nil

theorem Extends.trans (first : Extends ofText files start middle)
    (second : Extends ofText others middle last) :
    Extends ofText (files ++ others) start last where
  written := by rw [second.written, first.written, List.append_assoc]
  directories := fun place there => second.directories place (first.directories place there)
  content := by
    intro place
    rw [second.content, first.content, Output.lastAt?_append, Option.map_or]
    exact (Option.or_assoc ..).symm
  leads := by
    intro file mem
    rcases List.mem_append.1 mem with mem | mem
    · obtain ⟨⟨found, followed, place⟩, noSlash⟩ := first.leads file mem
      exact ⟨⟨found, second.directories.lookup followed, place⟩, noSlash⟩
    · exact second.leads file mem

theorem writeFile_eq_ok (h : writeFile ofText tree path text = .ok after) :
    ∃ made, AddsDirectories tree made ∧ made.write path (ofText text) = .ok after := by
  unfold writeFile at h
  dsimp only at h
  cases makes : tree.makeDirectories ((Path.parent? path).getD "") with
  | error fault =>
    rw [makes] at h
    cases h
  | ok made =>
    rw [makes] at h
    exact ⟨made, addsDirectories_makeDirectories makes, ok_of_mapError h⟩

/-- A failure stays. -/
theorem failure_next_of_failure (h : start.failure.isSome) :
    (next ofText start file).failure.isSome := by
  rw [next, if_pos h]
  exact h

theorem next_of_healthy (h : start.failure = none) : next ofText start file =
    match writeFile ofText start.tree file.path file.content.text with
    | .ok tree => { start with tree := tree, written := start.written ++ [file] }
    | .error failure => { start with failure := some failure } := by
  rw [next, h]
  exact if_neg Bool.false_ne_true

/-- A file that could be written extends what was done. -/
theorem extends_next (h : (next ofText start file).failure = none) :
    start.failure = none ∧ Extends ofText [file] start (next ofText start file) := by
  have healthy : start.failure = none := by
    cases failed : start.failure with
    | none => rfl
    | some failure =>
      have still : (next ofText start file).failure.isSome :=
        failure_next_of_failure (by rw [failed]; rfl)
      rw [h] at still
      cases still
  refine ⟨healthy, ?_⟩
  rw [next_of_healthy healthy] at h ⊢
  cases writes : writeFile ofText start.tree file.path file.content.text with
  | error failure =>
    rw [writes] at h
    cases h
  | ok after =>
    obtain ⟨made, adds, written⟩ := writeFile_eq_ok writes
    obtain ⟨⟨found, followed, place⟩, noSlash, free, rfl⟩ := write_eq_ok written
    have put : KeepsDirectories made (made.put (placeFor file.path)
      (.file (ofText file.content.text))) := keepsDirectories_put free
    refine ⟨rfl, fun place there => put place (adds.keepsDirectories place there), ?_, ?_⟩
    · intro place
      dsimp only
      rw [content?_put free, adds.content?, Output.lastAt?, List.reverse_singleton,
        List.find?_singleton]
      by_cases here : place = placeFor file.path
      · simp [here]
      · simp [here, Ne.symm here]
    · intro other mem
      obtain rfl := List.mem_singleton.1 mem
      exact ⟨⟨found, put.lookup followed, place⟩, noSlash⟩

/-- Files that could all be written extend what was done. -/
theorem extends_foldl_next (h : (files.foldl (next ofText) start).failure = none) :
    start.failure = none ∧ Extends ofText files start (files.foldl (next ofText) start) := by
  induction files generalizing start with
  | nil => exact ⟨h, .refl ofText start⟩
  | cons file files ih =>
    obtain ⟨healthy, others⟩ := ih h
    obtain ⟨healthy, first⟩ := extends_next healthy
    exact ⟨healthy, first.trans others⟩

/-- What a successful emission comes to. -/
structure Completes (ofText : String → α) (tree : FileTree α) (root : String)
    (files : List OutputFile) (emission : Emission α) : Prop where
  written : emission.written = files
  /-- Every place holds what was written there last, and apart from that what is left of the tree in
  which the output root was cleared. -/
  content : ∃ cleared, Cleared tree root cleared ∧ ∀ place, emission.tree.content? place =
    ((Output.lastAt? files place).map fun file => ofText file.content.text).or
      (cleared.content? place)
  /-- The path of every file leads to its place. -/
  read : ∀ file ∈ files,
    emission.tree.read? file.path = emission.tree.content? (placeFor file.path)

theorem read?_eq_content? {found : Lookup} (followed : tree.lookup path = .ok found)
    (place : found.place = .ok (placeFor path)) (noSlash : endsInSlash path = false) :
    tree.read? path = tree.content? (placeFor path) := by
  rw [read?, find, followed, content?, noSlash]
  simp only [bind, Except.bind, place]
  cases tree.node? (placeFor path) with
  | none => rfl
  | some node => cases node <;> rfl

/-- Files that are written one after the other in a cleared root, if nothing goes wrong, end up at
their places. -/
theorem completes_ofFiles {root : String} (h : (ofFiles ofText tree root files).failure = none) :
    Completes ofText tree root files (ofFiles ofText tree root files) := by
  rw [ofFiles] at h ⊢
  split at h
  next => cases h
  next cleared clears =>
    split at h
    next => cases h
    next made makes =>
      obtain ⟨-, done⟩ := extends_foldl_next h
      have adds := addsDirectories_makeDirectories makes
      refine ⟨done.written, ⟨cleared, cleared_of_removeDirectory clears, fun place => ?_⟩, ?_⟩
      · rw [done.content, adds.content?]
      · intro file mem
        obtain ⟨⟨found, followed, place⟩, noSlash⟩ := done.leads file mem
        exact read?_eq_content? followed place noSlash

end Emission

end DesignTables
