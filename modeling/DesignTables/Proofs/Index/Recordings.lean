import DesignTables.Proofs.Index.Unions
import DesignTables.Proofs.Lists
import Mathlib.Logic.Relation

/-!
# Recordings that are spread over many indexes

An index that was filled on its own is taken into another one entry by entry, in an order that is
not fixed. As its keys are pairwise different the order does not show: after all parts were taken
in, one after the other, a key has the value of its first recording in the parts put together. So
the work can be divided anywhere. And what a key was once read as it is read as for good, whatever
is recorded or taken in later.
-/
namespace DesignTables

/-- The first answer in lists that are put together is that of the first list with one. -/
theorem findSome?_flatten {α υ : Type} (answer : α → Option υ) (parts : List (List α)) :
    parts.flatten.findSome? answer = parts.findSome? (·.findSome? answer) := by
  induction parts with
  | nil => rfl
  | cons part parts ih =>
    rw [List.flatten_cons, List.findSome?_append, ih, List.findSome?_cons]
    cases part.findSome? answer <;> rfl

namespace KeyTable

variable {α β : Type} [DecidableEq α] {a b whole next later : KeyTable α β} {key : α} {value : β}

/-- The table in which entries were recorded one after the other. -/
def recordAll (entries : List (α × β)) : KeyTable α β :=
  entries.foldl (fun table entry => table.record entry.1 entry.2) empty

/-- Tables that are taken into a first one from left to right, the entries of each in any order. -/
inductive Gathers : KeyTable α β → List (KeyTable α β) → KeyTable α β → Prop
  | nil (whole : KeyTable α β) : Gathers whole [] whole
  | cons {whole part arranged last : KeyTable α β} {parts : List (KeyTable α β)}
      (perm : arranged.entries.Perm part.entries)
      (rest : Gathers (whole.absorb arranged) parts last) : Gathers whole (part :: parts) last

/-- What may happen to a table: an entry is recorded, or another table is taken in. -/
inductive Step : KeyTable α β → KeyTable α β → Prop
  | record (table : KeyTable α β) (key : α) (value : β) : Step table (table.record key value)
  | absorb (table other : KeyTable α β) : Step table (table.absorb other)

/-- Two tables hold the same entries when every key reads alike in them. -/
theorem perm_entries_iff : a.entries.Perm b.entries ↔ ∀ key, a.get? key = b.get? key := by
  constructor
  · intro perm key
    refine Option.ext fun value => ?_
    rw [← mem_entries_iff, ← mem_entries_iff, perm.mem_iff]
  · intro same
    refine (List.perm_ext_iff_of_nodup (.of_map _ a.nodup) (.of_map _ b.nodup)).2 ?_
    rintro ⟨key, value⟩
    rw [mem_entries_iff, mem_entries_iff, same]

/-- A key has the value of its first recording. -/
theorem get?_recordAll (entries : List (α × β)) (key : α) :
    (recordAll entries).get? key =
      entries.findSome? fun entry => if key = entry.1 then some entry.2 else none := by
  have recorded : ∀ (table : KeyTable α β) (entry : α × β), (table.record entry.1 entry.2).get? key =
      (table.get? key).or (if key = entry.1 then some entry.2 else none) := by
    intro table entry
    rw [get?_record]
    split
    next same => rw [same]
    next => rw [Option.or_none]
  rw [recordAll]
  exact (foldl_first_reading (fun table : KeyTable α β => table.get? key) _ recorded entries
    empty).trans (Option.none_or ..)

/-- Of tables that were gathered the first one with a key decides. -/
theorem Gathers.get? {parts : List (KeyTable α β)} (h : Gathers whole parts later) (key : α) :
    later.get? key = (whole.get? key).or (parts.findSome? (·.get? key)) := by
  induction h with
  | nil whole => rw [List.findSome?_nil, Option.or_none]
  | @cons whole part arranged last parts perm rest ih =>
    rw [ih, get?_absorb, perm_entries_iff.1 perm key, Option.or_assoc, List.findSome?_cons]
    cases part.get? key <;> rfl

/-- Gathering what was recorded in parts gives the entries that recording all of it gives. -/
theorem Gathers.perm_recordAll {begun : List (α × β)} {parts : List (List (α × β))}
    (h : Gathers (recordAll begun) (parts.map recordAll) whole) :
    whole.entries.Perm (recordAll (begun ++ parts.flatten)).entries := by
  refine perm_entries_iff.2 fun key => ?_
  have each : (fun table : KeyTable α β => table.get? key) ∘ recordAll =
      (·.findSome? fun entry => if key = entry.1 then some entry.2 else none) :=
    funext fun part => get?_recordAll part key
  rw [h.get?, List.findSome?_map, each, get?_recordAll, get?_recordAll, List.findSome?_append,
    findSome?_flatten]

/-- Taking in the tables as they are is one way to gather them. -/
theorem gathers_foldl (whole : KeyTable α β) (parts : List (KeyTable α β)) :
    Gathers whole parts (parts.foldl absorb whole) := by
  induction parts generalizing whole with
  | nil => exact .nil whole
  | cons part parts ih => exact .cons (.refl _) (ih _)

theorem Step.get? (step : Step whole next) (known : whole.get? key = some value) :
    next.get? key = some value := by
  cases step with
  | record other given =>
    rw [get?_record]
    split
    next same => rw [← same, known, Option.some_or]
    next => exact known
  | absorb other => rw [get?_absorb, known, Option.some_or]

/-- What a key was once read as it is read as after any number of steps. -/
theorem get?_of_steps (steps : Relation.ReflTransGen Step whole later)
    (known : whole.get? key = some value) : later.get? key = some value := by
  induction steps with
  | refl => exact known
  | tail _ step ih => exact step.get? ih

end KeyTable

namespace ReferenceIndex

/-- A raw value of an origin, with the value that is linked to it. -/
structure Recording where
  origin : String
  raw : String
  linked : String

/-- The entry that a recording comes to. -/
def Recording.entry (given : Recording) : (String × String) × String :=
  ((Text.lower given.origin, given.raw), if given.linked.isEmpty then given.raw else given.linked)

/-- The index in which values were recorded one after the other. -/
def ofRecordings (recordings : List Recording) : ReferenceIndex :=
  recordings.foldl (fun index given => index.record given.origin given.raw given.linked) empty

/-- What may happen to an index: a value is recorded, or another index is taken in. -/
inductive Step : ReferenceIndex → ReferenceIndex → Prop
  | record (index : ReferenceIndex) (origin raw linked : String) :
      Step index (index.record origin raw linked)
  | absorb (index other : ReferenceIndex) : Step index (index.absorb other)

/-- Two indexes have the same origins, and every raw value of an origin resolves alike in them. -/
structure Agrees (a b : ReferenceIndex) : Prop where
  origins : a.origins.Perm b.origins
  resolve? : ∀ origin raw, a.resolve? origin raw = b.resolve? origin raw

variable {index later a b : ReferenceIndex} {origin : String}

theorem resolved_ofRecordings (recordings : List Recording) :
    (ofRecordings recordings).resolved = KeyTable.recordAll (recordings.map Recording.entry) := by
  rw [ofRecordings, KeyTable.recordAll, List.foldl_map]
  exact (List.foldl_hom ReferenceIndex.resolved fun _ _ => rfl).symm

theorem mem_origins_iff : origin ∈ index.origins ↔ index.hasOrigin origin = true := by
  simp [origins, KeyTable.keys, hasOrigin]

/-- Indexes with the same entries agree. -/
theorem agrees_of_perm (perm : a.resolved.entries.Perm b.resolved.entries) : a.Agrees b := by
  have same : ∀ origin raw, a.resolve? origin raw = b.resolve? origin raw :=
    fun origin raw => KeyTable.perm_entries_iff.1 perm (origin, raw)
  refine ⟨(List.perm_ext_iff_of_nodup (nodup_eraseDups _) (nodup_eraseDups _)).2 fun origin => ?_,
    same⟩
  exact mem_origins_iff.trans
    ((Bool.eq_iff_iff.1 (hasOrigin_congr (same origin))).trans mem_origins_iff.symm)

/-- What was recorded in parts and gathered agrees with what was recorded one after the other. -/
theorem agrees_of_gathers {begun : List Recording} {parts : List (List Recording)}
    (gathers : KeyTable.Gathers (ofRecordings begun).resolved
      ((parts.map ofRecordings).map (·.resolved)) a.resolved) :
    a.Agrees (ofRecordings (begun ++ parts.flatten)) := by
  refine agrees_of_perm ?_
  have tables : (parts.map ofRecordings).map (·.resolved) =
      (parts.map (·.map Recording.entry)).map KeyTable.recordAll := by
    rw [List.map_map, List.map_map]
    exact List.map_congr_left fun part _ => resolved_ofRecordings part
  rw [tables, resolved_ofRecordings] at gathers
  rw [resolved_ofRecordings, List.map_append, List.map_flatten]
  exact gathers.perm_recordAll

theorem Step.resolved (step : Step index later) :
    KeyTable.Step index.resolved later.resolved := by
  cases step with
  | record origin raw linked => exact .record ..
  | absorb other => exact .absorb ..

end ReferenceIndex

namespace SizeIndex

/-- An element count of a cell. -/
structure Recording where
  table : String
  slot : Nat
  row : Nat
  size : Nat

/-- The entry that a recording comes to. -/
def Recording.entry (given : Recording) : (String × Nat × Nat) × Nat :=
  ((given.table, given.slot, given.row), given.size)

/-- The index in which counts were recorded one after the other. -/
def ofRecordings (recordings : List Recording) : SizeIndex :=
  recordings.foldl (fun index given => index.record given.table given.slot given.row given.size)
    empty

/-- What may happen to an index: a count is recorded, or another index is taken in. -/
inductive Step : SizeIndex → SizeIndex → Prop
  | record (index : SizeIndex) (table : String) (slot row size : Nat) :
      Step index (index.record table slot row size)
  | absorb (index other : SizeIndex) : Step index (index.absorb other)

/-- Two indexes have the same number of counts, and every cell has the same count in them. -/
structure Agrees (a b : SizeIndex) : Prop where
  count : a.count = b.count
  get? : ∀ table slot row, a.get? table slot row = b.get? table slot row

variable {index later a b : SizeIndex}

theorem sizes_ofRecordings (recordings : List Recording) :
    (ofRecordings recordings).sizes = KeyTable.recordAll (recordings.map Recording.entry) := by
  rw [ofRecordings, KeyTable.recordAll, List.foldl_map]
  exact (List.foldl_hom SizeIndex.sizes fun _ _ => rfl).symm

/-- Indexes with the same entries agree. -/
theorem agrees_of_perm (perm : a.sizes.entries.Perm b.sizes.entries) : a.Agrees b :=
  ⟨perm.length_eq, fun table slot row => KeyTable.perm_entries_iff.1 perm (table, slot, row)⟩

/-- What was recorded in parts and gathered agrees with what was recorded one after the other. -/
theorem agrees_of_gathers {begun : List Recording} {parts : List (List Recording)}
    (gathers : KeyTable.Gathers (ofRecordings begun).sizes
      ((parts.map ofRecordings).map (·.sizes)) a.sizes) :
    a.Agrees (ofRecordings (begun ++ parts.flatten)) := by
  refine agrees_of_perm ?_
  have tables : (parts.map ofRecordings).map (·.sizes) =
      (parts.map (·.map Recording.entry)).map KeyTable.recordAll := by
    rw [List.map_map, List.map_map]
    exact List.map_congr_left fun part _ => sizes_ofRecordings part
  rw [tables, sizes_ofRecordings] at gathers
  rw [sizes_ofRecordings, List.map_append, List.map_flatten]
  exact gathers.perm_recordAll

theorem Step.sizes (step : Step index later) : KeyTable.Step index.sizes later.sizes := by
  cases step with
  | record table slot row size => exact .record ..
  | absorb other => exact .absorb ..

end SizeIndex

/-- Taking in indexes as they are is one way to gather their entries. -/
theorem ReferenceIndex.gathers_foldl (whole : ReferenceIndex) (parts : List ReferenceIndex) :
    KeyTable.Gathers whole.resolved (parts.map (·.resolved)) (parts.foldl absorb whole).resolved := by
  have step : (parts.foldl absorb whole).resolved =
      (parts.map (·.resolved)).foldl KeyTable.absorb whole.resolved := by
    rw [List.foldl_map]
    exact (List.foldl_hom ReferenceIndex.resolved fun _ _ => rfl).symm
  exact step ▸ KeyTable.gathers_foldl _ _

theorem SizeIndex.gathers_foldl (whole : SizeIndex) (parts : List SizeIndex) :
    KeyTable.Gathers whole.sizes (parts.map (·.sizes)) (parts.foldl absorb whole).sizes := by
  have step : (parts.foldl absorb whole).sizes =
      (parts.map (·.sizes)).foldl KeyTable.absorb whole.sizes := by
    rw [List.foldl_map]
    exact (List.foldl_hom SizeIndex.sizes fun _ _ => rfl).symm
  exact step ▸ KeyTable.gathers_foldl _ _

/-- Indexes that were filled in parts agree, once they are gathered, with the one in which all
recordings were made one after the other, whatever the order of the entries of each; so they do when
they are folded as they are. In every index what was once read is read after any number of steps. -/
theorem gathered_agrees :
    (∀ (begun : List ReferenceIndex.Recording) (parts : List (List ReferenceIndex.Recording))
      (whole : ReferenceIndex),
      KeyTable.Gathers (ReferenceIndex.ofRecordings begun).resolved
        ((parts.map ReferenceIndex.ofRecordings).map (·.resolved)) whole.resolved →
      whole.Agrees (.ofRecordings (begun ++ parts.flatten))) ∧
    (∀ parts : List (List ReferenceIndex.Recording),
      ((parts.map ReferenceIndex.ofRecordings).foldl ReferenceIndex.absorb .empty).Agrees
        (.ofRecordings parts.flatten)) ∧
    (∀ (begun : List SizeIndex.Recording) (parts : List (List SizeIndex.Recording))
      (whole : SizeIndex),
      KeyTable.Gathers (SizeIndex.ofRecordings begun).sizes
        ((parts.map SizeIndex.ofRecordings).map (·.sizes)) whole.sizes →
      whole.Agrees (.ofRecordings (begun ++ parts.flatten))) ∧
    (∀ parts : List (List SizeIndex.Recording),
      ((parts.map SizeIndex.ofRecordings).foldl SizeIndex.absorb .empty).Agrees
        (.ofRecordings parts.flatten)) ∧
    (∀ (index later : ReferenceIndex), Relation.ReflTransGen ReferenceIndex.Step index later →
      ∀ origin raw value, index.resolve? origin raw = some value →
        later.resolve? origin raw = some value) ∧
    (∀ (index later : SizeIndex), Relation.ReflTransGen SizeIndex.Step index later →
      ∀ table slot row size, index.get? table slot row = some size →
        later.get? table slot row = some size) := by
  refine ⟨fun begun parts whole gathers => ReferenceIndex.agrees_of_gathers gathers,
    fun parts => ?_, fun begun parts whole gathers => SizeIndex.agrees_of_gathers gathers,
    fun parts => ?_, fun index later steps origin raw value known => ?_,
    fun index later steps table slot row size known => ?_⟩
  · have gathers := ReferenceIndex.gathers_foldl (.ofRecordings []) (parts.map .ofRecordings)
    exact ReferenceIndex.agrees_of_gathers gathers
  · have gathers := SizeIndex.gathers_foldl (.ofRecordings []) (parts.map .ofRecordings)
    exact SizeIndex.agrees_of_gathers gathers
  · exact KeyTable.get?_of_steps (steps.lift ReferenceIndex.resolved fun _ _ step => step.resolved)
      known
  · exact KeyTable.get?_of_steps (steps.lift SizeIndex.sizes fun _ _ step => step.sizes) known

/-- Arms that one sheet recorded. -/
def swords : List ReferenceIndex.Recording :=
  [⟨"Item/ID", "1001", ""⟩, ⟨"item/id", "1001", "sword"⟩]

/-- Arms that another sheet recorded, one of them known already. -/
def bows : List ReferenceIndex.Recording :=
  [⟨"item/id", "1001", "axe"⟩, ⟨"item/id", "1002", "bow"⟩]

/-- The index of all arms, for which the later ones were taken in with the last one first. -/
def arms : ReferenceIndex :=
  ⟨(ReferenceIndex.ofRecordings swords).resolved.absorb
    { entries := [(("item/id", "1002"), "bow"), (("item/id", "1001"), "axe")] }⟩

/-- The arms agree with the index in which both sheets were recorded, and stay as they are when more
is recorded; and so it is with counts that were recorded apart. -/
theorem gathered_agrees_arms :
    arms.Agrees (.ofRecordings (swords ++ bows)) ∧
    ((arms.record "item/id" "1002" "sling").absorb (.ofRecordings bows)).resolve? "item/id" "1002" =
      some "bow" ∧
    (((SizeIndex.ofRecordings [⟨"item", 2, 4, 3⟩]).absorb
      (.ofRecordings [⟨"item", 2, 4, 5⟩, ⟨"item", 2, 5, 1⟩])).Agrees
      (.ofRecordings [⟨"item", 2, 4, 3⟩, ⟨"item", 2, 4, 5⟩, ⟨"item", 2, 5, 1⟩])) ∧
    ((SizeIndex.ofRecordings [⟨"item", 2, 4, 3⟩]).record "item" 2 4 5).get? "item" 2 4 = some 3 := by
  obtain ⟨references, -, sizes, -, resolved, counted⟩ := gathered_agrees
  have known : arms.resolve? "item/id" "1002" = some "bow" := by decide
  exact ⟨references swords [bows] arms (.cons (by decide) (.nil _)),
    resolved arms _ (.tail (.single (.record ..)) (.absorb ..)) _ _ _ known,
    sizes [⟨"item", 2, 4, 3⟩] [[⟨"item", 2, 4, 5⟩, ⟨"item", 2, 5, 1⟩]] _ (.cons (.refl _) (.nil _)),
    counted _ _ (.single (.record ..)) _ _ _ _ (by decide)⟩

end DesignTables
