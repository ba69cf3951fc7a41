import DesignTables.Merge.Shards
import DesignTables.Merge.Unify
import DesignTables.Proofs.Lists
import Mathlib.Data.List.Forall2

/-!
# The division of a merge table into shards

`ShardPlan.Divides` says what a division of rows by their keys is: the distinct keys in ascending
order, cut into shards of one size, each with all rows of its keys. A table whose cells all have a
source is divided exactly when the group field of every row is an integer; otherwise the rows where
it is not are reported, each at its source. Every table of a merge group has such sources.
-/
namespace DesignTables

/-- What a division of rows into shards of a size comes to; `keys` holds the key of every row. -/
structure ShardPlan.Divides (plan : ShardPlan) (size : Nat) (keys : List Int) : Prop where
  numbers : plan.shards.map (·.number) = (List.range plan.shards.length).map (· + 1)
  ascending : (plan.shards.flatMap (·.keys)).Pairwise (· < ·)
  mem_keys : ∀ key, key ∈ plan.shards.flatMap (·.keys) ↔ key ∈ keys
  full : ∀ shard ∈ plan.shards.dropLast, shard.keys.length = size
  last : ∀ shard ∈ plan.shards.getLast?, 1 ≤ shard.keys.length ∧ shard.keys.length ≤ size
  rows : (plan.shards.flatMap (·.rows)).Perm (List.range keys.length)
  /-- A row is in the shard of its key. -/
  mem_rows : ∀ shard ∈ plan.shards, ∀ position,
    position ∈ shard.rows ↔ ∃ key ∈ shard.keys, keys[position]? = some key
  /-- The rows of one key keep their order. -/
  order : (plan.shards.flatMap (·.rows)).Pairwise fun a b => keys[a]? = keys[b]? → a < b
  shardOf? : ∀ key number,
    plan.shardOf? key = some number ↔ (key, number) ∈ plan.indexEntries

/-! ## Cutting a list into pieces of one size -/

/-- The first pieces of a list come to its start. -/
theorem flatMap_pieces {α : Type} (xs : List α) (size count : Nat) :
    (List.range count).flatMap (fun i => (xs.drop (i * size)).take size) =
      xs.take (count * size) := by
  induction count with
  | zero => simp
  | succ count ih => simp [List.range_succ, ih, Nat.succ_mul, List.take_add]

theorem length_piece {α : Type} (xs : List α) (size i : Nat) :
    ((xs.drop (i * size)).take size).length = min size (xs.length - i * size) := by
  rw [List.length_take, List.length_drop]

/-- The number of pieces that a list of a length is cut into. -/
def pieceCount (length size : Nat) : Nat := (length + size - 1) / size

theorem length_le_pieceCount {length size : Nat} (hs : 0 < size) :
    length ≤ pieceCount length size * size := by
  have h := Nat.lt_div_mul_add (a := length + size - 1) hs
  rw [pieceCount]
  omega

/-- Before every piece something is left. -/
theorem mul_lt_of_lt_pieceCount {length size i : Nat} (hs : 0 < size)
    (hi : i < pieceCount length size) : i * size < length := by
  have h := (Nat.le_div_iff_mul_le hs).1 (Nat.succ_le_of_lt hi)
  rw [Nat.succ_mul] at h
  omega

/-! ## Rows by their keys -/

theorem eraseDups_sublist {α : Type} [BEq α] [LawfulBEq α] (xs : List α) :
    xs.eraseDups.Sublist xs := by
  match xs with
  | [] => exact .slnil
  | x :: rest =>
    rw [List.eraseDups_cons]
    exact ((eraseDups_sublist _).trans List.filter_sublist).cons_cons x
termination_by xs.length
decreasing_by
  have := List.length_filter_le (fun y => !y == x) rest
  rw [List.length_cons]
  omega

/-- Members gathered under distinct keys are those that have one of the keys. -/
theorem flatMap_filter_perm {α κ : Type} [DecidableEq κ] (key : α → κ) (xs : List α) {ks : List κ}
    (nodup : ks.Nodup) :
    (ks.flatMap fun k => xs.filter (key · == k)).Perm (xs.filter fun x => decide (key x ∈ ks)) := by
  induction ks with
  | nil => simp
  | cons k ks ih =>
    obtain ⟨new, nodup⟩ := List.nodup_cons.1 nodup
    have split := List.filter_append_perm (key · == k) (xs.filter fun x => decide (key x ∈ k :: ks))
    have own : (xs.filter fun x => decide (key x ∈ k :: ks)).filter (key · == k) =
        xs.filter (key · == k) := by
      rw [List.filter_filter]
      refine List.filter_congr fun x _ => ?_
      by_cases same : key x = k <;> simp [same]
    have other : (xs.filter fun x => decide (key x ∈ k :: ks)).filter (fun x => !(key x == k)) =
        xs.filter fun x => decide (key x ∈ ks) := by
      rw [List.filter_filter]
      refine List.filter_congr fun x _ => ?_
      by_cases same : key x = k
      · simp [same, new]
      · simp [same]
    rw [own, other] at split
    rw [List.flatMap_cons]
    exact ((ih nodup).append_left _).trans split

/-- Where every member answers, the list of answers leaves none out. -/
theorem map_eq_map_some {α β : Type} {f : α → Option β} {xs : List α}
    (h : ∀ x ∈ xs, (f x).isSome) : xs.map f = (xs.filterMap f).map some := by
  induction xs with
  | nil => rfl
  | cons x xs ih =>
    obtain ⟨y, found⟩ := Option.isSome_iff_exists.1 (h x List.mem_cons_self)
    simp [found, ih fun z mem => h z (List.mem_cons_of_mem _ mem)]

/-- Where every member answers, answers with positions are the answers with their positions. -/
theorem filterMap_zipIdx {α β : Type} {f : α → Option β} {xs : List α}
    (h : ∀ x ∈ xs, (f x).isSome) (start : Nat) :
    (xs.zipIdx start).filterMap (fun (x, i) => (f x).map fun y => (y, i)) =
      (xs.filterMap f).zipIdx start := by
  induction xs generalizing start with
  | nil => rfl
  | cons x xs ih =>
    obtain ⟨y, found⟩ := Option.isSome_iff_exists.1 (h x List.mem_cons_self)
    have rest := ih (fun z mem => h z (List.mem_cons_of_mem _ mem)) (start + 1)
    simp [List.zipIdx_cons, found, rest]

namespace MergeTable

variable {keys : List Int}

theorem mem_sortedKeys {keyed : List (Int × Nat)} {key : Int} :
    key ∈ sortedKeys keyed ↔ key ∈ keyed.map (·.1) := by
  rw [sortedKeys, List.mem_eraseDups, List.mem_mergeSort]

theorem ascending_sortedKeys (keyed : List (Int × Nat)) :
    (sortedKeys keyed).Pairwise (· < ·) := by
  have sorted : ((keyed.map (·.1)).mergeSort fun a b => decide (a ≤ b)).Pairwise (· ≤ ·) := by
    refine (List.pairwise_mergeSort ?_ ?_ _).imp of_decide_eq_true
    · intro a b c hab hbc
      exact decide_eq_true (Int.le_trans (of_decide_eq_true hab) (of_decide_eq_true hbc))
    · intro a b
      simpa using Int.le_total a b
  have distinct : (sortedKeys keyed).Nodup := nodup_eraseDups _
  refine ((sorted.sublist (eraseDups_sublist _)).and distinct).imp ?_
  rintro a b ⟨le, ne⟩
  exact Int.lt_iff_le_and_ne.2 ⟨le, ne⟩

/-- Ascending keys that are those of the rows are the sorted ones. -/
theorem sortedKeys_eq {keyed : List (Int × Nat)} (ascending : keys.Pairwise (· < ·))
    (same : ∀ key, key ∈ keys ↔ key ∈ keyed.map (·.1)) : sortedKeys keyed = keys := by
  refine List.Perm.eq_of_pairwise (fun a b _ _ ab ba => absurd ab (Int.lt_asymm ba))
    (ascending_sortedKeys keyed) ascending ?_
  refine (List.perm_ext_iff_of_nodup (nodup_eraseDups _) (ascending.imp Int.ne_of_lt)).2 ?_
  intro key
  rw [← sortedKeys, mem_sortedKeys, same]

theorem mem_positionsOf {key : Int} {position : Nat} :
    position ∈ positionsOf keys.zipIdx key ↔ keys[position]? = some key := by
  simp only [positionsOf, List.mem_map, List.mem_filter, beq_iff_eq, Prod.exists]
  constructor
  · rintro ⟨found, place, ⟨mem, rfl⟩, rfl⟩
    exact List.mk_mem_zipIdx_iff_getElem?.1 mem
  · intro found
    exact ⟨key, position, ⟨List.mk_mem_zipIdx_iff_getElem?.2 found, rfl⟩, rfl⟩

theorem ascending_positionsOf (key : Int) : (positionsOf keys.zipIdx key).Pairwise (· < ·) := by
  have places : (keys.zipIdx.map (·.2)).Pairwise (· < ·) := by
    rw [List.zipIdx_map_snd]
    exact List.pairwise_lt_range'
  exact places.sublist (List.filter_sublist.map _)

/-- The positions of all rows, gathered under the sorted keys. -/
theorem positions_perm (keys : List Int) :
    ((sortedKeys keys.zipIdx).flatMap (positionsOf keys.zipIdx)).Perm
      (List.range keys.length) := by
  have nodup : (sortedKeys keys.zipIdx).Nodup := nodup_eraseDups _
  have gathered := (flatMap_filter_perm (·.1) keys.zipIdx nodup).map (·.2)
  have all : keys.zipIdx.filter (fun keyed => decide (keyed.1 ∈ sortedKeys keys.zipIdx)) =
      keys.zipIdx := by
    rw [List.filter_eq_self]
    intro keyed mem
    exact decide_eq_true (mem_sortedKeys.2 (List.mem_map_of_mem mem))
  rw [all, List.zipIdx_map_snd, List.map_flatMap] at gathered
  rw [List.range_eq_range']
  exact gathered

/-! ## The plan -/

variable {size : Nat}

theorem shards_planFor (size : Nat) (keyed : List (Int × Nat)) :
    (planFor size keyed).shards =
      (List.range (pieceCount (sortedKeys keyed).length size)).map fun i =>
        shardOfKeys keyed (i + 1) (((sortedKeys keyed).drop (i * size)).take size) := rfl

/-- The keys of all shards, one after the other. -/
theorem flatMap_keys_planFor (hs : 0 < size) (keyed : List (Int × Nat)) :
    (planFor size keyed).shards.flatMap (·.keys) = sortedKeys keyed := by
  rw [shards_planFor, List.flatMap_map]
  refine (flatMap_pieces (sortedKeys keyed) size _).trans ?_
  rw [List.take_of_length_le (length_le_pieceCount hs)]

theorem flatMap_rows_planFor (hs : 0 < size) (keyed : List (Int × Nat)) :
    (planFor size keyed).shards.flatMap (·.rows) =
      (sortedKeys keyed).flatMap (positionsOf keyed) := by
  rw [← flatMap_keys_planFor hs keyed, List.flatMap_assoc, shards_planFor, List.flatMap_map,
    List.flatMap_map]
  rfl

/-- A look-up finds the one shard that holds a key. -/
theorem shardOf?_eq_some_iff {plan : ShardPlan}
    (nodup : (plan.shards.flatMap (·.keys)).Nodup) {key : Int} {number : Nat} :
    plan.shardOf? key = some number ↔ (key, number) ∈ plan.indexEntries := by
  simp only [ShardPlan.shardOf?, ShardPlan.indexEntries, Option.map_eq_some_iff, List.mem_flatMap,
    List.mem_map, Prod.mk.injEq]
  constructor
  · rintro ⟨shard, found, rfl⟩
    have holds : key ∈ shard.keys := by simpa using List.find?_some found
    exact ⟨shard, List.mem_of_find?_eq_some found, key, holds, rfl, rfl⟩
  · rintro ⟨shard, mem, _, holds, rfl, rfl⟩
    have apart := (List.nodup_flatMap.1 nodup).2
    obtain ⟨before, after, split⟩ := List.append_of_mem mem
    refine ⟨shard, List.find?_eq_some_iff_append.2 ⟨by simpa using holds, before, after, split, ?_⟩,
      rfl⟩
    intro earlier known
    rw [split, List.pairwise_append] at apart
    have disjoint := apart.2.2 earlier known shard List.mem_cons_self
    simpa using fun held => disjoint held holds

/-- Every shard but the last holds as many keys as a shard may. -/
theorem length_keys_of_mem_dropLast (hs : 0 < size) {keyed : List (Int × Nat)} {shard : Shard}
    (mem : shard ∈ (planFor size keyed).shards.dropLast) : shard.keys.length = size := by
  rw [shards_planFor, ← List.map_dropLast, List.mem_map] at mem
  obtain ⟨i, known, rfl⟩ := mem
  -- another piece follows, so this one is cut from a list that is long enough
  have next : i + 1 < pieceCount (sortedKeys keyed).length size := by
    rw [List.dropLast_eq_take, List.length_range, List.take_range, List.mem_range] at known
    omega
  have left := mul_lt_of_lt_pieceCount hs next
  rw [Nat.succ_mul] at left
  rw [shardOfKeys, length_piece]
  omega

theorem length_keys_of_mem_getLast? (hs : 0 < size) {keyed : List (Int × Nat)} {shard : Shard}
    (mem : shard ∈ (planFor size keyed).shards.getLast?) :
    1 ≤ shard.keys.length ∧ shard.keys.length ≤ size := by
  rw [shards_planFor, List.getLast?_map, Option.mem_def, Option.map_eq_some_iff] at mem
  obtain ⟨i, known, rfl⟩ := mem
  have left := mul_lt_of_lt_pieceCount hs (List.mem_range.1 (List.mem_of_getLast? known))
  rw [shardOfKeys, length_piece]
  omega

/-- Rows of one key keep their order: those of different keys are apart. -/
theorem order_rows_planFor (hs : 0 < size) (keys : List Int) :
    ((planFor size keys.zipIdx).shards.flatMap (·.rows)).Pairwise fun a b =>
      keys[a]? = keys[b]? → a < b := by
  rw [flatMap_rows_planFor hs, List.pairwise_flatMap]
  constructor
  · intro key _
    refine List.Pairwise.imp ?_ (ascending_positionsOf key)
    intro a b lt _
    exact lt
  · refine (ascending_sortedKeys keys.zipIdx).imp fun {key other} lt a ha b hb same => ?_
    rw [mem_positionsOf.1 ha, mem_positionsOf.1 hb] at same
    exact absurd (Option.some.inj same) (Int.ne_of_lt lt)

/-- Rows are divided by the sorted distinct keys. -/
theorem divides_planFor (hs : 0 < size) (keys : List Int) :
    (planFor size keys.zipIdx).Divides size keys := by
  have all := flatMap_keys_planFor hs keys.zipIdx
  have ascending := ascending_sortedKeys keys.zipIdx
  have shards := shards_planFor size keys.zipIdx
  constructor
  case numbers =>
    rw [shards, List.length_map, List.length_range, List.map_map]
    rfl
  case ascending =>
    rw [all]
    exact ascending
  case mem_keys =>
    intro key
    rw [all, mem_sortedKeys, List.zipIdx_map_fst]
  case full => exact fun shard mem => length_keys_of_mem_dropLast hs mem
  case last => exact fun shard mem => length_keys_of_mem_getLast? hs mem
  case rows =>
    rw [flatMap_rows_planFor hs]
    exact positions_perm keys
  case mem_rows =>
    intro shard mem position
    rw [shards, List.mem_map] at mem
    obtain ⟨i, -, rfl⟩ := mem
    simp only [shardOfKeys, List.mem_flatMap, mem_positionsOf]
  case order => exact order_rows_planFor hs keys
  case shardOf? =>
    intro key number
    refine shardOf?_eq_some_iff ?_
    rw [all]
    exact ascending.imp Int.ne_of_lt

/-! ## The tables that are divided -/

/-- Every cell of the table has a source. -/
def HasSources (table : MergeTable) : Prop :=
  ∀ position < table.rows.length, ∀ slot < table.schema.columns.length,
    (table.provenanceAt? position slot).isSome

/-- The rows whose key is no integer, each with its position. -/
def unkeyedRows (table : MergeTable) (slot : Nat) : List (TableRow × Nat) :=
  table.rows.zipIdx.filter fun entry => (readInt64? (entry.1.value slot)).isNone

/-- The diagnostic reports the key of a row where it came from. -/
def ReportsKey (table : MergeTable) (slot : Nat) (keyless : TableRow × Nat) (found : Diagnostic) :
    Prop :=
  ∃ origin cell, table.provenanceAt? keyless.2 slot = some (origin, cell) ∧
    found = Diagnostic.of (.shardKeyNotInteger (keyless.1.value slot)) origin table.groupField
      cell.row (cell.column.getD 0)

variable {table : MergeTable} {slot : Nat}

theorem slot_lt_of_groupSlot? (h : table.groupSlot? = some slot) :
    slot < table.schema.columns.length := by
  rw [groupSlot?, Schema.findSlot?, Option.or_eq_some_iff] at h
  rcases h with exactly | ⟨-, folded⟩
  · exact (List.findIdx?_eq_some_iff_findIdx_eq.1 exactly).1
  · exact (List.findIdx?_eq_some_iff_findIdx_eq.1 folded).1

theorem partition_eq (h : table.groupSlot? = some slot) :
    table.partition = if (table.shardKeyProblems slot).isEmpty then
      .ok (planFor (max table.shardSize 1) (table.keyedPositions slot))
    else .error (table.shardKeyProblems slot) := by
  rw [partition, h]

/-- A table is divided by the keys of its rows. -/
theorem plan_eq_of_partition (h : table.groupSlot? = some slot) {plan : ShardPlan}
    (divided : table.partition = .ok plan) :
    plan = planFor (max table.shardSize 1) (table.keyedPositions slot) := by
  rw [partition_eq h] at divided
  split at divided
  next => exact (Except.ok.inj divided).symm
  next => cases divided

/-- The diagnostic of a row at a position, if its key is no integer. -/
def shardKeyProblem? (table : MergeTable) (slot : Nat) (entry : TableRow × Nat) :
    Option Diagnostic :=
  match readInt64? (entry.1.value slot) with
  | some _ => none
  | none => (table.provenanceAt? entry.2 slot).map fun place =>
    Diagnostic.of (.shardKeyNotInteger (entry.1.value slot)) place.1 table.groupField place.2.row
      (place.2.column.getD 0)

theorem shardKeyProblem?_of_keyed {entry : TableRow × Nat} {key : Int}
    (keyed : readInt64? (entry.1.value slot) = some key) :
    table.shardKeyProblem? slot entry = none := by
  rw [shardKeyProblem?, keyed]

/-- A row whose key is no integer is reported if its key has a source. -/
theorem exists_shardKeyProblem? {entry : TableRow × Nat}
    (keyless : readInt64? (entry.1.value slot) = none)
    (sourced : (table.provenanceAt? entry.2 slot).isSome) :
    ∃ found, table.shardKeyProblem? slot entry = some found ∧ table.ReportsKey slot entry found := by
  obtain ⟨place, source⟩ := Option.isSome_iff_exists.1 sourced
  rw [shardKeyProblem?, keyless, source]
  exact ⟨_, rfl, place.1, place.2, source, rfl⟩

/-- With a source for every cell each row whose key is no integer is reported, in order. -/
theorem reportsKeys (sourced : table.HasSources) (h : table.groupSlot? = some slot) :
    List.Forall₂ (table.ReportsKey slot) (table.unkeyedRows slot)
      (table.shardKeyProblems slot) := by
  have hslot := slot_lt_of_groupSlot? h
  have each : ∀ rows : List (TableRow × Nat), (∀ entry ∈ rows, entry.2 < table.rows.length) →
      List.Forall₂ (table.ReportsKey slot)
        (rows.filter fun entry => (readInt64? (entry.1.value slot)).isNone)
        (rows.filterMap (table.shardKeyProblem? slot)) := by
    intro rows inside
    induction rows with
    | nil => exact .nil
    | cons entry rows ih =>
      have rest := ih fun other mem => inside other (List.mem_cons_of_mem _ mem)
      cases key : readInt64? (entry.1.value slot) with
      | some _ =>
        rw [List.filter_cons_of_neg (by simp [key]),
          List.filterMap_cons_none (shardKeyProblem?_of_keyed key)]
        exact rest
      | none =>
        have place := sourced entry.2 (inside _ List.mem_cons_self) slot hslot
        obtain ⟨found, problem, reports⟩ := exists_shardKeyProblem? key place
        rw [List.filter_cons_of_pos (by simp [key]), List.filterMap_cons_some problem]
        exact .cons reports rest
  refine each table.rows.zipIdx fun entry mem => ?_
  have := List.snd_lt_of_mem_zipIdx mem
  omega

theorem unkeyedRows_eq_nil_iff :
    table.unkeyedRows slot = [] ↔ ∀ row ∈ table.rows, (readInt64? (row.value slot)).isSome := by
  rw [unkeyedRows, List.filter_eq_nil_iff]
  constructor
  · intro none row mem
    obtain ⟨position, place⟩ := exists_mem_zipIdx mem
    simpa [Option.isSome_iff_ne_none] using none (row, position) place
  · rintro all ⟨row, position⟩ mem
    simpa [Option.isSome_iff_ne_none] using
      all row (List.mem_of_getElem? (List.mk_mem_zipIdx_iff_getElem?.1 mem))

/-- No key is reported exactly when all are integers. -/
theorem isEmpty_shardKeyProblems_iff (sourced : table.HasSources)
    (named : table.groupSlot? = some slot) : (table.shardKeyProblems slot).isEmpty = true ↔
      ∀ row ∈ table.rows, (readInt64? (row.value slot)).isSome := by
  have reports := reportsKeys sourced named
  rw [List.isEmpty_iff_length_eq_zero, ← reports.length_eq, List.length_eq_zero_iff,
    unkeyedRows_eq_nil_iff]

/-- A table is divided by the integers that its keys are. -/
theorem divides_of_partition (sourced : table.HasSources) (named : table.groupSlot? = some slot)
    {plan : ShardPlan} (divided : table.partition = .ok plan) :
    ∃ keys : List Int, table.rows.map (fun row => readInt64? (row.value slot)) = keys.map some ∧
      plan.Divides (max table.shardSize 1) keys := by
  rw [partition_eq named] at divided
  split at divided
  next clean =>
    have integers := (isEmpty_shardKeyProblems_iff sourced named).1 clean
    obtain rfl := Except.ok.inj divided
    refine ⟨table.rows.filterMap fun row => readInt64? (row.value slot), ?_, ?_⟩
    · exact map_eq_map_some integers
    · rw [show table.keyedPositions slot = _ from filterMap_zipIdx integers 0]
      exact divides_planFor (by omega) _
  next => cases divided

theorem groupSlot?_of_partition {plan : ShardPlan} (divided : table.partition = .ok plan) :
    ∃ slot, table.groupSlot? = some slot := by
  rw [partition] at divided
  split at divided
  next => cases divided
  next slot named => exact ⟨slot, named⟩

/-- A table of which every cell has a source is divided exactly when its keys are integers, and
then by these integers; else every key that is none is reported. -/
theorem partition_divides (sourced : table.HasSources) (named : table.groupSlot? = some slot) :
    ((∃ plan, table.partition = .ok plan) ↔
      ∀ row ∈ table.rows, (readInt64? (row.value slot)).isSome) ∧
    (∀ found, table.partition = .error found →
      List.Forall₂ (table.ReportsKey slot) (table.unkeyedRows slot) found) ∧
    ∀ plan, table.partition = .ok plan →
      ∃ keys : List Int, table.rows.map (fun row => readInt64? (row.value slot)) = keys.map some ∧
        plan.Divides (max table.shardSize 1) keys := by
  have clean := isEmpty_shardKeyProblems_iff sourced named
  have result := partition_eq named
  refine ⟨?_, fun found failed => ?_, fun plan => divides_of_partition sourced named⟩
  · rw [← clean, result]
    split
    next empty => exact iff_of_true ⟨_, rfl⟩ empty
    next some =>
      refine iff_of_false ?_ some
      rintro ⟨plan, divided⟩
      cases divided
  · rw [result] at failed
    split at failed
    next => cases failed
    next =>
      obtain rfl := Except.error.inj failed
      exact reportsKeys sourced named

/-- A table of chapters, its rows read from one sheet. -/
def chapters (keys : List String) : MergeTable :=
  let origin : SheetOrigin := ⟨"design", "stage.xlsx", "stage_a"⟩
  { name := "stage", groupField := "Chapter", shardSize := 2, sources := [origin]
    schema := { Schema.blank origin .merge with
      name := "stage", columns := [Column.plain 1 "id" .data, Column.plain 2 "chapter" .data] }
    rows := keys.zipIdx.map fun (key, i) => ⟨i + 1, ["id", key]⟩
    provenance := keys.zipIdx.map fun (key, i) =>
      [⟨0, i + 4, some 1, "id"⟩, ⟨0, i + 4, some 2, key⟩]
    shards := none, referenceOnly := false }

/-- Spellings of one integer are one key, and a key that is no integer is reported. -/
theorem partition_divides_chapters :
    let spelled := chapters ["5", "+5", "-1", "05", "7"]
    let faulty := chapters ["1", "x", ""]
    (spelled.HasSources ∧ spelled.groupSlot? = some 1 ∧
      ∃ plan, spelled.partition = .ok plan ∧ plan.Divides 2 [5, 5, -1, 5, 7]) ∧
    faulty.HasSources ∧ faulty.groupSlot? = some 1 ∧
      ¬ (∃ plan, faulty.partition = .ok plan) ∧
      faulty.unkeyedRows 1 = [(⟨2, ["id", "x"]⟩, 1), (⟨3, ["id", ""]⟩, 2)] := by
  have spelledSources : (chapters ["5", "+5", "-1", "05", "7"]).HasSources := by
    unfold HasSources
    decide
  have faultySources : (chapters ["1", "x", ""]).HasSources := by
    unfold HasSources
    decide
  have spelledNamed : (chapters ["5", "+5", "-1", "05", "7"]).groupSlot? = some 1 := by decide
  have faultyNamed : (chapters ["1", "x", ""]).groupSlot? = some 1 := by decide
  obtain ⟨divided, -, plans⟩ := partition_divides spelledSources spelledNamed
  obtain ⟨plan, result⟩ := divided.2 (by decide)
  obtain ⟨keys, same, divides⟩ := plans plan result
  have read : [5, 5, -1, 5, 7].map some = keys.map some := Eq.trans (by decide) same
  have read := (List.map_inj_right fun _ _ => Option.some.inj).1 read
  refine ⟨⟨spelledSources, spelledNamed, plan, result, read ▸ divides⟩, faultySources, faultyNamed,
    ?_, by decide⟩
  intro divided
  exact absurd ((partition_divides faultySources faultyNamed).1.1 divided) (by decide)

end MergeTable

namespace MergeOutcome

/-- A row of a sheet names a sheet of the group as its source. -/
theorem source_lt_of_mem_sourceRows {sheets : List IngestedSheet} {mappings : List (List Nat)}
    {given : Merge.SourceRow} (mem : given ∈ Merge.sourceRows sheets mappings) :
    given.source < sheets.length := by
  obtain ⟨⟨⟨sheet, mapping⟩, source⟩, place, mem⟩ := List.mem_flatMap.1 mem
  obtain ⟨row, -, rfl⟩ := List.mem_map.1 mem
  have inside := List.snd_lt_of_mem_zipIdx place
  rw [List.length_zip] at inside
  dsimp only
  omega

theorem source_cell (given : Merge.SourceRow) (column : Column) (slot : Nat) :
    (given.cell column slot).source = given.source := by
  rw [Merge.SourceRow.cell]
  split <;> rfl

/-- Every cell of the table of a merge group has a source. -/
theorem hasSources_ofSheets? {group : String} {sheets : List IngestedSheet} {referenceOnly : Bool}
    {outcome : MergeOutcome} (h : ofSheets? group sheets referenceOnly = some outcome) :
    outcome.table.HasSources := by
  obtain ⟨first, -, h⟩ := Option.bind_eq_some_iff.1 h
  obtain ⟨header, -, h⟩ := Option.bind_eq_some_iff.1 h
  obtain rfl := Option.some.inj h
  intro position inside slot known
  simp only [List.length_map, List.length_zipIdx] at inside known
  have source := source_lt_of_mem_sourceRows (List.getElem_mem inside)
  simp only [MergeTable.provenanceAt?, List.getElem?_map, List.getElem?_eq_getElem inside,
    Merge.SourceRow.cells, Schema.slots, List.getElem?_zipIdx, List.getElem?_eq_getElem known,
    Option.map_some, Option.bind_eq_bind, Option.bind_some, source_cell,
    List.getElem?_eq_getElem source]
  rfl

end MergeOutcome

end DesignTables
