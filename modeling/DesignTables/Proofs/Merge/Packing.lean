import DesignTables.Proofs.Merge.Division
import Mathlib.Data.List.Induction

/-!
# Shards packed one key at a time

`MergeTable.planFor` tells by position which of the sorted keys a shard takes. The same shards come
of two passes. The first goes over the rows and puts the position of each behind those of its key,
where the keys stand in ascending order. The second goes over the keys: the number of the shard of a
key is one more than the number of full shards before it; if the last shard bears that number, the
key and its rows are put into it, and otherwise a shard is opened for them.

`Groups` and `shardsOf` say what is known after some rows and after some keys. One more row or key
takes it to what is known with it, and induction from the end takes it to all of them.
-/
namespace DesignTables.MergeTable

/-! ## Rows gathered by their keys -/

/-- The keys that were met in ascending order, each with the positions of its rows. -/
abbrev KeyGroups := List (Int × List Nat)

/-- Puts the position of a row behind those of its key. A new key gets its place among the others. -/
def gatherRow : KeyGroups → Int × Nat → KeyGroups
  | [], (key, position) => [(key, [position])]
  | (other, rows) :: groups, (key, position) =>
    if key < other then (key, [position]) :: (other, rows) :: groups
    else if key = other then (other, rows ++ [position]) :: groups
    else (other, rows) :: gatherRow groups (key, position)

/-- The rows of a table gathered by their keys. -/
def gatherRows (keyed : List (Int × Nat)) : KeyGroups := keyed.foldl gatherRow []

/-- What the groups of some rows come to: each of their keys has one group, in ascending order, which
holds the positions of the key. -/
structure Groups (keyed : List (Int × Nat)) (groups : KeyGroups) : Prop where
  ascending : (groups.map (·.1)).Pairwise (· < ·)
  mem_keys : ∀ key, key ∈ groups.map (·.1) ↔ key ∈ keyed.map (·.1)
  positions : ∀ group ∈ groups, group.2 = positionsOf keyed group.1

variable {keyed : List (Int × Nat)} {groups : KeyGroups} {key : Int} {position : Nat}

theorem positionsOf_concat (keyed : List (Int × Nat)) (given : Int × Nat) (key : Int) :
    positionsOf (keyed ++ [given]) key =
      positionsOf keyed key ++ if given.1 = key then [given.2] else [] := by
  rw [positionsOf, List.filter_append, List.map_append, ← positionsOf]
  by_cases same : given.1 = key <;> simp [same]

theorem positionsOf_eq_nil (absent : key ∉ keyed.map (·.1)) : positionsOf keyed key = [] := by
  rw [positionsOf, List.map_eq_nil_iff, List.filter_eq_nil_iff]
  intro given mem same
  exact absent (List.mem_map.2 ⟨given, mem, beq_iff_eq.1 same⟩)

theorem mem_keys_gatherRow {other : Int} : other ∈ (gatherRow groups (key, position)).map (·.1) ↔
    other = key ∨ other ∈ groups.map (·.1) := by
  induction groups with
  | nil => simp [gatherRow]
  | cons group groups ih =>
    rw [gatherRow]
    split
    · simp
    · split
      · next same => simp [same]
      · rw [List.map_cons, List.mem_cons, ih, List.map_cons, List.mem_cons]
        exact or_left_comm

theorem ascending_gatherRow (ascending : (groups.map (·.1)).Pairwise (· < ·)) :
    ((gatherRow groups (key, position)).map (·.1)).Pairwise (· < ·) := by
  induction groups with
  | nil => exact List.pairwise_singleton _ _
  | cons group groups ih =>
    obtain ⟨least, rest⟩ := List.pairwise_cons.1 ascending
    rw [gatherRow]
    split
    next before =>
      refine List.pairwise_cons.2 ⟨?_, ascending⟩
      intro other mem
      rcases List.mem_cons.1 mem with rfl | mem
      · exact before
      · have after : group.1 < other := least other mem
        show key < other
        omega
    next notBefore =>
      split
      next => exact List.pairwise_cons.2 ⟨least, rest⟩
      next apart =>
        refine List.pairwise_cons.2 ⟨?_, ih rest⟩
        intro other mem
        show group.1 < other
        rcases mem_keys_gatherRow.1 mem with rfl | mem
        · omega
        · exact least other mem

/-- A group after a row was put in: one that was there before, with the row behind its rows if they
have its key, or the group of a key that is new. -/
theorem positions_gatherRow (ascending : (groups.map (·.1)).Pairwise (· < ·))
    {group : Int × List Nat} (mem : group ∈ gatherRow groups (key, position)) :
    (∃ old ∈ groups, group.1 = old.1 ∧
        group.2 = old.2 ++ if key = group.1 then [position] else []) ∨
      (group.1 = key ∧ key ∉ groups.map (·.1) ∧ group.2 = [position]) := by
  induction groups with
  | nil =>
    obtain rfl := List.mem_singleton.1 mem
    exact .inr ⟨rfl, List.not_mem_nil, rfl⟩
  | cons first groups ih =>
    obtain ⟨least, rest⟩ := List.pairwise_cons.1 ascending
    have kept {old : Int × List Nat} (held : old ∈ first :: groups) (apart : key ≠ old.1) :
        ∃ before ∈ first :: groups, old.1 = before.1 ∧
          old.2 = before.2 ++ if key = old.1 then [position] else [] :=
      ⟨old, held, rfl, by rw [if_neg apart, List.append_nil]⟩
    have above {old : Int × List Nat} (held : old ∈ groups) : first.1 < old.1 :=
      least old.1 (List.mem_map_of_mem held)
    rw [gatherRow] at mem
    split at mem
    next before =>
      have absent : key ∉ (first :: groups).map (·.1) := by
        intro held
        have after : first.1 ≤ key := by
          rcases List.mem_cons.1 held with same | held
          · exact Int.le_of_eq same.symm
          · exact Int.le_of_lt (least key held)
        omega
      rcases List.mem_cons.1 mem with rfl | mem
      · exact .inr ⟨rfl, absent, rfl⟩
      · exact .inl (kept mem fun same => absent (same ▸ List.mem_map_of_mem mem))
    next notBefore =>
      split at mem
      next same =>
        rcases List.mem_cons.1 mem with rfl | mem
        · exact .inl ⟨first, List.mem_cons_self, rfl, by rw [if_pos same]⟩
        · exact .inl (kept (List.mem_cons_of_mem _ mem) (same ▸ Int.ne_of_lt (above mem)))
      next apart =>
        rcases List.mem_cons.1 mem with rfl | mem
        · exact .inl (kept List.mem_cons_self apart)
        · rcases ih rest mem with ⟨old, held, name, rows⟩ | ⟨name, absent, rows⟩
          · exact .inl ⟨old, List.mem_cons_of_mem _ held, name, rows⟩
          · exact .inr ⟨name, fun held => absent ((List.mem_cons.1 held).resolve_left apart), rows⟩

/-- One more row. -/
theorem Groups.gatherRow (h : Groups keyed groups) (given : Int × Nat) :
    Groups (keyed ++ [given]) (gatherRow groups given) where
  ascending := ascending_gatherRow h.ascending
  mem_keys key := by
    rw [mem_keys_gatherRow, h.mem_keys, List.map_append, List.mem_append, or_comm]
    simp
  positions group mem := by
    rw [positionsOf_concat]
    rcases positions_gatherRow h.ascending mem with ⟨old, held, name, rows⟩ | ⟨name, absent, rows⟩
    · rw [rows, h.positions old held, name]
    · have none : positionsOf keyed group.1 = [] := by
        rw [name]
        exact positionsOf_eq_nil fun known => absent ((h.mem_keys _).2 known)
      rw [rows, none, if_pos name.symm, List.nil_append]

theorem groups_gatherRows (keyed : List (Int × Nat)) : Groups keyed (gatherRows keyed) := by
  induction keyed using List.reverseRecOn with
  | nil => exact ⟨List.Pairwise.nil, fun _ => Iff.rfl, fun _ mem => absurd mem List.not_mem_nil⟩
  | append_singleton keyed given ih =>
    rw [gatherRows, List.foldl_append]
    exact ih.gatherRow given

/-- The groups are those of the sorted keys. -/
theorem gatherRows_eq (keyed : List (Int × Nat)) :
    gatherRows keyed = (sortedKeys keyed).map fun key => (key, positionsOf keyed key) := by
  have groups := groups_gatherRows keyed
  rw [sortedKeys_eq groups.ascending groups.mem_keys, List.map_map]
  refine (List.map_id _).symm.trans (List.map_congr_left fun group mem => ?_)
  exact Prod.ext rfl (groups.positions group mem)

/-! ## Keys packed into shards -/

/-- Puts the next key with its rows into the last shard, if that bears the number of the key's place,
and into a new one otherwise. -/
def packKey (size : Nat) (shards : List Shard) : (Int × List Nat) × Nat → List Shard
  | ((key, rows), place) =>
    let number := place / size + 1
    match shards.getLast? with
    | some last =>
      if last.number = number then
        shards.dropLast ++ [⟨number, last.keys ++ [key], last.rows ++ rows⟩]
      else shards ++ [⟨number, [key], rows⟩]
    | none => shards ++ [⟨number, [key], rows⟩]

/-- The shards of some rows. -/
def packRows (size : Nat) (keyed : List (Int × Nat)) : List Shard :=
  (gatherRows keyed).zipIdx.foldl (packKey size) []

variable {size : Nat} {keys : List Int} {shards : List Shard} {rows : List Nat} {place : Nat}

theorem packKey_of_new (none : ∀ last ∈ shards.getLast?, last.number ≠ place / size + 1) :
    packKey size shards ((key, rows), place) = shards ++ [⟨place / size + 1, [key], rows⟩] := by
  rw [packKey]
  split
  next last found => exact if_neg (none last found)
  next => rfl

theorem packKey_of_open {last : Shard} (same : last.number = place / size + 1) :
    packKey size (shards ++ [last]) ((key, rows), place) =
      shards ++ [⟨place / size + 1, last.keys ++ [key], last.rows ++ rows⟩] := by
  rw [packKey, List.getLast?_concat, List.dropLast_concat]
  exact if_pos same

theorem shardOfKeys_concat (number : Nat) (keys : List Int) (key : Int) :
    shardOfKeys keyed number (keys ++ [key]) =
      ⟨number, keys ++ [key], (shardOfKeys keyed number keys).rows ++ positionsOf keyed key⟩ := by
  simp [shardOfKeys]

/-- The first shards of some keys, all of them full. -/
def fullShards (size : Nat) (keyed : List (Int × Nat)) (keys : List Int) (count : Nat) :
    List Shard :=
  (List.range count).map fun i => shardOfKeys keyed (i + 1) ((keys.drop (i * size)).take size)

/-- The shards of some keys: full ones, and one more for the keys that are left. -/
def shardsOf (size : Nat) (keyed : List (Int × Nat)) (keys : List Int) : List Shard :=
  let full := keys.length / size
  let left := keys.drop (full * size)
  fullShards size keyed keys full ++
    if left.isEmpty then [] else [shardOfKeys keyed (full + 1) left]

theorem fullShards_succ (size : Nat) (keyed : List (Int × Nat)) (keys : List Int) (count : Nat) :
    fullShards size keyed keys (count + 1) = fullShards size keyed keys count ++
      [shardOfKeys keyed (count + 1) ((keys.drop (count * size)).take size)] := by
  rw [fullShards, List.range_succ, List.map_append, List.map_singleton, ← fullShards]

/-- More keys at the end leave full shards as they are. -/
theorem fullShards_append {count : Nat} (within : count * size ≤ keys.length) (more : List Int) :
    fullShards size keyed (keys ++ more) count = fullShards size keyed keys count := by
  refine List.map_congr_left fun i mem => ?_
  have next : (i + 1) * size ≤ count * size :=
    Nat.mul_le_mul_right size (Nat.succ_le_of_lt (List.mem_range.1 mem))
  rw [Nat.succ_mul] at next
  rw [List.drop_append_of_le_length (by omega), List.take_append_of_le_length]
  rw [List.length_drop]
  omega

/-- The last of the full shards bears their number. -/
theorem number_of_mem_getLast?_fullShards {count : Nat} {last : Shard}
    (found : last ∈ (fullShards size keyed keys count).getLast?) : last.number = count := by
  cases count with
  | zero => cases found
  | succ count =>
    rw [fullShards_succ, List.getLast?_concat, Option.mem_some_iff] at found
    rw [← found]
    rfl

section

variable (keyed : List (Int × Nat)) (keys : List Int) (key : Int)

/-- The next key goes to those that are left when the full shards are taken off. -/
theorem packKey_shardsOf :
    packKey size (shardsOf size keyed keys) ((key, positionsOf keyed key), keys.length) =
      fullShards size keyed keys (keys.length / size) ++
        [shardOfKeys keyed (keys.length / size + 1)
          (keys.drop (keys.length / size * size) ++ [key])] := by
  rw [shardsOf]
  split
  next even =>
    -- the last shard is full and bears a smaller number
    rw [List.append_nil, List.isEmpty_iff.1 even, packKey_of_new]
    · simp [shardOfKeys]
    · intro last found
      rw [number_of_mem_getLast?_fullShards found]
      omega
  next => rw [packKey_of_open rfl, shardOfKeys_concat]; rfl

theorem shardsOf_concat (hs : 0 < size) :
    shardsOf size keyed (keys ++ [key]) =
      fullShards size keyed keys (keys.length / size) ++
        [shardOfKeys keyed (keys.length / size + 1)
          (keys.drop (keys.length / size * size) ++ [key])] := by
  have within : keys.length / size * size ≤ keys.length := Nat.div_mul_le_self _ _
  have rest : keys.length < keys.length / size * size + size := Nat.lt_div_mul_add hs
  have length : (keys ++ [key]).length = keys.length + 1 := List.length_append
  rw [shardsOf, length]
  generalize keys.length / size = count at within rest
  by_cases filled : keys.length + 1 = count * size + size
  · -- the key fills its shard
    have one : (keys.length + 1) / size = count + 1 := by
      rw [filled, ← Nat.succ_mul]
      exact Nat.mul_div_cancel _ hs
    have none : (keys ++ [key]).drop ((count + 1) * size) = [] := by
      have full : (keys ++ [key]).length = (count + 1) * size := by
        rw [length, filled, Nat.succ_mul]
      exact List.drop_of_length_le (Nat.le_of_eq full)
    have all : ((keys ++ [key]).drop (count * size)).take size =
        keys.drop (count * size) ++ [key] := by
      rw [List.drop_append_of_le_length within, List.take_of_length_le]
      rw [List.length_append, List.length_drop, List.length_singleton]
      omega
    rw [one, none, fullShards_succ, fullShards_append within, all]
    exact List.append_nil _
  · have same : (keys.length + 1) / size = count := by
      apply Nat.div_eq_of_lt_le
      · omega
      · rw [Nat.succ_mul]
        omega
    rw [same, fullShards_append within, List.drop_append_of_le_length within]
    simp

end

theorem foldl_packKey (hs : 0 < size) (keyed : List (Int × Nat)) (keys : List Int) :
    (keys.map fun key => (key, positionsOf keyed key)).zipIdx.foldl (packKey size) [] =
      shardsOf size keyed keys := by
  induction keys using List.reverseRecOn with
  | nil =>
    rw [shardsOf, List.length_nil, Nat.zero_div, List.drop_nil]
    rfl
  | append_singleton keys key ih =>
    rw [shardsOf_concat keyed keys key hs, ← packKey_shardsOf keyed keys key, List.map_append,
      List.zipIdx_append, List.foldl_append, ih, List.length_map, Nat.zero_add]
    rfl

/-- Cutting the keys into pieces gives the same shards. -/
theorem shardsOf_eq (hs : 0 < size) (keyed : List (Int × Nat)) (keys : List Int) :
    shardsOf size keyed keys = fullShards size keyed keys (pieceCount keys.length size) := by
  have within : keys.length / size * size ≤ keys.length := Nat.div_mul_le_self _ _
  have rest : keys.length < keys.length / size * size + size := Nat.lt_div_mul_add hs
  rw [shardsOf, pieceCount]
  generalize keys.length / size = count at within rest
  split
  next even =>
    have length : keys.length ≤ count * size := List.drop_eq_nil_iff.1 (List.isEmpty_iff.1 even)
    have pieces : (keys.length + size - 1) / size = count := by
      apply Nat.div_eq_of_lt_le
      · omega
      · rw [Nat.succ_mul]
        omega
    rw [pieces, List.append_nil]
  next uneven =>
    have more : count * size < keys.length := by
      rw [List.isEmpty_iff, List.drop_eq_nil_iff] at uneven
      exact Nat.lt_of_not_le uneven
    have pieces : (keys.length + size - 1) / size = count + 1 := by
      apply Nat.div_eq_of_lt_le
      · rw [Nat.succ_mul]
        omega
      · rw [Nat.succ_mul, Nat.succ_mul]
        omega
    have all : (keys.drop (count * size)).take size = keys.drop (count * size) := by
      apply List.take_of_length_le
      rw [List.length_drop]
      omega
    rw [pieces, fullShards_succ, all]

/-- Both passes together give the shards of the plan. -/
theorem packRows_eq (hs : 0 < size) (keyed : List (Int × Nat)) :
    packRows size keyed = (planFor size keyed).shards := by
  rw [packRows, gatherRows_eq, foldl_packKey hs, shardsOf_eq hs]
  rfl

/-- A plan holds the shards that the rows are packed into. -/
theorem planFor_eq (hs : 0 < size) (keyed : List (Int × Nat)) :
    planFor size keyed = ⟨packRows size keyed⟩ := by
  rw [packRows_eq hs]

/-- A table that is divided has the shards that its rows are packed into. -/
theorem shards_eq_packRows {table : MergeTable} {slot : Nat} {plan : ShardPlan}
    (named : table.groupSlot? = some slot) (divided : table.partition = .ok plan) :
    plan.shards = packRows (max table.shardSize 1) (table.keyedPositions slot) := by
  rw [plan_eq_of_partition named divided, planFor_eq (by omega)]

/-- Three keys of five rows in shards of two. -/
example : packRows 2 [(5, 0), (5, 1), (-1, 2), (5, 3), (7, 4)] =
    [⟨1, [-1, 5], [2, 0, 1, 3]⟩, ⟨2, [7], [4]⟩] := by decide

end DesignTables.MergeTable
