/-!
Tables with at most one value per key, in the order in which keys came.

`record` keeps the value a key already has, `set` replaces it, and `absorb` records the entries of
another table one after the other. `get?` is the view in which each operation has one equation.
-/
namespace DesignTables

/-- Values under pairwise different keys. -/
structure KeyTable (α β : Type) where
  entries : List (α × β)
  nodup : (entries.map Prod.fst).Nodup := by simp

namespace KeyTable

variable {α β : Type} [DecidableEq α]

/-- The table without keys. -/
def empty : KeyTable α β where
  entries := []

/-- The keys in the order in which they came. -/
def keys (table : KeyTable α β) : List α := table.entries.map Prod.fst

/-- The value under a key. -/
def get? (table : KeyTable α β) (key : α) : Option β := table.entries.lookup key

/-- The number of keys. -/
def size (table : KeyTable α β) : Nat := table.entries.length

/-- A new key with its value, at the end. -/
def push (table : KeyTable α β) (key : α) (value : β) (h : key ∉ table.keys) : KeyTable α β where
  entries := table.entries ++ [(key, value)]
  nodup := by
    simp only [List.map_append, List.map_cons, List.map_nil]
    refine List.nodup_append.2 ⟨table.nodup, by simp, ?_⟩
    intro a ha b hb
    simp only [List.mem_singleton] at hb
    rintro rfl
    exact h (hb ▸ ha)

/-- Gives a value to a key that has none. -/
def record (table : KeyTable α β) (key : α) (value : β) : KeyTable α β :=
  if h : key ∈ table.keys then table else table.push key value h

/-- Gives a value to a key, in the place of the one it has. -/
def set (table : KeyTable α β) (key : α) (value : β) : KeyTable α β :=
  if h : key ∈ table.keys then
    { entries := table.entries.map fun (k, v) => if k = key then (k, value) else (k, v)
      nodup := by
        have same : (table.entries.map fun (k, v) => if k = key then (k, value) else (k, v)).map
            Prod.fst = table.entries.map Prod.fst := by
          rw [List.map_map]
          apply List.map_congr_left
          rintro ⟨k, v⟩ _
          simp only [Function.comp]
          split <;> rfl
        exact same ▸ table.nodup }
  else table.push key value h

/-- Records every entry of another table. -/
def absorb (table other : KeyTable α β) : KeyTable α β :=
  other.entries.foldl (fun table (key, value) => table.record key value) table

private theorem lookup_pair_cons (k key : α) (value : β) (rest : List (α × β)) :
    ((key, value) :: rest).lookup k = if k = key then some value else rest.lookup k := by
  rw [List.lookup_cons]
  split <;> simp_all

theorem get?_empty (key : α) : (empty : KeyTable α β).get? key = none := rfl

theorem get?_eq_none_iff {table : KeyTable α β} {key : α} :
    table.get? key = none ↔ key ∉ table.keys := by
  simp only [get?, keys, List.lookup_eq_none_iff, List.mem_map]
  grind

theorem get?_push (table : KeyTable α β) (key : α) (value : β) (h : key ∉ table.keys) (k : α) :
    (table.push key value h).get? k = if k = key then some value else table.get? k := by
  have absent : table.entries.lookup key = none := get?_eq_none_iff.2 h
  simp only [get?, push, List.lookup_append, lookup_pair_cons, List.lookup_nil]
  split
  next same => simp [same, absent]
  next => simp

theorem get?_record (table : KeyTable α β) (key : α) (value : β) (k : α) :
    (table.record key value).get? k =
      if k = key then (table.get? key).or (some value) else table.get? k := by
  unfold record
  split
  next h =>
    split
    next same =>
      subst same
      cases found : table.get? k with
      | none => exact absurd h (get?_eq_none_iff.1 found)
      | some _ => rfl
    next => rfl
  next h => rw [get?_push, get?_eq_none_iff.2 h]; rfl

private theorem lookup_replace (entries : List (α × β)) (key : α) (value : β) (k : α) :
    (entries.map fun (k', v) => if k' = key then (k', value) else (k', v)).lookup k =
      if k = key then (entries.lookup k).map fun _ => value else entries.lookup k := by
  induction entries with
  | nil => simp
  | cons entry rest ih =>
    obtain ⟨k', v⟩ := entry
    rw [List.map_cons, lookup_pair_cons]
    split
    next same => rw [lookup_pair_cons, ih]; grind
    next other => rw [lookup_pair_cons, ih]; grind

theorem get?_set (table : KeyTable α β) (key : α) (value : β) (k : α) :
    (table.set key value).get? k = if k = key then some value else table.get? k := by
  unfold set
  split
  next h =>
    refine (lookup_replace table.entries key value k).trans ?_
    split
    next same =>
      subst same
      cases found : table.entries.lookup k with
      | none => exact absurd h (get?_eq_none_iff.1 found)
      | some _ => rfl
    next => rfl
  next h => exact get?_push table key value h k

theorem get?_absorb (table other : KeyTable α β) (k : α) :
    (table.absorb other).get? k = (table.get? k).or (other.get? k) := by
  obtain ⟨entries, nodup⟩ := other
  show (entries.foldl (fun table (key, value) => table.record key value) table).get? k =
    (table.get? k).or (entries.lookup k)
  clear nodup
  induction entries generalizing table with
  | nil => simp
  | cons entry rest ih =>
    obtain ⟨key, value⟩ := entry
    rw [List.foldl_cons, ih, get?_record, lookup_pair_cons]
    split
    next same => subst same; cases table.get? k <;> simp
    next => rfl

end KeyTable

end DesignTables
