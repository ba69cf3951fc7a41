import DesignTables.Index.Overlay
import DesignTables.Index.References
import DesignTables.Index.Sizes
import Mathlib.Logic.Basic

/-!
# What the union of many indexes holds

A union takes the indexes one after the other and the first value of a key stands, so a key reads
as in the first index that has it. The keys of a union are those of its members, and when no two
members share a key nothing is lost on the way.
-/
namespace DesignTables

/-- What is read after some steps, when a step answers only where nothing was read before: the
first answer of a member. -/
theorem foldl_first_reading {ι υ γ : Type} {step : ι → γ → ι} (get : ι → Option υ)
    (answer : γ → Option υ) (first : ∀ i x, get (step i x) = (get i).or (answer x))
    (members : List γ) (start : ι) :
    get (members.foldl step start) = (get start).or (members.findSome? answer) := by
  induction members generalizing start with
  | nil => simp
  | cons member members ih =>
    rw [List.foldl_cons, ih, first, List.findSome?_cons]
    cases answer member <;> simp

/-- A reading that prefers the first of two indexes finds, in a union, what the first member with
an answer gives. -/
theorem foldl_absorb_reading {ι υ γ : Type} {absorb : ι → ι → ι} (get : ι → Option υ)
    (first : ∀ a b, get (absorb a b) = (get a).or (get b)) (read : γ → ι) (members : List γ)
    (start : ι) :
    get (members.foldl (fun union member => absorb union (read member)) start) =
      (get start).or (members.findSome? fun member => get (read member)) :=
  foldl_first_reading get (fun member => get (read member)) (fun i x => first i (read x)) members start

namespace KeyTable

variable {α β : Type} [DecidableEq α]

theorem mem_keys_iff_isSome {table : KeyTable α β} {key : α} :
    key ∈ table.keys ↔ (table.get? key).isSome := by
  rw [Option.isSome_iff_ne_none, ne_eq, get?_eq_none_iff, not_not]

/-- An entry is what its key reads as. -/
theorem mem_entries_iff {table : KeyTable α β} {key : α} {value : β} :
    (key, value) ∈ table.entries ↔ table.get? key = some value := by
  obtain ⟨entries, nodup⟩ := table
  change _ ↔ entries.lookup key = some value
  induction entries with
  | nil => simp
  | cons entry rest ih =>
    obtain ⟨k, v⟩ := entry
    rw [List.map_cons, List.nodup_cons] at nodup
    rw [List.mem_cons, ih nodup.2, List.lookup_cons]
    split
    next same =>
      have here : key = k := by simpa using same
      subst here
      have absent : rest.lookup key = none := by
        rw [List.lookup_eq_none_iff]
        intro pair mem
        have apart : key ≠ pair.1 := by
          rintro rfl
          exact nodup.1 (List.mem_map.2 ⟨pair, mem, rfl⟩)
        simpa using apart
      rw [absent, Option.some.injEq, Prod.mk.injEq]
      constructor
      · rintro (⟨-, eq⟩ | none)
        · exact eq.symm
        · cases none
      · exact fun eq => .inl ⟨rfl, eq.symm⟩
    next other =>
      have apart : key ≠ k := by simpa using other
      exact or_iff_right fun h => apart (congrArg Prod.fst h)

theorem mem_keys_record {table : KeyTable α β} {key k : α} {value : β} :
    k ∈ (table.record key value).keys ↔ k = key ∨ k ∈ table.keys := by
  rw [mem_keys_iff_isSome, get?_record, mem_keys_iff_isSome]
  split
  next same => simp [same]
  next other => simp [other]

theorem mem_keys_set {table : KeyTable α β} {key k : α} {value : β} :
    k ∈ (table.set key value).keys ↔ k = key ∨ k ∈ table.keys := by
  rw [mem_keys_iff_isSome, get?_set, mem_keys_iff_isSome]
  split
  next same => simp [same]
  next other => simp [other]

theorem mem_keys_absorb {table other : KeyTable α β} {k : α} :
    k ∈ (table.absorb other).keys ↔ k ∈ table.keys ∨ k ∈ other.keys := by
  simp [mem_keys_iff_isSome, get?_absorb]

/-- Recording under a new key makes the table longer by one. -/
theorem size_record_of_new {table : KeyTable α β} {key : α} (value : β) (h : key ∉ table.keys) :
    (table.record key value).size = table.size + 1 := by
  simp [record, h, push, size]

/-- Taking in a table without common keys loses no entry. -/
theorem size_absorb_of_disjoint {table other : KeyTable α β}
    (h : ∀ k ∈ other.keys, k ∉ table.keys) :
    (table.absorb other).size = table.size + other.size := by
  obtain ⟨entries, nodup⟩ := other
  change ∀ k ∈ entries.map Prod.fst, k ∉ table.keys at h
  change (entries.foldl (fun table entry => table.record entry.1 entry.2) table).size =
    table.size + entries.length
  induction entries generalizing table with
  | nil => simp
  | cons entry rest ih =>
    obtain ⟨key, value⟩ := entry
    rw [List.map_cons, List.nodup_cons] at nodup
    have new : key ∉ table.keys := h key (by simp)
    have apart : ∀ k ∈ rest.map Prod.fst, k ∉ (table.record key value).keys := by
      intro k mem known
      rcases mem_keys_record.1 known with same | known
      · exact nodup.1 (same ▸ mem)
      · exact h k (by simpa using Or.inr (by simpa using mem)) known
    rw [List.foldl_cons, ih nodup.2 apart, size_record_of_new value new, List.length_cons]
    omega

end KeyTable

namespace Overlay

/-- The cells that an overlay has a value for, as table, row and slot. -/
def cells (overlay : Overlay) : List (String × Nat × Nat) := overlay.values.keys

theorem mem_cells_iff {overlay : Overlay} {cell : String × Nat × Nat} :
    cell ∈ overlay.cells ↔ (overlay.get? cell.1 cell.2.1 cell.2.2).isSome :=
  KeyTable.mem_keys_iff_isSome

theorem mem_cells_set {overlay : Overlay} {table : String} {row slot : Nat} {value : String}
    {cell : String × Nat × Nat} :
    cell ∈ (overlay.set table row slot value).cells ↔
      cell = (table, row, slot) ∨ cell ∈ overlay.cells :=
  KeyTable.mem_keys_set

theorem mem_cells_absorb {overlay other : Overlay} {cell : String × Nat × Nat} :
    cell ∈ (overlay.absorb other).cells ↔ cell ∈ overlay.cells ∨ cell ∈ other.cells :=
  KeyTable.mem_keys_absorb

theorem size_absorb_of_disjoint {overlay other : Overlay}
    (h : ∀ cell ∈ other.cells, cell ∉ overlay.cells) :
    (overlay.absorb other).size = overlay.size + other.size :=
  KeyTable.size_absorb_of_disjoint h

theorem get?_foldl_absorb {γ : Type} (read : γ → Overlay) (members : List γ) (start : Overlay)
    (table : String) (row slot : Nat) :
    (members.foldl (fun overlay member => overlay.absorb (read member)) start).get? table row slot =
      (start.get? table row slot).or
        (members.findSome? fun member => (read member).get? table row slot) :=
  foldl_absorb_reading (fun overlay : Overlay => overlay.get? table row slot)
    (fun a b => get?_absorb a b table row slot) read members start

end Overlay

namespace ReferenceIndex

theorem absorb_empty (index : ReferenceIndex) : index.absorb empty = index := rfl

theorem resolve?_foldl_absorb {γ : Type} (read : γ → ReferenceIndex) (members : List γ)
    (start : ReferenceIndex) (origin raw : String) :
    (members.foldl (fun index member => index.absorb (read member)) start).resolve? origin raw =
      (start.resolve? origin raw).or
        (members.findSome? fun member => (read member).resolve? origin raw) :=
  foldl_absorb_reading (fun index : ReferenceIndex => index.resolve? origin raw)
    (fun a b => resolve?_absorb a b origin raw) read members start

/-- An origin is known when some raw value of it resolves. -/
theorem hasOrigin_iff {index : ReferenceIndex} {origin : String} :
    index.hasOrigin origin = true ↔ ∃ raw, (index.resolve? origin raw).isSome := by
  have keys : ∀ raw, (index.resolve? origin raw).isSome ↔
      (origin, raw) ∈ index.resolved.keys := fun raw => KeyTable.mem_keys_iff_isSome.symm
  simp only [keys, KeyTable.keys, List.mem_map, hasOrigin, List.any_eq_true, beq_iff_eq]
  constructor
  · rintro ⟨⟨⟨name, raw⟩, value⟩, mem, same⟩
    exact ⟨raw, _, mem, Prod.ext same rfl⟩
  · rintro ⟨raw, entry, mem, same⟩
    exact ⟨entry, mem, congrArg Prod.fst same⟩

/-- An origin substitutes when some raw value of it resolves to another one. -/
theorem substitutes_iff {index : ReferenceIndex} {origin : String} :
    index.substitutes origin = true ↔
      ∃ raw value, index.resolve? origin raw = some value ∧ raw ≠ value := by
  simp only [substitutes, valuesOf, List.any_eq_true, List.mem_map, List.mem_filter, beq_iff_eq,
    decide_eq_true_eq, resolve?, ← KeyTable.mem_entries_iff]
  constructor
  · rintro ⟨_, ⟨⟨⟨name, raw⟩, value⟩, ⟨mem, rfl⟩, rfl⟩, apart⟩
    exact ⟨raw, value, mem, apart⟩
  · rintro ⟨raw, value, mem, apart⟩
    exact ⟨(raw, value), ⟨((origin, raw), value), ⟨mem, rfl⟩, rfl⟩, apart⟩

variable {a b : ReferenceIndex} {origin : String}

theorem hasOrigin_congr (same : ∀ raw, a.resolve? origin raw = b.resolve? origin raw) :
    a.hasOrigin origin = b.hasOrigin origin := by
  rw [Bool.eq_iff_iff, hasOrigin_iff, hasOrigin_iff]
  simp only [same]

theorem substitutes_congr (same : ∀ raw, a.resolve? origin raw = b.resolve? origin raw) :
    a.substitutes origin = b.substitutes origin := by
  rw [Bool.eq_iff_iff, substitutes_iff, substitutes_iff]
  simp only [same]

end ReferenceIndex

namespace SizeIndex

theorem absorb_empty (index : SizeIndex) : index.absorb empty = index := rfl

theorem get?_foldl_absorb {γ : Type} (read : γ → SizeIndex) (members : List γ) (start : SizeIndex)
    (table : String) (slot row : Nat) :
    (members.foldl (fun index member => index.absorb (read member)) start).get? table slot row =
      (start.get? table slot row).or
        (members.findSome? fun member => (read member).get? table slot row) :=
  foldl_absorb_reading (fun index : SizeIndex => index.get? table slot row)
    (fun a b => get?_absorb a b table slot row) read members start

end SizeIndex

end DesignTables
