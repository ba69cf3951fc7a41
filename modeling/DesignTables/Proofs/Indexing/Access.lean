import Mathlib.Data.List.Basic

/-!
# Lists that are read and changed at positions, without asking first whether there is a member

The functions whose names end in an exclamation mark do what their namesakes do by such accesses
alone. An access to a position that a list does not have ends the computation with a fault, so a
function is safe where it gives what its namesake gives.
-/
namespace DesignTables

/-- An access to a list at a position that it does not have. -/
structure IndexFault where
  index : Nat
  length : Nat
deriving DecidableEq, Repr

/-- A computation that accesses lists at positions. -/
abbrev Access := Except IndexFault

namespace Access

variable {α β : Type} {xs : List α} {i : Nat}

/-- The member at a position. -/
def read (xs : List α) (i : Nat) : Access α :=
  match xs[i]? with
  | some x => .ok x
  | none => .error ⟨i, xs.length⟩

/-- The list with the member at a position changed. -/
def modify (xs : List α) (i : Nat) (change : α → α) : Access (List α) :=
  if i < xs.length then .ok (xs.modify i change) else .error ⟨i, xs.length⟩

/-- The list with a member changed by a computation that accesses lists itself. -/
def update (xs : List α) (i : Nat) (change : α → Access α) : Access (List α) := do
  let x ← read xs i
  let y ← change x
  modify xs i fun _ => y

/-- The member at the position that a link names, if there is a link. -/
def follow (xs : List α) : Option Nat → Access (Option α)
  | none => .ok none
  | some i => do return some (← read xs i)

@[simp] theorem ok_bind (a : α) (f : α → Access β) : ((.ok a : Access α) >>= f) = f a := rfl

@[simp] theorem pure_eq_ok (a : α) : (pure a : Access α) = .ok a := rfl

theorem read_eq_ok {x : α} (h : xs[i]? = some x) : read xs i = .ok x := by
  rw [read, h]

/-- A read faults exactly where the list has no member. -/
theorem read_eq_error_iff {fault : IndexFault} :
    read xs i = .error fault ↔ xs.length ≤ i ∧ fault = ⟨i, xs.length⟩ := by
  rw [read]
  cases found : xs[i]? with
  | none => simp [List.getElem?_eq_none_iff.1 found, eq_comm]
  | some x =>
    obtain ⟨inside, -⟩ := List.getElem?_eq_some_iff.1 found
    simp
    omega

theorem modify_eq_ok (h : i < xs.length) (change : α → α) :
    modify xs i change = .ok (xs.modify i change) := if_pos h

theorem update_eq_ok {x : α} (place : xs[i]? = some x) {change : α → Access α} {next : α → α}
    (changed : change x = .ok (next x)) : update xs i change = .ok (xs.modify i next) := by
  obtain ⟨inside, -⟩ := List.getElem?_eq_some_iff.1 place
  rw [update, read_eq_ok place, ok_bind, changed, ok_bind, modify_eq_ok inside]
  refine congrArg Except.ok (List.ext_getElem? fun j => ?_)
  rw [List.getElem?_modify, List.getElem?_modify]
  by_cases same : i = j
  · subst same
    simp [place]
  · simp [same]

theorem follow_eq_ok {link : Option Nat} (h : ∀ i ∈ link, i < xs.length) :
    follow xs link = .ok (link.bind fun i => xs[i]?) := by
  cases link with
  | none => rfl
  | some i =>
    have inside : i < xs.length := h i rfl
    have found : xs[i]? = some xs[i] := List.getElem?_eq_getElem inside
    rw [follow, read_eq_ok found, Option.bind_some, found]
    rfl

theorem follow_eq_ok_of_map {link : Option Nat} {found : Option α}
    (h : (link.map fun i => xs[i]?) = found.map some) : follow xs link = .ok found := by
  cases link with
  | none =>
    obtain rfl : found = none := Option.map_eq_none_iff.1 h.symm
    rfl
  | some i =>
    obtain ⟨x, rfl, place⟩ := Option.map_eq_some_iff.1 h.symm
    rw [follow, read_eq_ok place.symm]
    rfl

/-- What is safe for every member is safe for the list. -/
theorem mapM_eq_ok {f : α → Access β} {g : α → β} (h : ∀ x ∈ xs, f x = .ok (g x)) :
    xs.mapM f = .ok (xs.map g) := by
  induction xs with
  | nil => rfl
  | cons x xs ih =>
    rw [List.mapM_cons, h x List.mem_cons_self, ih fun y mem => h y (List.mem_cons_of_mem _ mem)]
    rfl

theorem mapM_read_eq_ok {places : List Nat} {found : List α}
    (h : (places.map fun i => xs[i]?) = found.map some) : places.mapM (read xs) = .ok found := by
  induction places generalizing found with
  | nil =>
    obtain rfl : found = [] := List.map_eq_nil_iff.1 h.symm
    rfl
  | cons place places ih =>
    cases found with
    | nil => cases h
    | cons x found =>
      rw [List.map_cons, List.map_cons, List.cons.injEq] at h
      rw [List.mapM_cons, read_eq_ok h.1, ok_bind, ih h.2]
      rfl

/-- Two folds go along with each other when each of their steps keeps what relates them. -/
theorem foldlM_gives {γ : Type} {step : β → α → Access β} {next : γ → α → γ} {R : β → γ → Prop}
    (h : ∀ b c, R b c → ∀ x ∈ xs, ∃ b', step b x = .ok b' ∧ R b' (next c x)) {b : β} {c : γ}
    (related : R b c) : ∃ b', xs.foldlM step b = .ok b' ∧ R b' (xs.foldl next c) := by
  induction xs generalizing b c with
  | nil => exact ⟨b, rfl, related⟩
  | cons x xs ih =>
    obtain ⟨b', first, kept⟩ := h b c related x List.mem_cons_self
    rw [List.foldlM_cons, first, ok_bind, List.foldl_cons]
    exact ih (fun b c known y mem => h b c known y (List.mem_cons_of_mem _ mem)) kept

/-- A fold is safe when an invariant makes each of its steps safe and is kept by them. -/
theorem foldlM_eq_ok {step : β → α → Access β} {next : β → α → β} (P : β → Prop)
    (h : ∀ b, P b → ∀ x ∈ xs, step b x = .ok (next b x) ∧ P (next b x)) {start : β}
    (holds : P start) :
    xs.foldlM step start = .ok (xs.foldl next start) ∧ P (xs.foldl next start) := by
  obtain ⟨b, result, rfl, kept⟩ := foldlM_gives (R := fun b c => b = c ∧ P c)
    (by
      rintro b _ ⟨rfl, known⟩ x mem
      obtain ⟨first, kept⟩ := h b known x mem
      exact ⟨_, first, rfl, kept⟩)
    (⟨rfl, holds⟩ : start = start ∧ P start)
  exact ⟨result, kept⟩

end Access

end DesignTables
