import Mathlib.Data.List.Flatten
import Mathlib.Data.List.Nodup
import Mathlib.Data.List.Perm.Subperm

/-!
Facts that the library does not have: about lists, dropping repetitions and looking up a member by
a key that no other member has, and about steps that may fail.
-/
namespace DesignTables

theorem nodup_eraseDups {α : Type} [BEq α] [LawfulBEq α] (xs : List α) : xs.eraseDups.Nodup := by
  match xs with
  | [] => exact List.nodup_nil
  | x :: rest =>
    rw [List.eraseDups_cons, List.nodup_cons]
    refine ⟨?_, nodup_eraseDups _⟩
    rw [List.mem_eraseDups, List.mem_filter]
    simp
termination_by xs.length
decreasing_by
  have := List.length_filter_le (fun y => !y == x) rest
  rw [List.length_cons]
  omega

theorem filter_eraseDups {α : Type} [BEq α] [LawfulBEq α] (p : α → Bool) (xs : List α) :
    xs.eraseDups.filter p = (xs.filter p).eraseDups := by
  match xs with
  | [] => rfl
  | x :: rest =>
    have swap : (rest.filter fun y => !y == x).filter p =
        (rest.filter p).filter fun y => !y == x := List.filter_comm ..
    rw [List.eraseDups_cons, List.filter_cons, List.filter_cons, filter_eraseDups, swap]
    split
    · rw [List.eraseDups_cons]
    next out =>
      congr 1
      rw [List.filter_eq_self]
      intro y mem
      have other : y ≠ x := by
        rintro rfl
        exact out (List.mem_filter.1 mem).2
      simpa using other
termination_by xs.length
decreasing_by
  have := List.length_filter_le (fun y => !y == x) rest
  rw [List.length_cons]
  omega

theorem eraseDups_of_nodup {α : Type} [BEq α] [LawfulBEq α] {xs : List α} (h : xs.Nodup) :
    xs.eraseDups = xs := by
  induction xs with
  | nil => rfl
  | cons x rest ih =>
    rw [List.nodup_cons] at h
    have kept : (rest.filter fun y => !y == x) = rest := by
      rw [List.filter_eq_self]
      intro y mem
      have other : y ≠ x := by
        rintro rfl
        exact h.1 mem
      simpa using other
    rw [List.eraseDups_cons, kept, ih h.2]

/-- All members but the last, by the first one and those behind it. -/
theorem forall_mem_dropLast_cons {α : Type} {P : α → Prop} {first : α} {rest : List α} :
    (∀ x ∈ (first :: rest).dropLast, P x) ↔
      (rest ≠ [] → P first) ∧ ∀ x ∈ rest.dropLast, P x := by
  cases rest with
  | nil => simp
  | cons next rest => simp [List.dropLast_cons_cons]

/-- A list has no repetitions when no member stands before itself. -/
theorem nodup_of_not_mem_take {α : Type} {xs : List α}
    (h : ∀ i x, xs[i]? = some x → x ∉ xs.take i) : xs.Nodup := by
  rw [List.nodup_iff_getElem?_ne_getElem?]
  intro i j before inside same
  have later : xs[j]? = some xs[j] := List.getElem?_eq_getElem inside
  refine h j xs[j] later (List.mem_of_getElem? (i := i) ?_)
  rw [List.getElem?_take_of_lt before, same, later]

/-- One list, any number of times over. -/
def CopiesOf {α : Type} (xs ys : List α) : Prop := ∃ n, ys = (List.replicate n xs).flatten

theorem CopiesOf.append {α : Type} {xs ys zs : List α} (h : CopiesOf xs ys) (h' : CopiesOf xs zs) :
    CopiesOf xs (ys ++ zs) := by
  obtain ⟨n, rfl⟩ := h
  obtain ⟨m, rfl⟩ := h'
  exact ⟨n + m, by rw [← List.replicate_append_replicate, List.flatten_append]⟩

theorem CopiesOf.flatMap {α β : Type} {xs : List α} {ys : List β} {f : β → List α}
    (h : ∀ y ∈ ys, CopiesOf xs (f y)) : CopiesOf xs (ys.flatMap f) := by
  induction ys with
  | nil => exact ⟨0, rfl⟩
  | cons y ys ih =>
    rw [List.flatMap_cons]
    exact (h y List.mem_cons_self).append (ih fun z mem => h z (List.mem_cons_of_mem _ mem))

/-- Of some copies of a list without repetitions one is left when repetitions are dropped. -/
theorem CopiesOf.eraseDups {α : Type} [BEq α] [LawfulBEq α] {xs ys : List α} (nodup : xs.Nodup)
    (h : CopiesOf xs ys) (some : ys ≠ [] ∨ xs = []) : ys.eraseDups = xs := by
  obtain ⟨n, rfl⟩ := h
  cases n with
  | zero =>
    rcases some with some | rfl
    · exact absurd rfl some
    · rfl
  | succ n =>
    have rest : (List.replicate n xs).flatten.removeAll xs = [] := by
      rw [List.removeAll, List.filter_eq_nil_iff]
      intro x mem
      obtain ⟨copy, known, mem⟩ := List.mem_flatten.1 mem
      rw [List.eq_of_mem_replicate known] at mem
      simpa using mem
    rw [List.replicate_succ, List.flatten_cons, List.eraseDups_append, rest,
      eraseDups_of_nodup nodup]
    exact List.append_nil _

variable {α β κ : Type}

/-- Members that do not answer can be left out. -/
theorem flatMap_filter_of_empty {p : α → Bool} {f : α → List β} {xs : List α}
    (h : ∀ x ∈ xs, p x = false → f x = []) : (xs.filter p).flatMap f = xs.flatMap f := by
  induction xs with
  | nil => rfl
  | cons x xs ih =>
    have rest := ih fun y mem => h y (List.mem_cons_of_mem _ mem)
    rw [List.filter_cons, List.flatMap_cons, ← rest]
    split
    · rw [List.flatMap_cons]
    next out => rw [h x List.mem_cons_self (Bool.eq_false_iff.2 out), List.nil_append]

theorem subperm_flatMap {xs ys : List α} (h : xs.Subperm ys) (f : α → List β) :
    (xs.flatMap f).Subperm (ys.flatMap f) := by
  obtain ⟨some, perm, sub⟩ := h
  exact ⟨some.flatMap f, perm.flatMap_right f, sub.flatMap f⟩

theorem nodup_of_subperm {xs ys : List α} (h : xs.Subperm ys) (nodup : ys.Nodup) : xs.Nodup := by
  obtain ⟨some, perm, sub⟩ := h
  exact perm.nodup_iff.1 (nodup.sublist sub)

theorem subperm_map {xs ys : List α} (h : xs.Subperm ys) (f : α → β) :
    (xs.map f).Subperm (ys.map f) := by
  obtain ⟨some, perm, sub⟩ := h
  exact ⟨some.map f, perm.map f, sub.map f⟩

/-- Of members with pairwise different keys, one is told by its key. -/
theorem eq_of_key_eq {key : α → κ} {xs : List α} (nodup : (xs.map key).Nodup) {x y : α}
    (hx : x ∈ xs) (hy : y ∈ xs) (same : key x = key y) : x = y :=
  List.inj_on_of_nodup_map nodup hx hy same

theorem find?_key_iff {key : α → κ} [DecidableEq κ] {xs : List α} (nodup : (xs.map key).Nodup)
    {k : κ} {x : α} : xs.find? (key · == k) = some x ↔ x ∈ xs ∧ key x = k := by
  constructor
  · intro found
    exact ⟨List.mem_of_find?_eq_some found, by simpa using List.find?_some found⟩
  · rintro ⟨mem, rfl⟩
    cases found : xs.find? (key · == key x) with
    | none =>
      have := List.find?_eq_none.1 found x mem
      simp at this
    | some y =>
      have same : key y = key x := by simpa using List.find?_some found
      rw [eq_of_key_eq nodup (List.mem_of_find?_eq_some found) mem same]

theorem find?_key {key : α → κ} [DecidableEq κ] {xs : List α} (nodup : (xs.map key).Nodup) {x : α}
    (hx : x ∈ xs) : xs.find? (key · == key x) = some x :=
  (find?_key_iff nodup).2 ⟨hx, rfl⟩

/-- Members looked up by their keys are found again. -/
theorem filterMap_find?_key {key : α → κ} [DecidableEq κ] {xs ys : List α}
    (nodup : (xs.map key).Nodup) (sub : ys ⊆ xs) :
    (ys.map key).filterMap (fun k => xs.find? (key · == k)) = ys := by
  rw [List.filterMap_map]
  have found : ∀ y ∈ ys, ((fun k => xs.find? (key · == k)) ∘ key) y = some y :=
    fun y mem => find?_key nodup (sub mem)
  rw [List.filterMap_congr found, List.filterMap_some]

/-- Lists of such members with the same keys are the same. -/
theorem eq_of_map_key_eq {key : α → κ} [DecidableEq κ] {all xs ys : List α}
    (nodup : (all.map key).Nodup) (hx : xs ⊆ all) (hy : ys ⊆ all) (same : xs.map key = ys.map key) :
    xs = ys := by
  rw [← filterMap_find?_key nodup hx, same, filterMap_find?_key nodup hy]

/-- Lists with the same members find the same by a key that tells the members apart. -/
theorem find?_key_congr {key : α → κ} [DecidableEq κ] {xs ys : List α} (hx : (xs.map key).Nodup)
    (hy : (ys.map key).Nodup) (same : ∀ x, x ∈ xs ↔ x ∈ ys) (k : κ) :
    xs.find? (key · == k) = ys.find? (key · == k) := by
  apply Option.ext
  intro x
  rw [find?_key_iff hx, find?_key_iff hy, same]

/-- A member has a number. -/
theorem exists_mem_zipIdx {xs : List α} {x : α} (mem : x ∈ xs) : ∃ i, (x, i) ∈ xs.zipIdx := by
  obtain ⟨i, place⟩ := List.mem_iff_getElem?.1 mem
  exact ⟨i, List.mk_mem_zipIdx_iff_getElem?.2 place⟩

/-- The keys of numbered members are those of the members. -/
theorem map_zipIdx_key (key : α → κ) (xs : List α) :
    (xs.zipIdx.map fun given => key given.1) = xs.map key := by
  have firsts := congrArg (List.map key) (List.zipIdx_map_fst 0 xs)
  rw [List.map_map] at firsts
  exact firsts

/-- When no other member answers, the answer is that of the one member. -/
theorem findSome?_only {xs : List α} {f : α → Option β} {x : α} (hx : x ∈ xs)
    (other : ∀ y ∈ xs, y ≠ x → f y = none) : xs.findSome? f = f x := by
  induction xs with
  | nil => exact absurd hx List.not_mem_nil
  | cons y ys ih =>
    have later : ∀ z ∈ ys, z ≠ x → f z = none := fun z hz => other z (List.mem_cons_of_mem _ hz)
    rw [List.findSome?_cons]
    by_cases here : y = x
    · subst here
      cases found : f y with
      | some b => rfl
      | none =>
        -- The member may occur again later, where it has no answer either.
        change ys.findSome? f = none
        rw [List.findSome?_eq_none_iff]
        intro z hz
        by_cases same : z = y
        · rw [same, found]
        · exact later z hz same
    · rw [other y List.mem_cons_self here]
      exact ih ((List.mem_cons.1 hx).resolve_left fun same => here same.symm) later

/-- When no other member gives anything, what is given is that of the one member. -/
theorem flatMap_only {xs : List α} (nodup : xs.Nodup) {f : α → List β} {x : α} (hx : x ∈ xs)
    (other : ∀ y ∈ xs, y ≠ x → f y = []) : xs.flatMap f = f x := by
  obtain ⟨before, after, rfl⟩ := List.append_of_mem hx
  obtain ⟨new, -⟩ := List.nodup_cons.1 (List.nodup_middle.1 nodup)
  have none (ys : List α) (known : ∀ y ∈ ys, y ∈ before ++ after) : ys.flatMap f = [] := by
    refine List.flatMap_eq_nil_iff.2 fun y mem => ?_
    have inside : y ∈ before ++ x :: after :=
      (List.mem_append.1 (known y mem)).elim (List.mem_append_left _)
        fun mem => List.mem_append_right _ (List.mem_cons_of_mem _ mem)
    exact other y inside fun same => new (same ▸ known y mem)
  rw [List.flatMap_append, List.flatMap_cons, none before fun y mem => List.mem_append_left _ mem,
    none after fun y mem => List.mem_append_right _ mem, List.nil_append, List.append_nil]

/-- When only members of a key answer, the answer is that of the member with the key. -/
theorem findSome?_key {key : α → κ} {xs : List α} (nodup : (xs.map key).Nodup) {f : α → Option β}
    {x : α} (hx : x ∈ xs) (other : ∀ y ∈ xs, key y ≠ key x → f y = none) : xs.findSome? f = f x :=
  findSome?_only hx fun y hy apart => other y hy fun same => apart (eq_of_key_eq nodup hy hx same)

theorem findSome?_congr {xs : List α} {f g : α → Option β} (h : ∀ x ∈ xs, f x = g x) :
    xs.findSome? f = xs.findSome? g := by
  rw [← List.head?_filterMap, ← List.head?_filterMap, List.filterMap_congr h]

/-- Members that do not answer can be left out of a search. -/
theorem findSome?_filter_of_none {p : α → Bool} {f : α → Option β} {xs : List α}
    (silent : ∀ x ∈ xs, p x = false → f x = none) : (xs.filter p).findSome? f = xs.findSome? f := by
  induction xs with
  | nil => rfl
  | cons x xs ih =>
    have rest := ih fun y mem => silent y (List.mem_cons_of_mem _ mem)
    rw [List.filter_cons, List.findSome?_cons]
    split
    · rw [List.findSome?_cons, rest]
    next out => rw [silent x List.mem_cons_self (Bool.eq_false_iff.2 out), rest]

theorem findSome?_filterMap_eq {γ : Type} (xs : List α) (f : α → Option β) (g : β → Option γ) :
    (xs.filterMap f).findSome? g = xs.findSome? fun x => (f x).bind g := by
  rw [← List.head?_filterMap, List.filterMap_filterMap, List.head?_filterMap]

/-- When only one key answers, and its member is in both lists, the lists answer alike. -/
theorem findSome?_congr_of_only (key : α → κ) {xs ys : List α} (hx : (xs.map key).Nodup)
    (hy : (ys.map key).Nodup) (sub : xs ⊆ ys) {f : α → Option β} {k : κ}
    (only : ∀ y ∈ ys, (f y).isSome → y ∈ xs ∧ key y = k) : xs.findSome? f = ys.findSome? f := by
  by_cases answer : ∃ y ∈ ys, (f y).isSome
  · obtain ⟨y, mem, found⟩ := answer
    obtain ⟨inside, own⟩ := only y mem found
    have other : ∀ z ∈ ys, key z ≠ key y → f z = none := by
      intro z mem' apart
      rw [← Option.not_isSome_iff_eq_none]
      exact fun found' => apart ((only z mem' found').2.trans own.symm)
    rw [findSome?_key hy mem other, findSome?_key hx inside fun z mem' => other z (sub mem')]
  · have none : ∀ y ∈ ys, f y = none := by
      intro y mem
      rw [← Option.not_isSome_iff_eq_none]
      exact fun found => answer ⟨y, mem, found⟩
    rw [List.findSome?_eq_none_iff.2 none, List.findSome?_eq_none_iff.2 fun y mem => none y (sub mem)]

/-- What one step brings about and no step undoes holds after a fold over that step. -/
theorem foldl_brings_about {P : β → Prop} {f : β → α → β} {xs : List α} {x : α} (mem : x ∈ xs)
    (kept : ∀ b, P b → ∀ y ∈ xs, P (f b y)) (reached : ∀ b, P (f b x)) (start : β) :
    P (xs.foldl f start) := by
  induction xs generalizing start with
  | nil => exact absurd mem List.not_mem_nil
  | cons y ys ih =>
    have later : ∀ b, P b → ∀ z ∈ ys, P (f b z) :=
      fun b h z mem => kept b h z (List.mem_cons_of_mem _ mem)
    rw [List.foldl_cons]
    rcases List.mem_cons.1 mem with rfl | mem
    · exact List.foldlRecOn ys f (reached start) later
    · exact ih mem later (f start y)

/-- What each step carries from the elements passed before to those with one more holds of a whole list
after a fold. -/
theorem foldl_passes {P : List α → β → Prop} {f : β → α → β} {xs : List α} {start : β}
    (begun : P [] start)
    (step : ∀ passed x rest now, xs = passed ++ x :: rest → P passed now →
      P (passed ++ [x]) (f now x)) : P xs (xs.foldl f start) := by
  have run : ∀ (rest passed : List α) (now : β), xs = passed ++ rest → P passed now →
      P xs (rest.foldl f now) := by
    intro rest
    induction rest with
    | nil =>
      intro passed now split known
      rw [List.append_nil] at split
      exact split ▸ known
    | cons x rest ih =>
      intro passed now split known
      refine ih (passed ++ [x]) (f now x) ?_ (step passed x rest now split known)
      rw [split, List.append_assoc, List.singleton_append]
  exact run xs [] start rfl begun

/-- A change in one place that a view does not see leaves the view of the list as it was. -/
theorem map_modify_of_unseen {f : α → α} {g : α → β} (h : ∀ x, g (f x) = g x) (xs : List α)
    (i : Nat) : (xs.modify i f).map g = xs.map g := by
  apply List.ext_getElem?
  intro j
  rw [List.getElem?_map, List.getElem?_modify, List.getElem?_map]
  cases xs[j]? with
  | none => rfl
  | some x =>
    change some (g (if i = j then f x else x)) = some (g x)
    split
    · rw [h]
    · rfl

/-- Changes that can be swapped for a member can be swapped for a list. -/
theorem modify_comm {f g : α → α} (h : ∀ x, g (f x) = f (g x)) (xs : List α) (i j : Nat) :
    (xs.modify i f).modify j g = (xs.modify j g).modify i f := by
  apply List.ext_getElem?
  intro k
  simp only [List.getElem?_modify]
  cases xs[k]? with
  | none => rfl
  | some x => by_cases here : i = k <;> by_cases there : j = k <;> simp [here, there, h]

/-- A member of a list with one place changed was there before, or is what that place became. -/
theorem mem_modify {xs : List α} {i : Nat} {f : α → α} {x : α} (h : x ∈ xs.modify i f) :
    x ∈ xs ∨ ∃ y, xs[i]? = some y ∧ x = f y := by
  obtain ⟨j, found⟩ := List.mem_iff_getElem?.1 h
  rw [List.getElem?_modify] at found
  obtain ⟨y, place, rfl⟩ := Option.map_eq_some_iff.1 found
  split
  next same => exact .inr ⟨y, same ▸ place, rfl⟩
  next => exact .inl (List.mem_of_getElem? place)

/-- A step that may fail succeeds throughout a list when it does for every member. -/
theorem mapM_eq_some_iff {α β : Type} {f : α → Option β} {xs : List α} {ys : List β} :
    xs.mapM f = some ys ↔ xs.map f = ys.map some := by
  induction xs generalizing ys with
  | nil => cases ys <;> simp
  | cons x xs ih =>
    rw [List.mapM_cons, List.map_cons]
    cases ys with
    | nil => cases f x <;> cases xs.mapM f <;> simp
    | cons y ys =>
      rw [List.map_cons, List.cons.injEq, ← ih]
      cases f x <;> cases xs.mapM f <;> simp

section

variable {ε α β : Type}

/-- A step followed by another one succeeds when both do. -/
theorem ok_of_bind {x : Except ε α} {f : α → Except ε β} {b : β} (h : x >>= f = .ok b) :
    ∃ a, x = .ok a ∧ f a = .ok b := by
  cases x with
  | error fault => cases h
  | ok a => exact ⟨a, rfl, h⟩

theorem ok_of_map {x : Except ε α} {f : α → β} {b : β} (h : x.map f = .ok b) :
    ∃ a, x = .ok a ∧ f a = b := by
  cases x with
  | error fault => cases h
  | ok a => exact ⟨a, rfl, Except.ok.inj h⟩

theorem ok_of_mapError {δ : Type} {x : Except ε α} {f : ε → δ} {a : α}
    (h : x.mapError f = .ok a) : x = .ok a := by
  cases x with
  | error fault => cases h
  | ok b => rw [Except.ok.inj h]

theorem ok_of_toOption {x : Except ε α} {a : α} (h : x.toOption = some a) : x = .ok a := by
  cases x with
  | error fault => cases h
  | ok b => rw [Option.some.inj h]

end

end DesignTables
