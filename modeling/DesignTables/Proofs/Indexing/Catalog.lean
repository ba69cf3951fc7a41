import DesignTables.Compile.Context
import DesignTables.Proofs.Index.Unions
import DesignTables.Proofs.Indexing.Access

/-!
# Workbooks found by positions

The catalog notes positions of its entries under the names of workbooks, of table sheets and of
merge groups. A name of a workbook keeps the last position, that of a sheet the first one, and a
group all of them. Entries are only added behind, so each position stays that of its entry.
-/
namespace DesignTables

/-- The catalog with the positions of its entries. -/
structure IndexedCatalog where
  entries : List CatalogEntry
  byName : KeyTable String Nat
  sheetOwner : KeyTable String Nat
  members : KeyTable String (List Nat)

namespace IndexedCatalog

def empty : IndexedCatalog := ⟨[], KeyTable.empty, KeyTable.empty, KeyTable.empty⟩

/-- The catalog with one more entry. -/
def push (catalog : IndexedCatalog) (entry : CatalogEntry) : IndexedCatalog :=
  let place := catalog.entries.length
  { entries := catalog.entries ++ [entry]
    byName := catalog.byName.set entry.name place
    sheetOwner := entry.tables.foldl (·.record · place) catalog.sheetOwner
    members :=
      match entry.mergeGroup with
      | some group =>
        catalog.members.set group (((catalog.members.get? group).getD []) ++ [place])
      | none => catalog.members }

/-- The catalog of some workbooks. -/
def ofWorkbooks (books : List Workbook) : IndexedCatalog :=
  books.foldl (fun catalog book => catalog.push (CatalogEntry.ofWorkbook book)) empty

/-- The entries alone. -/
def catalog (indexed : IndexedCatalog) : Catalog := ⟨indexed.entries⟩

def find! (indexed : IndexedCatalog) (name : String) : Access (Option CatalogEntry) :=
  Access.follow indexed.entries (indexed.byName.get? name)

def workbookOfSheet! (indexed : IndexedCatalog) (sheet : String) : Access (Option String) := do
  let entry ← Access.follow indexed.entries (indexed.sheetOwner.get? sheet)
  return entry.map (·.name)

def workbooksInGroup! (indexed : IndexedCatalog) (group : String) : Access (List String) := do
  let entries ← ((indexed.members.get? group).getD []).mapM (Access.read indexed.entries)
  return entries.map (·.name)

def resolve! (indexed : IndexedCatalog) (name : String) : Access (Option String) := do
  match ← indexed.find! name with
  | some _ => return some name
  | none =>
    let byStem := indexed.entries.find? fun entry =>
      match Path.splitLastDot? entry.name with
      | some (stem, _) => Text.eqIgnoringCase stem name
      | none => false
    byStem.elim (indexed.workbookOfSheet! name) fun entry => return some entry.name

def companions! (indexed : IndexedCatalog) (entry : CatalogEntry) : Access (List String) :=
  match entry.kind with
  | some .enumeration => return indexed.catalog.workbooksOfKind .enumeration
  | some .localization => return indexed.catalog.workbooksOfKind .localization
  | some .merge => entry.mergeGroup.elim (return []) indexed.workbooksInGroup!
  | some .data | none => return []

def brings! (indexed : IndexedCatalog) (entry : CatalogEntry) : Access (List String) := do
  let others ← indexed.companions! entry
  return entry.name :: others

def expand! (indexed : IndexedCatalog) (selected : List String) : Access (List String) := do
  let found ← selected.mapM indexed.find!
  let brought ← (found.filterMap id).mapM indexed.brings!
  return (indexed.entries.map (·.name)).filter brought.flatten.contains

/-- Every position that is noted is that of the entry it was noted for. -/
structure IsSound (indexed : IndexedCatalog) : Prop where
  names : ∀ name, ((indexed.byName.get? name).map fun place => indexed.entries[place]?) =
    (indexed.catalog.find? name).map some
  sheets : ∀ sheet, ((indexed.sheetOwner.get? sheet).map fun place => indexed.entries[place]?) =
    (indexed.entries.find? (·.tables.contains sheet)).map some
  groups : ∀ group,
    (((indexed.members.get? group).getD []).map fun place => indexed.entries[place]?) =
      (indexed.entries.filter (·.mergeGroup == some group)).map some

/-- Positions of members stay what they are when members are added behind. -/
private theorem map_places_append {α : Type} {xs found : List α} {places : List Nat}
    (h : (places.map fun place => xs[place]?) = found.map some) (more : List α) :
    (places.map fun place => (xs ++ more)[place]?) = found.map some := by
  rw [← h]
  refine List.map_congr_left fun place mem => ?_
  have member : xs[place]? ∈ found.map some := by
    rw [← h]
    exact List.mem_map_of_mem mem
  obtain ⟨x, -, here⟩ := List.mem_map.1 member
  obtain ⟨inside, -⟩ := List.getElem?_eq_some_iff.1 here.symm
  exact List.getElem?_append_left inside

private theorem map_place_append {α : Type} {xs : List α} {place : Option Nat} {found : Option α}
    (h : (place.map fun place => xs[place]?) = found.map some) (more : List α) :
    (place.map fun place => (xs ++ more)[place]?) = found.map some := by
  cases place with
  | none => exact h
  | some place =>
    obtain ⟨x, rfl, here⟩ := Option.map_eq_some_iff.1 h.symm
    obtain ⟨inside, -⟩ := List.getElem?_eq_some_iff.1 here.symm
    exact congrArg some ((List.getElem?_append_left inside).trans here.symm)

private theorem get?_foldl_record (names : List String) (place : Nat)
    (table : KeyTable String Nat) (name : String) :
    (names.foldl (·.record · place) table).get? name =
      (table.get? name).or (if names.contains name then some place else none) := by
  induction names generalizing table with
  | nil => simp
  | cons first rest ih =>
    rw [List.foldl_cons, ih, KeyTable.get?_record]
    by_cases own : name = first
    · subst own
      cases table.get? name <;> simp
    · simp [own]

theorem isSound_empty : empty.IsSound := ⟨fun _ => rfl, fun _ => rfl, fun _ => rfl⟩

theorem IsSound.push {indexed : IndexedCatalog} (h : indexed.IsSound) (entry : CatalogEntry) :
    (indexed.push entry).IsSound := by
  have last : (indexed.entries ++ [entry])[indexed.entries.length]? = some entry := by simp
  refine ⟨fun name => ?_, fun sheet => ?_, fun group => ?_⟩
  · have older := map_place_append (h.names name) [entry]
    rw [IndexedCatalog.push, catalog, Catalog.find?]
    dsimp only
    rw [KeyTable.get?_set, List.reverse_append, List.reverse_singleton, List.singleton_append,
      List.find?_cons]
    by_cases own : name = entry.name
    · subst own
      simp
    · have apart : (entry.name == name) = false := by simpa using Ne.symm own
      rw [if_neg own, apart]
      exact older
  · have older := map_place_append (h.sheets sheet) [entry]
    rw [IndexedCatalog.push]
    dsimp only
    rw [get?_foldl_record, List.find?_append]
    cases owned : indexed.sheetOwner.get? sheet with
    | some place =>
      rw [owned] at older
      obtain ⟨owner, found, -⟩ := Option.map_eq_some_iff.1 older.symm
      rw [found] at older ⊢
      exact older
    | none =>
      rw [owned] at older
      have absent := Option.map_eq_none_iff.1 older.symm
      rw [absent, Option.none_or, Option.none_or, List.find?_singleton]
      cases entry.tables.contains sheet
      · rfl
      · exact congrArg some last
  · have older := map_places_append (h.groups group) [entry]
    rw [IndexedCatalog.push]
    dsimp only
    rw [List.filter_append, List.map_append, ← older]
    cases named : entry.mergeGroup with
    | none => simp [named]
    | some other =>
      dsimp only
      rw [KeyTable.get?_set]
      by_cases own : group = other
      · subst own
        simp [named]
      · have apart : ¬ other = group := Ne.symm own
        simp [named, own, apart]

theorem isSound_ofWorkbooks (books : List Workbook) : (ofWorkbooks books).IsSound :=
  List.foldlRecOn (motive := fun indexed : IndexedCatalog => indexed.IsSound) books _ isSound_empty
    fun _ sound book _ => sound.push (CatalogEntry.ofWorkbook book)

theorem catalog_ofWorkbooks (books : List Workbook) :
    (ofWorkbooks books).catalog = Catalog.ofWorkbooks books := by
  have entries (start : IndexedCatalog) :
      (books.foldl (fun catalog book => catalog.push (CatalogEntry.ofWorkbook book))
      start).entries =
        start.entries ++ books.map CatalogEntry.ofWorkbook := by
    induction books generalizing start with
    | nil => exact (List.append_nil _).symm
    | cons book books ih =>
      rw [List.foldl_cons, ih, IndexedCatalog.push, List.append_assoc]
      rfl
  exact congrArg Catalog.mk (entries empty)

namespace IsSound

variable {indexed : IndexedCatalog} (h : indexed.IsSound)
include h

theorem find!_eq_ok (name : String) : indexed.find! name = .ok (indexed.catalog.find? name) :=
  Access.follow_eq_ok_of_map (h.names name)

theorem workbookOfSheet!_eq_ok (sheet : String) :
    indexed.workbookOfSheet! sheet = .ok (indexed.catalog.workbookOfSheet? sheet) := by
  rw [workbookOfSheet!, Access.follow_eq_ok_of_map (h.sheets sheet)]
  rfl

theorem workbooksInGroup!_eq_ok (group : String) :
    indexed.workbooksInGroup! group = .ok (indexed.catalog.workbooksInGroup group) := by
  rw [workbooksInGroup!, Access.mapM_read_eq_ok (h.groups group)]
  rfl

theorem resolve!_eq_ok (name : String) :
    indexed.resolve! name = .ok (indexed.catalog.resolve? name) := by
  rw [resolve!, h.find!_eq_ok, Access.ok_bind, Catalog.resolve?]
  cases indexed.catalog.find? name with
  | some entry => rfl
  | none =>
    have answer (byStem : Option CatalogEntry) (owner : Option String) :
        byStem.elim (.ok owner) (fun entry => return some entry.name) =
          (.ok ((byStem.map (·.name)).or owner) : Access (Option String)) := by
      cases byStem <;> rfl
    dsimp only
    rw [h.workbookOfSheet!_eq_ok, if_neg (by simp)]
    exact answer _ _

theorem brings!_eq_ok (entry : CatalogEntry) :
    indexed.brings! entry = .ok (indexed.catalog.brings entry) := by
  have others : indexed.companions! entry = .ok (indexed.catalog.brings entry).tail := by
    rw [companions!, Catalog.brings]
    cases entry.kind with
    | none => rfl
    | some kind =>
      cases kind
      case merge =>
        cases entry.mergeGroup with
        | none => rfl
        | some group => exact h.workbooksInGroup!_eq_ok group
      all_goals rfl
  rw [brings!, others]
  rfl

theorem expand!_eq_ok (selected : List String) :
    indexed.expand! selected = .ok (indexed.catalog.expand selected) := by
  rw [expand!, Access.mapM_eq_ok fun name _ => h.find!_eq_ok name, Access.ok_bind,
    Access.mapM_eq_ok fun entry _ => h.brings!_eq_ok entry, Access.ok_bind, List.filterMap_map,
    ← List.flatMap_def]
  rfl

end IsSound

end IndexedCatalog

end DesignTables
