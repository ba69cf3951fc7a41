import DesignTables.Catalog.Basic
import DesignTables.Proofs.Ingest.Sheets

/-!
# What the catalog entry of a workbook says of the table sheets that the workbook holds

The entry lists their names. Its kind is the kind of one of them, and not plain data when another
kind occurs. Its merge group is one that a merge sheet names, and there is one when some does.
-/
namespace DesignTables

/-- The merge group that the cells of a sheet name, if it is a merge sheet. -/
def Sheet.groupName? (sheet : Sheet) : Option String :=
  if Kind.detect? sheet.grid = some .merge then
    (sheet.grid.text? Header.directiveRow 0).bind mergeGroupName?
  else none

namespace CatalogEntry

variable {entry : CatalogEntry} {sheet : Sheet} {book : Workbook} {kind : Kind}

/-- An entry with one more table sheet of a kind. -/
def addTable (entry : CatalogEntry) (sheet : Sheet) (kind : Kind) : CatalogEntry :=
  { entry with
    kind := nextKind entry.kind kind
    tables := entry.tables ++ [sheet.name]
    mergeGroup := sheet.groupName?.or entry.mergeGroup }

theorem addSheet_of_none (h : Kind.detect? sheet.grid = none) : addSheet entry sheet = entry := by
  rw [addSheet, h]

theorem addSheet_of_some (h : Kind.detect? sheet.grid = some kind) :
    addSheet entry sheet = entry.addTable sheet kind := by
  rw [addSheet, h, addTable, Sheet.groupName?, h]
  simp only [Option.some.injEq]
  rfl

/-- What holds before the first sheet of a workbook and is kept by each of its table sheets holds of its
entry. -/
theorem ofWorkbook_induction {P : CatalogEntry → Prop} (begun : P ⟨book.name, none, [], none⟩)
    (added : ∀ now, P now → ∀ sheet ∈ book.sheets, ∀ kind, Kind.detect? sheet.grid = some kind →
      P (now.addTable sheet kind)) : P (ofWorkbook book) := by
  rw [ofWorkbook]
  refine List.foldlRecOn (motive := P) book.sheets _ begun fun now known sheet mem => ?_
  cases detected : Kind.detect? sheet.grid with
  | none => rwa [addSheet_of_none detected]
  | some kind =>
    rw [addSheet_of_some detected]
    exact added now known sheet mem kind detected

/-- What one table sheet of a workbook brings about and the others keep holds of its entry. -/
theorem ofWorkbook_brings_about {P : CatalogEntry → Prop} (mem : sheet ∈ book.sheets)
    (detected : Kind.detect? sheet.grid = some kind)
    (kept : ∀ now, P now → ∀ other own, P (now.addTable other own))
    (reached : ∀ now : CatalogEntry, P (now.addTable sheet kind)) : P (ofWorkbook book) := by
  rw [ofWorkbook]
  refine foldl_brings_about (P := P) mem (fun now known other _ => ?_) (fun now => ?_) _
  · cases found : Kind.detect? other.grid with
    | none => rwa [addSheet_of_none found]
    | some own =>
      rw [addSheet_of_some found]
      exact kept now known other own
  · rw [addSheet_of_some detected]
    exact reached now

/-- A table sheet leaves the kind of a workbook as it is, or gives it its own. -/
theorem nextKind_eq_some {known : Option Kind} {own : Kind} (h : nextKind known own = some kind) :
    known = some kind ∨ own = kind := by
  rw [nextKind] at h
  split at h
  next data =>
    rcases Option.or_eq_some_iff.1 h with earlier | ⟨-, new⟩
    · exact .inl earlier
    · exact .inr (data.trans (Option.some.inj new))
  next => exact .inr (Option.some.inj h)

theorem isSome_nextKind (known : Option Kind) (own : Kind) : (nextKind known own).isSome := by
  rw [nextKind]
  split
  · rw [Option.isSome_or, Option.isSome_some, Bool.or_true]
  · rfl

theorem name_ofWorkbook (book : Workbook) : (ofWorkbook book).name = book.name :=
  ofWorkbook_induction (P := fun now => now.name = book.name) rfl fun _ same _ _ _ _ => same

theorem tables_ofWorkbook (book : Workbook) :
    (ofWorkbook book).tables =
      (book.sheets.filter fun sheet => (Kind.detect? sheet.grid).isSome).map (·.name) := by
  let Lists (passed : List Sheet) (now : CatalogEntry) : Prop := now.tables =
    (passed.filter fun sheet => (Kind.detect? sheet.grid).isSome).map (·.name)
  refine foldl_passes (P := Lists) rfl ?_
  intro passed sheet rest now _ known
  dsimp only [Lists] at known ⊢
  rw [List.filter_append, List.map_append, ← known]
  cases h : Kind.detect? sheet.grid with
  | none => simp [addSheet_of_none, h]
  | some kind => simp [addSheet_of_some h, addTable, h]

/-- The kind of a workbook is that of one of its sheets. -/
theorem kind_of_ofWorkbook (h : (ofWorkbook book).kind = some kind) :
    ∃ sheet ∈ book.sheets, Kind.detect? sheet.grid = some kind := by
  let Known (now : CatalogEntry) : Prop := ∀ kind, now.kind = some kind →
    ∃ sheet ∈ book.sheets, Kind.detect? sheet.grid = some kind
  have begun : Known ⟨book.name, none, [], none⟩ := fun kind none => by cases none
  refine ofWorkbook_induction (P := Known) begun ?_ kind h
  intro now known sheet mem own detected kind found
  rcases nextKind_eq_some found with earlier | rfl
  · exact known kind earlier
  · exact ⟨sheet, mem, detected⟩

/-- A workbook with a table sheet has a kind. -/
theorem isSome_kind_ofWorkbook (mem : sheet ∈ book.sheets)
    (h : (Kind.detect? sheet.grid).isSome) : (ofWorkbook book).kind.isSome := by
  obtain ⟨own, detected⟩ := Option.isSome_iff_exists.1 h
  exact ofWorkbook_brings_about (P := fun now => now.kind.isSome) mem detected
    (fun _ _ _ _ => isSome_nextKind _ _) fun _ => isSome_nextKind _ _

/-- A workbook with a sheet of another kind than plain data is of such a kind. -/
theorem kind_ofWorkbook_ne_data (mem : sheet ∈ book.sheets)
    (h : Kind.detect? sheet.grid = some kind) (special : kind ≠ .data) :
    ∃ own, (ofWorkbook book).kind = some own ∧ own ≠ .data := by
  refine ofWorkbook_brings_about
    (P := fun now => ∃ own, now.kind = some own ∧ own ≠ .data) mem h ?_ ?_
  · rintro now ⟨own, known, apart⟩ other next
    dsimp only [addTable, nextKind]
    split
    · rw [known]
      exact ⟨own, rfl, apart⟩
    next other => exact ⟨next, rfl, other⟩
  · exact fun now => ⟨kind, if_neg special, special⟩

/-- The merge group of a workbook is named by one of its sheets. -/
theorem group_of_ofWorkbook {group : String} (h : (ofWorkbook book).mergeGroup = some group) :
    ∃ sheet ∈ book.sheets, sheet.groupName? = some group := by
  let Known (now : CatalogEntry) : Prop := ∀ group, now.mergeGroup = some group →
    ∃ sheet ∈ book.sheets, sheet.groupName? = some group
  have begun : Known ⟨book.name, none, [], none⟩ := fun group none => by cases none
  refine ofWorkbook_induction (P := Known) begun ?_ group h
  intro now known sheet mem own _ group found
  rcases Option.or_eq_some_iff.1 found with named | ⟨-, earlier⟩
  · exact ⟨sheet, mem, named⟩
  · exact known group earlier

/-- A workbook with a sheet that names a merge group has one. -/
theorem isSome_group_ofWorkbook (mem : sheet ∈ book.sheets) (h : sheet.groupName?.isSome) :
    (ofWorkbook book).mergeGroup.isSome := by
  have merge : Kind.detect? sheet.grid = some .merge := by
    by_contra other
    rw [Sheet.groupName?, if_neg other] at h
    cases h
  refine ofWorkbook_brings_about (P := fun now => now.mergeGroup.isSome) mem merge ?_ ?_
  · intro now known other own
    rw [addTable, Option.isSome_or, known, Bool.or_true]
  · intro now
    rw [addTable, Option.isSome_or, h, Bool.true_or]

end CatalogEntry

end DesignTables
