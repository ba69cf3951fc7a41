import DesignTables.Proofs.Catalog.Closure

/-!
# What the catalog of a well kept library answers, by the sheets that the workbooks hold

Two workbooks are companions when both hold enumerations, both hold localized strings, or both
hold shares of one merge group. A selection brings the companions of what is selected, and nobody
is left out: with a workbook every companion of it is chosen.
-/
namespace DesignTables

namespace Library

/-- The sheets of a kind. -/
def ofKind (kind : Kind) (sheet : IngestedSheet) : Bool := sheet.schema.kind == kind

/-- The shares of a merge group. -/
def inGroup (group : String) (sheet : IngestedSheet) : Bool := sheet.group? == some group

/-- The sheets of a name. -/
def ofName (name : String) (sheet : IngestedSheet) : Bool := sheet.name == name

/-- One of two workbooks brings the other. -/
def Companions (books : List Workbook) (a b : Workbook) : Prop :=
  (∃ kind ∈ sharedKinds, holds books (ofKind kind) a = true ∧ holds books (ofKind kind) b = true) ∨
    ∃ group, holds books (inGroup group) a = true ∧ holds books (inGroup group) b = true

variable {books : List Workbook} {a b c : Workbook}

theorem kind_eq_of_holds (kept : WellKept books) (mem : b ∈ books) {kind other : Kind}
    (special : kind ≠ .data) (special' : other ≠ .data)
    (h : holds books (ofKind kind) b = true) (h' : holds books (ofKind other) b = true) :
    kind = other := by
  obtain ⟨sheet, share, same⟩ := holds_iff.1 h
  obtain ⟨sheet', share', same'⟩ := holds_iff.1 h'
  rw [ofKind, beq_iff_eq] at same same'
  rw [← same, ← same']
  exact kept.kinds b mem sheet share sheet' share' (same ▸ special) (same' ▸ special')

theorem group_eq_of_holds (kept : WellKept books) (mem : b ∈ books) {group other : String}
    (h : holds books (inGroup group) b = true) (h' : holds books (inGroup other) b = true) :
    group = other := by
  obtain ⟨sheet, share, same⟩ := holds_iff.1 h
  obtain ⟨sheet', share', same'⟩ := holds_iff.1 h'
  rw [inGroup, beq_iff_eq] at same same'
  exact kept.groups b mem sheet share sheet' share' group same other same'

theorem holds_merge_of_holds {group : String} (h : holds books (inGroup group) b = true) :
    holds books (ofKind .merge) b = true := by
  obtain ⟨sheet, share, same⟩ := holds_iff.1 h
  rw [inGroup, beq_iff_eq] at same
  exact holds_iff.2 ⟨sheet, share, by rw [ofKind, IngestedSheet.kind_of_group? same]; rfl⟩

/-- A workbook with enumerations or localized strings holds no share of a merge group. -/
theorem not_holds_group (kept : WellKept books) (mem : b ∈ books) {kind : Kind}
    (shared : kind ∈ sharedKinds) (h : holds books (ofKind kind) b = true) (group : String) :
    holds books (inGroup group) b = false := by
  rw [← Bool.not_eq_true]
  intro h'
  exact ne_merge_of_mem_sharedKinds shared (kind_eq_of_holds kept mem
    (ne_data_of_mem_sharedKinds shared) (by decide) h (holds_merge_of_holds h'))

theorem Companions.trans (kept : WellKept books) (mem : b ∈ books) (h : Companions books a b)
    (h' : Companions books b c) : Companions books a c := by
  rcases h with ⟨kind, shared, ha, hb⟩ | ⟨group, ha, hb⟩ <;>
    rcases h' with ⟨kind', shared', hb', hc⟩ | ⟨group', hb', hc⟩
  · obtain rfl := kind_eq_of_holds kept mem (ne_data_of_mem_sharedKinds shared)
      (ne_data_of_mem_sharedKinds shared') hb hb'
    exact .inl ⟨kind, shared, ha, hc⟩
  · rw [not_holds_group kept mem shared hb] at hb'
    cases hb'
  · rw [not_holds_group kept mem shared' hb'] at hb
    cases hb
  · obtain rfl := group_eq_of_holds kept mem hb hb'
    exact .inr ⟨group, ha, hc⟩

/-- The names of the workbooks that hold some sort of sheets. -/
def namesWith (books : List Workbook) (sort : IngestedSheet → Bool) : List String :=
  (books.filter (holds books sort)).map (·.name)

theorem map_name_filter_entries (books : List Workbook) (sort : CatalogEntry → Bool) :
    ((Catalog.ofWorkbooks books).entries.filter sort).map (·.name) =
      (books.filter fun book => sort (CatalogEntry.ofWorkbook book)).map (·.name) := by
  rw [Catalog.ofWorkbooks, List.filter_map, List.map_map]
  exact List.map_congr_left fun book _ => CatalogEntry.name_ofWorkbook book

theorem workbooksOfKind_eq (kept : WellKept books) {kind : Kind} (special : kind ≠ .data) :
    (Catalog.ofWorkbooks books).workbooksOfKind kind = namesWith books (ofKind kind) := by
  rw [Catalog.workbooksOfKind, map_name_filter_entries, namesWith]
  congr 1
  refine List.filter_congr fun book mem => ?_
  rw [Bool.eq_iff_iff, beq_iff_eq, kind_eq_iff kept mem special]
  rfl

section

variable (kept : WellKept books) (clean : ∀ sheet ∈ sheets books, sheet.diagnostics = [])

include kept clean

theorem workbooksInGroup_eq (group : String) :
    (Catalog.ofWorkbooks books).workbooksInGroup group = namesWith books (inGroup group) := by
  rw [Catalog.workbooksInGroup, map_name_filter_entries, namesWith]
  congr 1
  refine List.filter_congr fun book mem => ?_
  rw [Bool.eq_iff_iff, beq_iff_eq, group_eq_iff kept clean mem]
  rfl

theorem contains_mergeGroups_iff {group : String} :
    (Catalog.ofWorkbooks books).mergeGroups.contains group = true ↔
      ∃ sheet ∈ sheets books, sheet.group? = some group := by
  rw [List.contains_iff_mem, Catalog.mergeGroups, List.mem_mergeSort, List.mem_eraseDups,
    List.mem_filterMap]
  constructor
  · rintro ⟨entry, mem, found⟩
    obtain ⟨book, known, rfl⟩ := List.mem_map.1 mem
    obtain ⟨sheet, share, same⟩ := holds_iff.1 ((group_eq_iff kept clean known).1 found)
    exact ⟨sheet, List.mem_flatMap.2 ⟨book, known, share⟩, beq_iff_eq.1 same⟩
  · rintro ⟨sheet, mem, same⟩
    obtain ⟨book, known, share⟩ := List.mem_flatMap.1 mem
    refine ⟨CatalogEntry.ofWorkbook book, List.mem_map_of_mem known, ?_⟩
    exact (group_eq_iff kept clean known).2 (holds_iff.2 ⟨sheet, share, beq_iff_eq.2 same⟩)

omit kept clean in
theorem workbookOfSheet?_eq (books : List Workbook) (name : String) :
    (Catalog.ofWorkbooks books).workbookOfSheet? name =
      (books.find? (holds books (ofName name))).map (·.name) := by
  have sort : (fun entry : CatalogEntry => entry.tables.contains name) ∘ CatalogEntry.ofWorkbook =
      holds books (ofName name) := by
    funext book
    rw [Function.comp, tables_eq books, Bool.eq_iff_iff, List.contains_iff_mem, List.mem_map,
      holds_iff]
    simp only [ofName, beq_iff_eq]
  rw [Catalog.workbookOfSheet?, Catalog.ofWorkbooks, List.find?_map, sort, Option.map_map]
  cases books.find? (holds books (ofName name)) with
  | none => rfl
  | some book => exact congrArg some (CatalogEntry.name_ofWorkbook book)

omit clean in
theorem mem_namesWith_iff {sort : IngestedSheet → Bool} (mem : b ∈ books) :
    b.name ∈ namesWith books sort ↔ holds books sort b = true := by
  rw [namesWith, List.mem_map]
  constructor
  · rintro ⟨book, known, same⟩
    obtain ⟨known, held⟩ := List.mem_filter.1 known
    obtain rfl := eq_of_key_eq kept.names known mem same
    exact held
  · intro held
    exact ⟨b, List.mem_filter.2 ⟨mem, held⟩, rfl⟩

/-- Of a well kept library the catalog knows who the companions are. -/
theorem asks_iff_companions (ha : a ∈ books) (hb : b ∈ books) :
    (CatalogEntry.ofWorkbook a).Asks (CatalogEntry.ofWorkbook b) ↔ Companions books a b := by
  refine or_congr (exists_congr fun kind => and_congr_right fun shared => ?_) ?_
  · have special := ne_data_of_mem_sharedKinds shared
    rw [kind_eq_iff kept ha special, kind_eq_iff kept hb special]
    rfl
  · constructor
    · rintro ⟨-, group, own, other⟩
      exact ⟨group, (group_eq_iff kept clean ha).1 own, (group_eq_iff kept clean hb).1 other⟩
    · rintro ⟨group, held, held'⟩
      exact ⟨(kind_eq_iff kept ha (by decide)).2 (holds_merge_of_holds held), group,
        (group_eq_iff kept clean ha).2 held, (group_eq_iff kept clean hb).2 held'⟩

end

/-- Whether a selection brings a workbook. -/
def chosen (books : List Workbook) (selected : List String) (book : Workbook) : Bool :=
  ((selected.filterMap (Catalog.ofWorkbooks books).find?).flatMap
    (Catalog.ofWorkbooks books).brings).contains book.name

theorem expand_eq (books : List Workbook) (selected : List String) :
    (Catalog.ofWorkbooks books).expand selected =
      (books.filter (chosen books selected)).map (·.name) := by
  have names : (Catalog.ofWorkbooks books).entries.map (·.name) = books.map (·.name) :=
    Catalog.names_ofWorkbooks books
  rw [Catalog.expand, names, List.filter_map]
  rfl

/-- Chosen is what the selection reaches. -/
theorem chosen_iff_reaches (kept : WellKept books) {selected : List String} (hb : b ∈ books) :
    chosen books selected b = true ↔
      (Catalog.ofWorkbooks books).Reaches selected (CatalogEntry.ofWorkbook b) := by
  have names := Catalog.names_ofWorkbooks books
  have distinct : (Catalog.ofWorkbooks books).names.Nodup := names ▸ kept.names
  have known : b.name ∈ (Catalog.ofWorkbooks books).names := names ▸ List.mem_map_of_mem hb
  rw [← Catalog.mem_expand_iff distinct (List.mem_map_of_mem hb), CatalogEntry.name_ofWorkbook,
    Catalog.expand, List.mem_filter, chosen]
  exact (and_iff_right known).symm

/-- With a workbook its companions are chosen. -/
theorem chosen_of_companions (kept : WellKept books)
    (clean : ∀ sheet ∈ sheets books, sheet.diagnostics = []) {selected : List String}
    (ha : a ∈ books) (hb : b ∈ books) (h : chosen books selected a = true)
    (reach : Companions books a b) : chosen books selected b = true := by
  rw [chosen_iff_reaches kept ha] at h
  rw [chosen_iff_reaches kept hb]
  obtain ⟨entry, known, first, brought⟩ := h
  refine ⟨entry, known, first, .inr ?_⟩
  obtain ⟨book, mem, rfl⟩ := List.mem_map.1 known
  rcases brought with same | asked
  · rw [← same]
    exact (asks_iff_companions kept clean ha hb).2 reach
  · rw [asks_iff_companions kept clean mem ha] at asked
    exact (asks_iff_companions kept clean mem hb).2 (asked.trans kept ha reach)

end Library

end DesignTables
