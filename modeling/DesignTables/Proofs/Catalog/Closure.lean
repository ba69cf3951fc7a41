import DesignTables.Proofs.Catalog.Library

/-!
# Completing a selection, as an operator on lists of names

One pass over the selected workbooks brings what each of them asks for. The operator keeps what is
known of a selection, grows with it and answers in the order of the catalog. It need not be
idempotent: a workbook with a share of a merge group may count as one of enumerations or of
localized strings, and one that comes in through the group has not asked for its own kind yet. A
second pass makes up for that, and a third one finds nothing more.
-/
namespace DesignTables

namespace Library

/-- The kinds that are brought as a whole. -/
def sharedKinds : List Kind := [.enumeration, .localization]

theorem ne_data_of_mem_sharedKinds {kind : Kind} (h : kind ∈ sharedKinds) : kind ≠ .data := by
  rintro rfl
  exact absurd h (by decide)

theorem ne_merge_of_mem_sharedKinds {kind : Kind} (h : kind ∈ sharedKinds) : kind ≠ .merge := by
  rintro rfl
  exact absurd h (by decide)

end Library

/-- One workbook asks for another, by what the catalog knows of the two. -/
def CatalogEntry.Asks (a b : CatalogEntry) : Prop :=
  (∃ kind ∈ Library.sharedKinds, a.kind = some kind ∧ b.kind = some kind) ∨
    (a.kind = some .merge ∧ ∃ group, a.mergeGroup = some group ∧ b.mergeGroup = some group)

namespace Catalog

/-- The names of the workbooks. -/
def names (catalog : Catalog) : List String := catalog.entries.map (·.name)

theorem names_ofWorkbooks (books : List Workbook) :
    (ofWorkbooks books).names = books.map (·.name) := by
  rw [names, ofWorkbooks, List.map_map]
  exact List.map_congr_left fun book _ => CatalogEntry.name_ofWorkbook book

/-- A selection reaches a workbook: it is selected, or a selected one asks for it. -/
def Reaches (catalog : Catalog) (selected : List String) (b : CatalogEntry) : Prop :=
  ∃ a ∈ catalog.entries, a.name ∈ selected ∧ (b = a ∨ a.Asks b)

/-- With one workbook of a shared kind all of them are among some names. -/
def HasKindsWhole (catalog : Catalog) (selected : List String) : Prop :=
  ∀ kind ∈ Library.sharedKinds,
    (∃ name ∈ catalog.workbooksOfKind kind, name ∈ selected) →
      ∀ name ∈ catalog.workbooksOfKind kind, name ∈ selected

/-- Where a merge workbook brings a workbook of a shared kind, all workbooks of that kind are of
its group. -/
def HasGroupsApart (catalog : Catalog) : Prop :=
  ∀ a ∈ catalog.entries, a.kind = some .merge → ∀ group ∈ a.mergeGroup,
    ∀ b ∈ catalog.entries, b.mergeGroup = some group →
      ∀ kind ∈ Library.sharedKinds, b.kind = some kind →
        ∀ c ∈ catalog.entries, c.kind = some kind → c.mergeGroup = some group

/-- Completing a selection drops no workbook of it, brings no less for more, and lists each
workbook once, in the order of the catalog. -/
structure Completes (catalog : Catalog) : Prop where
  extensive : ∀ s, ∀ name ∈ s, name ∈ catalog.names → name ∈ catalog.expand s
  monotone : ∀ s t, s ⊆ t → catalog.expand s ⊆ catalog.expand t
  nodup : ∀ s, (catalog.expand s).Nodup
  ordered : ∀ s, (catalog.expand s).Sublist catalog.names

/-- Completing a selection is a closure operator. -/
structure IsClosure (catalog : Catalog) : Prop extends Completes catalog where
  idempotent : ∀ s, catalog.expand (catalog.expand s) = catalog.expand s

variable {catalog : Catalog} {a b c : CatalogEntry} {s t : List String}

/-- Two steps of asking are one, unless the second one is taken inside a shared kind. -/
theorem asks_trans (h : a.Asks b) (h' : b.Asks c) :
    a.Asks c ∨ ∃ kind ∈ Library.sharedKinds, b.kind = some kind ∧ c.kind = some kind := by
  rcases h' with inside | ⟨merge, group, hb, hc⟩
  · exact .inr inside
  · rcases h with ⟨kind, shared, -, own⟩ | ⟨first, other, ha, hb'⟩
    · exact absurd (Option.some.inj (own.symm.trans merge))
        (Library.ne_merge_of_mem_sharedKinds shared)
    · obtain rfl := Option.some.inj (hb.symm.trans hb')
      exact .inl (.inr ⟨first, group, ha, hc⟩)

theorem asks_iff_of_shared {kind : Kind} (shared : kind ∈ Library.sharedKinds)
    (own : a.kind = some kind) : a.Asks b ↔ b.kind = some kind := by
  constructor
  · rintro (⟨other, -, ha, hb⟩ | ⟨merge, -⟩)
    · exact hb.trans (ha.symm.trans own)
    · exact absurd (Option.some.inj (own.symm.trans merge))
        (Library.ne_merge_of_mem_sharedKinds shared)
  · exact fun h => .inl ⟨kind, shared, own, h⟩

section

variable (distinct : catalog.names.Nodup)

include distinct

theorem mem_map_name_filter (sort : CatalogEntry → Bool) (hb : b ∈ catalog.entries) :
    b.name ∈ (catalog.entries.filter sort).map (·.name) ↔ sort b = true := by
  rw [List.mem_map]
  constructor
  · rintro ⟨entry, mem, same⟩
    obtain ⟨known, sorted⟩ := List.mem_filter.1 mem
    exact eq_of_key_eq distinct known hb same ▸ sorted
  · exact fun sorted => ⟨b, List.mem_filter.2 ⟨hb, sorted⟩, rfl⟩

theorem mem_workbooksOfKind_iff (kind : Kind) (hb : b ∈ catalog.entries) :
    b.name ∈ catalog.workbooksOfKind kind ↔ b.kind = some kind := by
  rw [workbooksOfKind, mem_map_name_filter distinct _ hb, beq_iff_eq]

theorem mem_workbooksInGroup_iff (group : String) (hb : b ∈ catalog.entries) :
    b.name ∈ catalog.workbooksInGroup group ↔ b.mergeGroup = some group := by
  rw [workbooksInGroup, mem_map_name_filter distinct _ hb, beq_iff_eq]

/-- What a workbook brings is itself and what it asks for. -/
theorem mem_brings_iff_asks (ha : a ∈ catalog.entries) (hb : b ∈ catalog.entries) :
    b.name ∈ catalog.brings a ↔ b = a ∨ a.Asks b := by
  have self : b.name = a.name ↔ b = a :=
    ⟨fun same => eq_of_key_eq distinct hb ha same, fun same => same ▸ rfl⟩
  rw [brings, List.mem_cons, self]
  refine or_congr_right ?_
  cases own : a.kind with
  | none => simp [CatalogEntry.Asks, own]
  | some kind =>
    cases kind with
    | data => simp [CatalogEntry.Asks, own, Library.sharedKinds]
    | enumeration | localization =>
      dsimp only
      rw [mem_workbooksOfKind_iff distinct _ hb, asks_iff_of_shared (by decide) own]
    | merge =>
      have apart : ¬∃ kind ∈ Library.sharedKinds, a.kind = some kind ∧ b.kind = some kind := by
        rintro ⟨kind, shared, same, -⟩
        exact Library.ne_merge_of_mem_sharedKinds shared (Option.some.inj (same.symm.trans own))
      rw [CatalogEntry.Asks, or_iff_right apart, and_iff_right own]
      cases a.mergeGroup with
      | none => simp
      | some group => simp [mem_workbooksInGroup_iff distinct group hb]

/-- The completed selection holds what the selection reaches. -/
theorem mem_expand_iff (hb : b ∈ catalog.entries) :
    b.name ∈ catalog.expand s ↔ catalog.Reaches s b := by
  have distinct' : (catalog.entries.reverse.map (·.name)).Nodup := by
    rw [List.map_reverse, List.nodup_reverse]
    exact distinct
  rw [expand, List.mem_filter, List.contains_iff_mem, and_iff_right (List.mem_map_of_mem hb),
    List.mem_flatMap]
  constructor
  · rintro ⟨a, mem, brought⟩
    obtain ⟨name, selected, found⟩ := List.mem_filterMap.1 mem
    obtain ⟨ha, rfl⟩ := (find?_key_iff distinct').1 found
    rw [List.mem_reverse] at ha
    exact ⟨a, ha, selected, (mem_brings_iff_asks distinct ha hb).1 brought⟩
  · rintro ⟨a, ha, selected, reach⟩
    have found := find?_key distinct' (List.mem_reverse.2 ha)
    exact ⟨a, List.mem_filterMap.2 ⟨a.name, selected, found⟩,
      (mem_brings_iff_asks distinct ha hb).2 reach⟩

omit distinct in
theorem expand_sublist (catalog : Catalog) (s : List String) :
    (catalog.expand s).Sublist catalog.names :=
  List.filter_sublist

omit distinct in
/-- Every name of a completed selection is that of a workbook. -/
theorem exists_entry_of_mem_expand {name : String} (h : name ∈ catalog.expand s) :
    ∃ b ∈ catalog.entries, b.name = name :=
  List.mem_map.1 ((expand_sublist catalog s).subset h)

/-- Completed selections are told apart by the workbooks that are reached. -/
theorem expand_eq_iff :
    catalog.expand s = catalog.expand t ↔
      ∀ b ∈ catalog.entries, catalog.Reaches s b ↔ catalog.Reaches t b := by
  constructor
  · intro same b hb
    rw [← mem_expand_iff distinct hb, same, mem_expand_iff distinct hb]
  · intro same
    refine List.filter_congr fun name mem => ?_
    obtain ⟨b, hb, rfl⟩ := List.mem_map.1 mem
    have member := same b hb
    rw [← mem_expand_iff distinct hb, ← mem_expand_iff distinct hb, expand, expand,
      List.mem_filter, List.mem_filter, and_iff_right mem, and_iff_right mem] at member
    exact Bool.eq_iff_iff.2 member

omit distinct in
theorem Reaches.of_mem (hb : b ∈ catalog.entries) (h : b.name ∈ s) : catalog.Reaches s b :=
  ⟨b, hb, h, .inl rfl⟩

theorem completes : catalog.Completes where
  extensive s name selected known := by
    obtain ⟨b, hb, rfl⟩ := List.mem_map.1 known
    exact (mem_expand_iff distinct hb).2 (Reaches.of_mem hb selected)
  monotone s t sub name mem := by
    obtain ⟨b, hb, rfl⟩ := exists_entry_of_mem_expand mem
    obtain ⟨a, ha, selected, reach⟩ := (mem_expand_iff distinct hb).1 mem
    exact (mem_expand_iff distinct hb).2 ⟨a, ha, sub selected, reach⟩
  nodup s := (expand_sublist catalog s).nodup distinct
  ordered s := expand_sublist catalog s

omit distinct in
theorem hasKindsWhole_iff : catalog.HasKindsWhole s ↔
    ∀ kind ∈ Library.sharedKinds, ∀ b ∈ catalog.entries, b.kind = some kind → b.name ∈ s →
      ∀ c ∈ catalog.entries, c.kind = some kind → c.name ∈ s := by
  have member : ∀ {kind name}, name ∈ catalog.workbooksOfKind kind ↔
      ∃ b ∈ catalog.entries, b.kind = some kind ∧ b.name = name := by
    intro kind name
    simp [workbooksOfKind, and_assoc]
  constructor
  · intro whole kind shared b hb own selected c hc same
    exact whole kind shared ⟨b.name, member.2 ⟨b, hb, own, rfl⟩, selected⟩ c.name
      (member.2 ⟨c, hc, same, rfl⟩)
  · rintro whole kind shared ⟨name, mem, selected⟩ other mem'
    obtain ⟨b, hb, own, rfl⟩ := member.1 mem
    obtain ⟨c, hc, same, rfl⟩ := member.1 mem'
    exact whole kind shared b hb own selected c hc same

/-- What a second pass adds are workbooks of a shared kind of which one has come in before. -/
theorem reaches_expand_iff (hc : c ∈ catalog.entries) :
    catalog.Reaches (catalog.expand s) c ↔ catalog.Reaches s c ∨
      ∃ kind ∈ Library.sharedKinds, c.kind = some kind ∧
        ∃ b ∈ catalog.entries, b.kind = some kind ∧ catalog.Reaches s b := by
  constructor
  · rintro ⟨b, hb, mem, rfl | asked⟩ <;> have reach := (mem_expand_iff distinct hb).1 mem
    · exact .inl reach
    · obtain ⟨a, ha, selected, rfl | first⟩ := reach
      · exact .inl ⟨b, hb, selected, .inr asked⟩
      · rcases asks_trans first asked with direct | ⟨kind, shared, own, same⟩
        · exact .inl ⟨a, ha, selected, .inr direct⟩
        · exact .inr ⟨kind, shared, same, b, hb, own, a, ha, selected, .inr first⟩
  · rintro (reach | ⟨kind, shared, same, b, hb, own, reach⟩)
    · exact Reaches.of_mem hc ((mem_expand_iff distinct hc).2 reach)
    · exact ⟨b, hb, (mem_expand_iff distinct hb).2 reach, .inr (.inl ⟨kind, shared, own, same⟩)⟩

theorem expand_expand_eq_iff :
    catalog.expand (catalog.expand s) = catalog.expand s ↔
      catalog.HasKindsWhole (catalog.expand s) := by
  rw [expand_eq_iff distinct, hasKindsWhole_iff]
  constructor
  · intro idem kind shared b hb own mem c hc same
    rw [mem_expand_iff distinct hb] at mem
    rw [mem_expand_iff distinct hc, ← idem c hc, reaches_expand_iff distinct hc]
    exact .inr ⟨kind, shared, same, b, hb, own, mem⟩
  · intro whole c hc
    rw [reaches_expand_iff distinct hc]
    refine or_iff_left_of_imp ?_
    rintro ⟨kind, shared, same, b, hb, own, reach⟩
    rw [← mem_expand_iff distinct hc]
    exact whole kind shared b hb own ((mem_expand_iff distinct hb).2 reach) c hc same

/-- After a second pass every shared kind is there as a whole or not at all. -/
theorem hasKindsWhole_expand_expand :
    catalog.HasKindsWhole (catalog.expand (catalog.expand s)) := by
  rw [hasKindsWhole_iff]
  intro kind shared b hb own mem c hc same
  rw [mem_expand_iff distinct hb, reaches_expand_iff distinct hb] at mem
  rw [mem_expand_iff distinct hc, reaches_expand_iff distinct hc]
  -- One of the kind was there after the first pass: this one, or one that has brought it.
  rcases mem with reach | ⟨other, -, own', first, hfirst, kept, reach⟩
  · exact .inr ⟨kind, shared, same, b, hb, own, reach⟩
  · obtain rfl := Option.some.inj (own.symm.trans own')
    exact .inr ⟨kind, shared, same, first, hfirst, kept, reach⟩

theorem isClosure_iff : catalog.IsClosure ↔ catalog.HasGroupsApart := by
  constructor
  · intro closure a ha merge group named b hb member kind shared own c hc same
    -- Selecting the merge workbook alone brings one of the kind, hence all of them.
    have whole := hasKindsWhole_iff.1
      ((expand_expand_eq_iff distinct).1 (closure.idempotent [a.name]))
    have brought : catalog.Reaches [a.name] b :=
      ⟨a, ha, List.mem_singleton_self _, .inr (.inr ⟨merge, group, named, member⟩)⟩
    obtain ⟨a', ha', selected, reach⟩ := (mem_expand_iff distinct hc).1
      (whole kind shared b hb own ((mem_expand_iff distinct hb).2 brought) c hc same)
    obtain rfl := eq_of_key_eq distinct ha' ha (List.mem_singleton.1 selected)
    have apart : c.kind ≠ some .merge := fun merge' =>
      Library.ne_merge_of_mem_sharedKinds shared (Option.some.inj (same.symm.trans merge'))
    rcases reach with rfl | ⟨other, shared', own', -⟩ | ⟨-, other, named', member'⟩
    · exact absurd merge apart
    · exact absurd (Option.some.inj (own'.symm.trans merge))
        (Library.ne_merge_of_mem_sharedKinds shared')
    · exact member'.trans (named'.symm.trans named)
  · refine fun apart => ⟨completes distinct, fun s => ?_⟩
    rw [expand_expand_eq_iff distinct, hasKindsWhole_iff]
    intro kind shared b hb own mem c hc same
    rw [mem_expand_iff distinct hb] at mem
    rw [mem_expand_iff distinct hc]
    obtain ⟨a, ha, selected, reach⟩ := mem
    refine ⟨a, ha, selected, .inr ?_⟩
    rcases reach with rfl | ⟨other, -, ha', hb'⟩ | ⟨merge, group, named, member⟩
    · exact .inl ⟨kind, shared, own, same⟩
    · exact .inl ⟨kind, shared, ha'.trans (hb'.symm.trans own), same⟩
    · exact .inr ⟨merge, group, named,
        apart a ha merge group named b hb member kind shared own c hc same⟩

end

/-- Completing a selection of workbooks with different names keeps it, is monotone and follows the
catalog. A second pass changes nothing exactly when no shared kind has come in by halves, a third
pass never changes anything, and for all selections one pass is enough exactly when no merge group
brings a part of a shared kind. -/
theorem completes_of_distinct (books : List Workbook) (distinct : (books.map (·.name)).Nodup) :
    (ofWorkbooks books).Completes ∧
      (∀ s, (ofWorkbooks books).expand ((ofWorkbooks books).expand s) =
          (ofWorkbooks books).expand s ↔
        (ofWorkbooks books).HasKindsWhole ((ofWorkbooks books).expand s)) ∧
      (∀ s, (ofWorkbooks books).expand
          ((ofWorkbooks books).expand ((ofWorkbooks books).expand s)) =
        (ofWorkbooks books).expand ((ofWorkbooks books).expand s)) ∧
      ((ofWorkbooks books).IsClosure ↔ (ofWorkbooks books).HasGroupsApart) := by
  rw [← names_ofWorkbooks] at distinct
  exact ⟨completes distinct, fun s => expand_expand_eq_iff distinct,
    fun s => (expand_expand_eq_iff distinct).2 (hasKindsWhole_expand_expand distinct),
    isClosure_iff distinct⟩

/-- A share of the merge group `g` in a workbook of a name, and more sheets behind it. -/
def shareBook (name : String) (more : List Sheet) : Workbook :=
  Library.bookOf (name ++ ".xlsx")
    (Library.sheetOf name "#merge" "g,id,0" [("id", "key,int")] [] :: more)

/-- An enumeration sheet without values. -/
def codes (name : String) : Sheet := Library.sheetOf name "#type" "" Library.codeColumns []

/-- Two workbooks of a group and two of enumerations. -/
def separate : List Workbook :=
  [shareBook "W1" [], shareBook "W2" [], Library.bookOf "W3.xlsx" [codes "colors"],
   Library.bookOf "W4.xlsx" [codes "sizes"]]

theorem isClosure_separate :
    (separate.map (·.name)).Nodup ∧ (ofWorkbooks separate).IsClosure := by
  have apart : (ofWorkbooks separate).HasGroupsApart := by
    unfold HasGroupsApart
    decide
  exact ⟨by decide, (completes_of_distinct separate (by decide)).2.2.2.2 apart⟩

/-- The second workbook of the group counts as one of enumerations, for its last sheet. -/
def straddling : List Workbook :=
  [shareBook "W1" [], shareBook "W2" [codes "colors"],
   Library.bookOf "W3.xlsx" [codes "sizes"]]

/-- Two passes bring more than one where a group brings one of two workbooks of enumerations. -/
theorem not_isClosure_straddling :
    (straddling.map (·.name)).Nodup ∧ ¬ (ofWorkbooks straddling).IsClosure := by
  refine ⟨by decide, fun closure => ?_⟩
  have once : (ofWorkbooks straddling).expand ["W1.xlsx"] = ["W1.xlsx", "W2.xlsx"] := by
    decide
  have twice : (ofWorkbooks straddling).expand ["W1.xlsx", "W2.xlsx"] =
      ["W1.xlsx", "W2.xlsx", "W3.xlsx"] := by
    decide
  have same := closure.idempotent ["W1.xlsx"]
  rw [once, twice] at same
  exact absurd same (by decide)

end Catalog

end DesignTables
