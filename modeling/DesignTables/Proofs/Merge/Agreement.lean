import DesignTables.Proofs.Lists
import DesignTables.Proofs.Merge.Columns

/-!
# Which columns a merge table has, and when its sheets agree on them

A merged column keeps the core of the first column of its title: whatever later columns of the
title say, they are only compared with it. So a group has no problem exactly when any two of its
columns with one title agree.
-/
namespace DesignTables

namespace Column

/-- What a merged column keeps of the first column of its title. -/
def core (column : Column) :
    String × ExportMode × Option DataType × Option String × Option ReferenceTarget × Bool × Bool :=
  (column.title, column.mode, column.dataType, column.enumGroup, column.check,
    column.origin.isSome, column.isArray)

/-- The columns can stand in one merged column. -/
structure Agrees (a b : Column) : Prop where
  mode : a.mode = b.mode
  dataType : a.dataType = b.dataType
  enumGroup : a.enumGroup = b.enumGroup

theorem Agrees.symm {a b : Column} (h : a.Agrees b) : b.Agrees a :=
  ⟨h.mode.symm, h.dataType.symm, h.enumGroup.symm⟩

theorem Agrees.trans {a b c : Column} (h : a.Agrees b) (h' : b.Agrees c) : a.Agrees c :=
  ⟨h.mode.trans h'.mode, h.dataType.trans h'.dataType, h.enumGroup.trans h'.enumGroup⟩

theorem agrees_of_core {a b : Column} (h : a.core = b.core) : a.Agrees b :=
  ⟨congrArg (·.2.1) h, congrArg (·.2.2.1) h, congrArg (·.2.2.2.1) h⟩

theorem title_of_core {a b : Column} (h : a.core = b.core) : a.title = b.title :=
  congrArg (·.1) h

theorem check_of_core {a b : Column} (h : a.core = b.core) : a.check = b.check :=
  congrArg (·.2.2.2.2.1) h

theorem isSome_origin_of_core {a b : Column} (h : a.core = b.core) :
    a.origin.isSome = b.origin.isSome :=
  congrArg (·.2.2.2.2.2.1) h

theorem isArray_of_core {a b : Column} (h : a.core = b.core) : a.isArray = b.isArray :=
  congrArg (·.2.2.2.2.2.2) h

/-- Columns of one title agree. -/
def Harmonious (columns : List Column) : Prop :=
  ∀ a ∈ columns, ∀ b ∈ columns, a.title = b.title → a.Agrees b

/-- One more column is in harmony when it agrees with the first column of its title. -/
theorem harmonious_append_iff {columns : List Column} {column : Column} :
    Harmonious (columns ++ [column]) ↔ Harmonious columns ∧
      ∀ first, columns.find? (·.title == column.title) = some first → first.Agrees column := by
  constructor
  · intro all
    refine ⟨fun a ha b hb => all a (List.mem_append_left _ ha) b (List.mem_append_left _ hb), ?_⟩
    intro first found
    have same : first.title = column.title := by simpa using List.find?_some found
    exact all first (List.mem_append_left _ (List.mem_of_find?_eq_some found)) column
      (List.mem_append_right _ List.mem_cons_self) same
  · rintro ⟨known, new⟩
    have later : ∀ a ∈ columns, a.title = column.title → a.Agrees column := by
      intro a ha same
      cases found : columns.find? (·.title == column.title) with
      | none => exact absurd (List.find?_eq_none.1 found a ha) (by simpa using same)
      | some first =>
        have title : first.title = column.title := by simpa using List.find?_some found
        have mem := List.mem_of_find?_eq_some found
        exact (known a ha first mem (same.trans title.symm)).trans (new first found)
    intro a ha b hb same
    rcases List.mem_append.1 ha with ina | lasta <;> rcases List.mem_append.1 hb with inb | lastb
    · exact known a ina b inb same
    · obtain rfl := List.mem_singleton.1 lastb
      exact later a ina same
    · obtain rfl := List.mem_singleton.1 lasta
      exact (later b inb same.symm).symm
    · obtain rfl := List.mem_singleton.1 lasta
      obtain rfl := List.mem_singleton.1 lastb
      exact ⟨rfl, rfl, rfl⟩

end Column

theorem Schema.slotOf?_bind_column? (schema : Schema) (title : String) :
    (schema.slotOf? title).bind schema.column? = schema.columns.find? (·.title == title) :=
  List.find?_eq_bind_findIdx?_getElem?.symm

namespace Merge

variable {group : String} {source schema : Schema} {seen : List Column} {unified : Unified}

theorem disagreements_eq_nil_iff {known incoming : Column} :
    disagreements known incoming = [] ↔ known.Agrees incoming := by
  simp only [disagreements, List.append_eq_nil_iff, ite_eq_right_iff, List.cons_ne_nil, imp_false,
    not_not]
  constructor
  · rintro ⟨⟨mode, dataType⟩, enumGroup⟩
    exact ⟨mode, dataType, enumGroup⟩
  · rintro ⟨mode, dataType, enumGroup⟩
    exact ⟨⟨mode, dataType⟩, enumGroup⟩

/-- What the columns of a merged schema are, of the columns that were seen. -/
structure Collects (seen : List Column) (schema : Schema) : Prop where
  titles : (schema.columns.map (·.title)).Nodup
  cores : ∀ title, (schema.columns.find? (·.title == title)).map Column.core =
    (seen.find? (·.title == title)).map Column.core
  enumGroupRefs : ∀ column ∈ schema.columns, column.enumGroupRef.isSome →
    ∃ given ∈ seen, given.enumGroupRef.isSome

/-- The first column of a title, if there is one, passes its core to the merged column. -/
theorem Collects.first (h : Collects seen schema) {title : String} {slot : Nat}
    (place : schema.slotOf? title = some slot) :
    ∃ merged first, schema.column? slot = some merged ∧
      seen.find? (·.title == title) = some first ∧ merged.core = first.core := by
  have found := schema.slotOf?_bind_column? title
  have core := h.cores title
  rw [place, Option.bind_some] at found
  rw [← found] at core
  obtain ⟨inside, -, -⟩ := List.findIdx?_eq_some_iff_getElem.1 place
  have known : schema.column? slot = some schema.columns[slot] := List.getElem?_eq_getElem _
  rw [known, Option.map_some] at core
  obtain ⟨first, found, same⟩ := Option.map_eq_some_iff.1 core.symm
  exact ⟨_, first, known, found, same.symm⟩

theorem Collects.find?_eq_none (h : Collects seen schema) {title : String}
    (new : schema.slotOf? title = none) :
    schema.columns.find? (·.title == title) = none ∧ seen.find? (·.title == title) = none := by
  have found := schema.slotOf?_bind_column? title
  rw [new, Option.bind_none] at found
  have core := h.cores title
  rw [← found, Option.map_none] at core
  exact ⟨found.symm, Option.map_eq_none_iff.1 core.symm⟩

theorem Collects.placeColumn (h : Collects seen unified.schema) (column : Column) :
    Collects (seen ++ [column]) (Merge.placeColumn group source unified column).schema := by
  rw [Merge.placeColumn]
  split
  next slot place =>
    obtain ⟨merged, first, known, found, same⟩ := h.first place
    refine ⟨h.titles, fun title => ?_, fun c mem isRef => ?_⟩
    · rw [h.cores, List.find?_append]
      by_cases here : column.title = title
      · rw [← here, found]
        rfl
      · rw [List.find?_singleton, if_neg (by simpa using here), Option.or_none]
    · obtain ⟨given, mem, isRef⟩ := h.enumGroupRefs c mem isRef
      exact ⟨given, List.mem_append_left _ mem, isRef⟩
  next new =>
    obtain ⟨absent, unseen⟩ := h.find?_eq_none new
    refine ⟨?_, fun title => ?_, fun c mem isRef => ?_⟩
    · rw [List.map_append, List.nodup_append']
      refine ⟨h.titles, List.nodup_singleton _, ?_⟩
      intro title mem last
      obtain ⟨known, inside, rfl⟩ := List.mem_map.1 mem
      have other := List.find?_eq_none.1 absent known inside
      rw [List.map_singleton, List.mem_singleton] at last
      simp [last] at other
    · rw [List.find?_append, List.find?_append, Option.map_or, Option.map_or, h.cores]
      congr 1
      rw [List.find?_singleton, List.find?_singleton]
      split
      · rw [Option.map_some, Option.map_some]
        simp only [Column.core, Option.isSome_map]
      · rfl
    · rcases List.mem_append.1 mem with mem | mem
      · obtain ⟨given, mem, isRef⟩ := h.enumGroupRefs c mem isRef
        exact ⟨given, List.mem_append_left _ mem, isRef⟩
      · rw [List.mem_singleton] at mem
        subst mem
        exact ⟨column, List.mem_append_right _ List.mem_cons_self, isRef⟩

/-- Placing a column finds no problem when the column agrees with the first of its title. -/
theorem diagnostics_placeColumn_iff (h : Collects seen unified.schema) (column : Column) :
    (Merge.placeColumn group source unified column).diagnostics = [] ↔
      unified.diagnostics = [] ∧
        ∀ first, seen.find? (·.title == column.title) = some first → first.Agrees column := by
  rw [Merge.placeColumn]
  split
  next slot place =>
    obtain ⟨merged, first, known, found, same⟩ := h.first place
    rw [known, found, Option.map_some, Option.getD_some]
    dsimp only
    rw [List.append_eq_nil_iff, List.map_eq_nil_iff, disagreements_eq_nil_iff]
    refine and_congr_right fun _ => ⟨fun agrees first' same' => ?_, fun agrees => ?_⟩
    · obtain rfl := Option.some.inj same'
      exact (Column.agrees_of_core same.symm).trans agrees
    · exact (Column.agrees_of_core same).trans (agrees first rfl)
  next new =>
    rw [(h.find?_eq_none new).2]
    exact (and_iff_left fun _ none => by cases none).symm

theorem core_linkColumn (placements : List Placement) (isNew : Bool) (column merged : Column) :
    (linkColumn placements isNew column merged).core = merged.core := by
  cases isNew <;> rfl

theorem enumGroupRef_linkColumn {placements : List Placement} {isNew : Bool}
    {column merged : Column}
    (h : (linkColumn placements isNew column merged).enumGroupRef.isSome) :
    merged.enumGroupRef.isSome ∨ column.enumGroupRef.isSome := by
  have relinked : (relink placements column.enumGroupRef).isSome → column.enumGroupRef.isSome := by
    cases column.enumGroupRef with
    | none => exact id
    | some slot => exact fun _ => rfl
  cases isNew with
  | true => exact .inr (relinked h)
  | false =>
    simp only [linkColumn, Bool.false_eq_true, if_false, Option.isSome_or, Bool.or_eq_true] at h
    exact h.imp_right relinked

theorem find?_modify_of_unseen {change : Column → Column} (kept : ∀ c, (change c).core = c.core)
    (columns : List Column) (slot : Nat) (title : String) :
    ((columns.modify slot change).find? (·.title == title)).map Column.core =
      (columns.find? (·.title == title)).map Column.core := by
  have view : ∀ cs : List Column, (cs.find? (·.title == title)).map Column.core =
      (cs.map Column.core).find? (·.1 == title) := by
    intro cs
    rw [List.find?_map]
    rfl
  rw [view, view, map_modify_of_unseen kept]

theorem Collects.linkColumns (h : Collects seen schema) (placements : List Placement)
    (given : source.columns ⊆ seen) : Collects seen (Merge.linkColumns source placements schema) := by
  refine linkColumns_induction h ?_
  intro now collects column placement mem
  have kept := core_linkColumn placements placement.isNew column
  refine ⟨?_, fun title => ?_, fun c mem' isRef => ?_⟩
  · change ((now.columns.modify _ _).map (·.title)).Nodup
    rw [map_modify_of_unseen fun c => Column.title_of_core (kept c)]
    exact collects.titles
  · exact (find?_modify_of_unseen kept _ _ title).trans (collects.cores title)
  · rcases mem_modify mem' with mem' | ⟨merged, place, rfl⟩
    · exact collects.enumGroupRefs c mem' isRef
    · rcases enumGroupRef_linkColumn isRef with isRef | isRef
      · exact collects.enumGroupRefs merged (List.mem_of_getElem? place) isRef
      · exact ⟨column, given (List.of_mem_zip mem).1, isRef⟩

/-- The columns of one sheet after those seen, with the problems found before. -/
theorem collects_foldl_placeColumn (group : String) (source : Schema) (before : List Diagnostic)
    (columns : List Column) (h : Collects seen unified.schema)
    (found : before ++ unified.diagnostics = [] ↔ Column.Harmonious seen) :
    Collects (seen ++ columns) (columns.foldl (Merge.placeColumn group source) unified).schema ∧
      (before ++ (columns.foldl (Merge.placeColumn group source) unified).diagnostics = [] ↔
        Column.Harmonious (seen ++ columns)) := by
  let Known (passed : List Column) (now : Unified) : Prop :=
    Collects (seen ++ passed) now.schema ∧
      (before ++ now.diagnostics = [] ↔ Column.Harmonious (seen ++ passed))
  have begun : Known [] unified := by
    rw [← List.append_nil seen] at h found
    exact ⟨h, found⟩
  refine foldl_passes begun ?_
  rintro passed column rest now - ⟨collects, harmonious⟩
  have next : before ++ (Merge.placeColumn group source now column).diagnostics = [] ↔
      Column.Harmonious (seen ++ passed ++ [column]) := by
    rw [List.append_eq_nil_iff, diagnostics_placeColumn_iff collects, ← and_assoc,
      ← List.append_eq_nil_iff, harmonious, Column.harmonious_append_iff]
  rw [List.append_assoc] at next
  exact ⟨List.append_assoc seen passed [column] ▸ collects.placeColumn column, next⟩

/-- What is known of a merged structure: its columns, and whether a problem was found. -/
structure Unifies (seen : List Column) (merged : Structure) : Prop where
  collects : Collects seen merged.schema
  diagnostics : merged.diagnostics = [] ↔ Column.Harmonious seen

theorem Unifies.addSheet {merged : Structure} (h : Unifies seen merged) (sheet : IngestedSheet) :
    Unifies (seen ++ sheet.schema.columns) (Merge.addSheet group merged sheet) := by
  have start : Collects seen (⟨merged.schema, [], []⟩ : Unified).schema := h.collects
  have placed := collects_foldl_placeColumn group sheet.schema merged.diagnostics
    sheet.schema.columns start (by rw [List.append_nil]; exact h.diagnostics)
  exact ⟨placed.1.linkColumns _ (List.subset_append_right _ _), placed.2⟩

theorem Unifies.addSheets {merged : Structure} (h : Unifies [] merged)
    (sheets : List IngestedSheet) :
    Unifies (sheets.flatMap (·.schema.columns)) (sheets.foldl (Merge.addSheet group) merged) := by
  refine foldl_passes
    (P := fun passed : List IngestedSheet => Unifies (passed.flatMap (·.schema.columns))) h ?_
  intro passed sheet rest now _ known
  rw [List.flatMap_append, List.flatMap_singleton]
  exact known.addSheet sheet

end Merge

namespace MergeOutcome

variable {group : String} {sheets : List IngestedSheet} {referenceOnly : Bool}
  {outcome : MergeOutcome}

theorem unifies_ofSheets? (h : ofSheets? group sheets referenceOnly = some outcome) :
    Merge.Collects (sheets.flatMap (·.schema.columns)) outcome.table.schema ∧
      (outcome.diagnostics = [] ↔ Column.Harmonious (sheets.flatMap (·.schema.columns))) := by
  obtain ⟨first, _, h⟩ := Option.bind_eq_some_iff.1 h
  obtain ⟨header, _, h⟩ := Option.bind_eq_some_iff.1 h
  obtain rfl := Option.some.inj h
  have start : Merge.Unifies [] ⟨{ Schema.blank first.schema.origin .merge with
      name := group, merge := some header }, [], []⟩ := by
    refine ⟨⟨List.nodup_nil, fun _ => rfl, fun _ mem => absurd mem List.not_mem_nil⟩, ?_⟩
    exact ⟨fun _ _ mem => absurd mem List.not_mem_nil, fun _ => rfl⟩
  have unifies : Merge.Unifies _ (sheets.foldl (Merge.addSheet group) _) := start.addSheets sheets
  exact ⟨unifies.collects, unifies.diagnostics⟩

/-- A merge group has no problem exactly when its columns of one title agree. -/
theorem diagnostics_ofSheets?_eq_nil_iff
    (h : ofSheets? group sheets referenceOnly = some outcome) :
    outcome.diagnostics = [] ↔ Column.Harmonious (sheets.flatMap (·.schema.columns)) :=
  (unifies_ofSheets? h).2

/-- Every merged column has the core of some sheet's column. -/
theorem core_of_mem_ofSheets? (h : ofSheets? group sheets referenceOnly = some outcome)
    {column : Column} (mem : column ∈ outcome.table.schema.columns) :
    ∃ sheet ∈ sheets, ∃ given ∈ sheet.schema.columns, given.core = column.core := by
  have collects := (unifies_ofSheets? h).1
  have cores := collects.cores column.title
  rw [find?_key collects.titles mem, Option.map_some] at cores
  obtain ⟨given, found, same⟩ := Option.map_eq_some_iff.1 cores.symm
  obtain ⟨sheet, known, mem⟩ := List.mem_flatMap.1 (List.mem_of_find?_eq_some found)
  exact ⟨sheet, known, given, mem, same⟩

/-- A merged column of enumeration texts comes from a sheet that has such a column. -/
theorem isEnum_of_mem_ofSheets? (h : ofSheets? group sheets referenceOnly = some outcome)
    {column : Column} (mem : column ∈ outcome.table.schema.columns) (isEnum : column.isEnum = true) :
    ∃ sheet ∈ sheets, ∃ given ∈ sheet.schema.columns, given.isEnum = true := by
  rw [Column.isEnum, Bool.or_eq_true] at isEnum
  rcases isEnum with isEnum | isEnum
  · obtain ⟨sheet, known, given, mem, same⟩ := core_of_mem_ofSheets? h mem
    refine ⟨sheet, known, given, mem, ?_⟩
    rw [Column.isEnum, (Column.agrees_of_core same).enumGroup, isEnum, Bool.true_or]
  · obtain ⟨given, mem, isRef⟩ := (unifies_ofSheets? h).1.enumGroupRefs column mem isEnum
    obtain ⟨sheet, known, mem⟩ := List.mem_flatMap.1 mem
    exact ⟨sheet, known, given, mem, by rw [Column.isEnum, isRef, Bool.or_true]⟩

end MergeOutcome

end DesignTables
