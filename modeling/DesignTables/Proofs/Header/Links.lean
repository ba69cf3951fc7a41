import DesignTables.Proofs.Header.Columns

/-!
# The slots that a header holds: its key, and the columns that its columns are linked to

A directive links a column to one that is found by its title, so every slot is one of the columns,
whether the header has problems or not. A header without problems has a key, unless its table is a
single record.
-/
namespace DesignTables

/-- The columns that a column is linked to are among the first `width`. -/
structure Column.LinksBelow (width : Nat) (column : Column) : Prop where
  change : ∀ slot ∈ column.change, slot < width
  arraySizeRef : ∀ slot ∈ column.arraySizeRef, slot < width
  enumGroupRef : ∀ slot ∈ column.enumGroupRef, slot < width

theorem Column.LinksBelow.mono {width wider : Nat} {column : Column} (h : column.LinksBelow width)
    (le : width ≤ wider) : column.LinksBelow wider :=
  ⟨fun slot link => Nat.lt_of_lt_of_le (h.change slot link) le,
    fun slot link => Nat.lt_of_lt_of_le (h.arraySizeRef slot link) le,
    fun slot link => Nat.lt_of_lt_of_le (h.enumGroupRef slot link) le⟩

namespace Schema

variable {schema : Schema}

/-- Every slot that a schema holds is that of a column. -/
structure LinksInside (schema : Schema) : Prop where
  key : ∀ slot ∈ schema.key, slot < schema.columns.length
  columns : ∀ column ∈ schema.columns, column.LinksBelow schema.columns.length

theorem length_modifyColumn (schema : Schema) (slot : Nat) (change : Column → Column) :
    (schema.modifyColumn slot change).columns.length = schema.columns.length :=
  List.length_modify ..

theorem lt_of_findSlot? {title : String} {slot : Nat} (h : schema.findSlot? title = some slot) :
    slot < schema.columns.length := by
  rcases Option.or_eq_some_iff.1 h with exact | ⟨-, loose⟩
  · exact (List.findIdx?_eq_some_iff_getElem.1 exact).1
  · exact (List.findIdx?_eq_some_iff_getElem.1 loose).1

/-- A change of one column that sets only links to columns there are keeps all links inside. -/
theorem LinksInside.changed (h : schema.LinksInside) {after : Schema} {slot : Nat}
    {change : Column → Column} (columns : after.columns = schema.columns.modify slot change)
    (key : after.key = schema.key) (kept : ∀ c : Column, c.LinksBelow schema.columns.length →
      (change c).LinksBelow schema.columns.length) : after.LinksInside := by
  have width : after.columns.length = schema.columns.length := by
    rw [columns, List.length_modify]
  refine ⟨fun slot mem => ?_, fun column mem => ?_⟩
  · rw [key] at mem
    rw [width]
    exact h.key slot mem
  · rw [columns] at mem
    rw [width]
    exact forall_modifyColumn h.columns kept slot column mem

end Schema

namespace Header

variable {mergeGroups : List String} {schema after : Schema} {sheet : Sheet} {origin : SheetOrigin}
  {column : Column} {slot : Nat} {directive : Directive} {name : String} {change : Column → Column}
  {add : TableNeeds → TableNeeds}

/-- A directive links its column to one that is found. -/
theorem Changes.linksBelow (own : Changes mergeGroups schema name directive change add) (c : Column)
    (h : c.LinksBelow schema.columns.length) : (change c).LinksBelow schema.columns.length := by
  cases own
  case change source found =>
    have below := Schema.lt_of_findSlot? found
    exact ⟨fun _ mem => Option.some.inj mem ▸ below, h.arraySizeRef, h.enumGroupRef⟩
  all_goals exact ⟨h.change, h.arraySizeRef, h.enumGroupRef⟩

theorem Step.linksInside (step : Step mergeGroups column slot schema directive after)
    (h : schema.LinksInside) (inside : slot < schema.columns.length) : after.LinksInside := by
  cases step with
  | refused code => exact ⟨h.key, h.columns⟩
  | passed token => exact h
  | key free =>
    have changed : (schema.modifyColumn slot fun c => { c with
        isKey := true, isUnique := true
        origin := c.origin.or (some (originName schema.name column.title)) }).LinksInside :=
      h.changed rfl rfl fun c own => ⟨own.change, own.arraySizeRef, own.enumGroupRef⟩
    refine ⟨fun key mem => ?_, changed.columns⟩
    obtain rfl := Option.some.inj mem
    exact Nat.lt_of_lt_of_eq inside (Schema.length_modifyColumn schema slot _).symm
  | changed own => exact h.changed rfl rfl own.linksBelow
  | compared lengths source found asks =>
    have below := Schema.lt_of_findSlot? found
    have linked : (schema.modifyColumn slot fun c =>
        { c with arraySizeRef := some source }).LinksInside :=
      h.changed rfl rfl fun c own =>
        ⟨own.change, fun _ mem => Option.some.inj mem ▸ below, own.enumGroupRef⟩
    refine linked.changed rfl rfl fun c own => ?_
    cases lengths <;> exact ⟨own.change, own.arraySizeRef, own.enumGroupRef⟩

theorem linksInside_applyDirective (h : schema.LinksInside) (inside : slot < schema.columns.length)
    (directive : Directive) :
    (applyDirective mergeGroups column slot schema directive).LinksInside :=
  (step_applyDirective directive).linksInside h inside

theorem length_applyDirective (directive : Directive) :
    (applyDirective mergeGroups column slot schema directive).columns.length =
      schema.columns.length := by
  have same : (applyDirective mergeGroups column slot schema directive).shapes.length =
      schema.shapes.length := congrArg List.length (shapes_applyDirective directive)
  rwa [Schema.shapes, Schema.shapes, List.length_map, List.length_map] at same

theorem linksInside_linkEnumSources (h : schema.LinksInside) :
    (linkEnumSources schema).LinksInside := by
  refine linkEnumSources_induction h ?_ fun now own _ _ => ⟨own.key, own.columns⟩
  intro now own column slot title source _ _ found
  have below := Schema.lt_of_findSlot? found
  exact own.changed rfl rfl fun c known =>
    ⟨known.change, known.arraySizeRef, fun _ mem => Option.some.inj mem ▸ below⟩

theorem key_start (sheet : Sheet) (origin : SheetOrigin) (kind : Kind) :
    (start sheet origin kind).key = none := by
  rw [start, readTableCells]
  cases kind
  case merge =>
    dsimp only [Schema.blank]
    split <;> rfl
  all_goals rfl

/-- Before its directives are taken a header holds no slot. -/
theorem linksInside_start (sheet : Sheet) (origin : SheetOrigin) (kind : Kind) :
    (start sheet origin kind).LinksInside := by
  refine ⟨fun slot mem => ?_, fun column mem => ?_⟩
  · rw [key_start] at mem
    cases mem
  · obtain ⟨col, title, mode, isArray, directives, rfl⟩ := eq_plain_of_mem_start mem
    refine ⟨?_, ?_, ?_⟩
    all_goals
      intro slot link
      cases link

/-- Every slot in the header of a sheet is that of a column, whatever problems the header has. -/
theorem linksInside_of_compile? (h : compile? sheet origin mergeGroups = some schema) :
    schema.LinksInside := by
  rw [compile?_eq] at h
  obtain ⟨kind, -, rfl⟩ := Option.map_eq_some_iff.1 h
  have directed : (applyDirectives mergeGroups (start sheet origin kind)).LinksInside := by
    let Kept (now : Schema) : Prop :=
      now.LinksInside ∧ now.columns.length = (start sheet origin kind).columns.length
    have begun : Kept (start sheet origin kind) := ⟨linksInside_start sheet origin kind, rfl⟩
    refine (applyDirectives_induction (P := Kept) begun ?_).1
    rintro now ⟨own, width⟩ column slot mem directive _
    obtain ⟨inside, -⟩ := List.getElem?_eq_some_iff.1 (column?_of_mem_slots mem)
    exact ⟨linksInside_applyDirective own (width ▸ inside) directive,
      (length_applyDirective directive).trans width⟩
  exact linksInside_linkEnumSources ⟨directed.key, directed.columns⟩

/-- A header without problems names a key column, unless its table is a single record. -/
theorem isSome_key_of_compile? (h : compile? sheet origin mergeGroups = some schema)
    (clean : schema.isClean = true) (keyed : schema.options.valueOnly = false) :
    schema.key.isSome := by
  rw [compile?_eq] at h
  obtain ⟨kind, -, rfl⟩ := Option.map_eq_some_iff.1 h
  obtain ⟨linked, -⟩ := keeps_compile mergeGroups sheet origin kind
  rw [linked.keeps.options] at keyed
  rw [key_linkEnumSources]
  exact (sound_of_headerProblems (headerProblems_eq_nil clean)).keyed keyed

/-- Shares of merge groups and localized strings are never single records. -/
theorem valueOnly_of_compile? (h : compile? sheet origin mergeGroups = some schema)
    (kind : schema.kind = .merge ∨ schema.kind = .localization) :
    schema.options.valueOnly = false := by
  rw [compile?_eq] at h
  obtain ⟨given, -, rfl⟩ := Option.map_eq_some_iff.1 h
  obtain ⟨-, keeps⟩ := keeps_compile mergeGroups sheet origin given
  rw [keeps.kind, (start_kept sheet origin given).2.2] at kind
  rw [keeps.options, start, readTableCells]
  rcases kind with rfl | rfl
  · dsimp only [Schema.blank]
    split <;> rfl
  · rfl

end Header

end DesignTables
