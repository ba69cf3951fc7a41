import DesignTables.Proofs.Header.Columns

/-!
# The needs of a header

A schema with a column of enumeration texts says that it needs the enumerations, one with keys of
localized texts that it needs these, and every table or merge group that a column refers to is
among those it needs. Needs only grow while directives are taken, so nothing is forgotten.

Each `check` directive of a column either brings a problem or leaves its table among the needs of
the header, unless that is a merge group. A later directive can give a column another target, and
takes no need away: so a header without problems needs the tables of all its directives.
-/
namespace DesignTables

/-- What a column takes from other sheets is among the needs. -/
structure TableNeeds.Cover (needs : TableNeeds) (mergeGroups : List String) (column : Column) :
    Prop where
  enums : column.isEnum = true → needs.enums = true
  localization : column.dataType = some .localText → needs.localization = true
  merges : ∀ target, column.check = some target → mergeGroups.contains target.table = true →
    target.table ∈ needs.merges
  tables : ∀ target, column.check = some target → mergeGroups.contains target.table = false →
    target.table ∈ needs.tables

namespace TableNeeds

/-- Whether every need of one table is a need of another. -/
structure Within (few many : TableNeeds) : Prop where
  enums : few.enums = true → many.enums = true
  localization : few.localization = true → many.localization = true
  merges : few.merges ⊆ many.merges
  tables : few.tables ⊆ many.tables

variable {few many needs : TableNeeds} {mergeGroups : List String} {column : Column}

theorem Within.refl (needs : TableNeeds) : needs.Within needs :=
  ⟨id, id, List.Subset.refl _, List.Subset.refl _⟩

theorem Cover.mono (h : few.Cover mergeGroups column) (more : few.Within many) :
    many.Cover mergeGroups column where
  enums isEnum := more.enums (h.enums isEnum)
  localization type := more.localization (h.localization type)
  merges target check group := more.merges (h.merges target check group)
  tables target check group := more.tables (h.tables target check group)

/-- A change that asks for nothing new keeps what is needed. -/
theorem Cover.change (h : needs.Cover mergeGroups column) {changed : Column}
    (isEnum : changed.isEnum = column.isEnum)
    (dataType : changed.dataType = some .localText → column.dataType = some .localText)
    (check : changed.check = column.check) : needs.Cover mergeGroups changed where
  enums asked := h.enums (isEnum ▸ asked)
  localization asked := h.localization (dataType asked)
  merges target asked := h.merges target (check ▸ asked)
  tables target asked := h.tables target (check ▸ asked)

end TableNeeds

/-- The needs of a schema cover its columns. -/
def Schema.KnowsNeeds (mergeGroups : List String) (schema : Schema) : Prop :=
  ∀ column ∈ schema.columns, schema.needs.Cover mergeGroups column

namespace Header

variable {mergeGroups : List String} {column : Column} {slot : Nat} {schema after : Schema}
  {directive : Directive} {name : String} {change : Column → Column} {add : TableNeeds → TableNeeds}

theorem mem_addOnce {names : List String} {name other : String} :
    other ∈ addOnce names name ↔ other ∈ names ∨ other = name := by
  rw [addOnce]
  split
  next known =>
    rw [List.contains_iff_mem] at known
    exact ⟨.inl, fun h => h.elim id fun same => same ▸ known⟩
  next => rw [List.mem_append, List.mem_singleton]

theorem within_needTable (mergeGroups : List String) (needs : TableNeeds) (table : String) :
    needs.Within (needTable mergeGroups needs table) := by
  rw [needTable]
  split
  · exact ⟨id, id, fun name mem => mem_addOnce.2 (.inl mem), List.Subset.refl _⟩
  · exact ⟨id, id, List.Subset.refl _, fun name mem => mem_addOnce.2 (.inl mem)⟩

/-- A change forgets nothing that the table needs. -/
theorem Changes.within (own : Changes mergeGroups schema name directive change add)
    (needs : TableNeeds) : needs.Within (add needs) := by
  cases own
  case dataType type => exact ⟨id, fun h => by simp [h], List.Subset.refl _, List.Subset.refl _⟩
  case enumGroup group => exact ⟨fun _ => rfl, id, List.Subset.refl _, List.Subset.refl _⟩
  case enumRef title => exact ⟨fun _ => rfl, id, List.Subset.refl _, List.Subset.refl _⟩
  case check => exact within_needTable _ _ _
  all_goals exact .refl _

theorem Step.within (step : Step mergeGroups column slot schema directive after) :
    schema.needs.Within after.needs := by
  cases step with
  | refused | passed | key | compared => exact .refl _
  | changed own => exact own.within schema.needs

theorem within_applyDirective (directive : Directive) :
    schema.needs.Within (applyDirective mergeGroups column slot schema directive).needs :=
  (step_applyDirective directive).within

theorem cover_needTable {needs : TableNeeds} (h : needs.Cover mergeGroups column)
    (target : ReferenceTarget) : (needTable mergeGroups needs target.table).Cover mergeGroups
      { column with check := some target } := by
  have more := within_needTable mergeGroups needs target.table
  refine ⟨fun asked => more.enums (h.enums asked),
    fun asked => more.localization (h.localization asked), ?_, ?_⟩
  all_goals
    rintro own asked group
    obtain rfl := Option.some.inj asked
    simp only [needTable, group]
    exact mem_addOnce.2 (.inr rfl)

/-- What a change takes from other sheets it adds to the needs. -/
theorem Changes.cover (own : Changes mergeGroups schema name directive change add)
    {needs : TableNeeds} {c : Column} (h : needs.Cover mergeGroups c) :
    (add needs).Cover mergeGroups (change c) := by
  cases own
  case dataType type =>
    refine ⟨h.enums, fun asked => ?_, h.merges, h.tables⟩
    rw [Bool.or_eq_true, beq_iff_eq]
    exact (Option.or_eq_some_iff.1 asked).imp h.localization fun given => Option.some.inj given.2
  case enumGroup group =>
    exact ⟨fun _ => rfl, fun asked => absurd asked (by simp), h.merges, h.tables⟩
  case enumRef title =>
    exact ⟨fun _ => rfl, fun asked => absurd asked (by simp), h.merges, h.tables⟩
  case check table field pieces named => exact cover_needTable h ⟨table, field⟩
  all_goals exact h.change rfl id rfl

/-- A change of one column within grown needs. -/
theorem knowsNeeds_modify (h : schema.KnowsNeeds mergeGroups) {change : Column → Column}
    {place : Nat} {grown : Schema} (more : schema.needs.Within grown.needs)
    (columns : grown.columns = schema.columns.modify place change)
    (changed : ∀ c, schema.needs.Cover mergeGroups c → grown.needs.Cover mergeGroups (change c)) :
    grown.KnowsNeeds mergeGroups := by
  intro c mem
  rw [columns] at mem
  rcases mem_modify mem with mem | ⟨old, place, rfl⟩
  · exact (h c mem).mono more
  · exact changed old (h old (List.mem_of_getElem? place))

theorem Step.knowsNeeds (step : Step mergeGroups column slot schema directive after)
    (h : schema.KnowsNeeds mergeGroups) : after.KnowsNeeds mergeGroups := by
  have keep {s : Schema} (hs : s.KnowsNeeds mergeGroups) (place : Nat) {change : Column → Column}
      (same : ∀ c, (change c).isEnum = c.isEnum ∧ (change c).dataType = c.dataType ∧
        (change c).check = c.check) : (s.modifyColumn place change).KnowsNeeds mergeGroups := by
    refine knowsNeeds_modify hs (.refl _) rfl fun c cover => ?_
    obtain ⟨isEnum, dataType, check⟩ := same c
    exact cover.change isEnum (fun asked => dataType ▸ asked) check
  cases step with
  | refused code => exact h
  | passed token => exact h
  | key free => exact keep h slot fun _ => ⟨rfl, rfl, rfl⟩
  | changed own => exact knowsNeeds_modify h (own.within _) rfl fun c cover => own.cover cover
  | compared lengths source found asks =>
    refine keep (keep h slot ?_) source fun c => ?_
    · exact fun _ => ⟨rfl, rfl, rfl⟩
    · cases lengths <;> exact ⟨rfl, rfl, rfl⟩

theorem knowsNeeds_applyDirectives (h : schema.KnowsNeeds mergeGroups) :
    (applyDirectives mergeGroups schema).KnowsNeeds mergeGroups :=
  applyDirectives_induction h fun _ known _ _ _ directive _ =>
    (step_applyDirective directive).knowsNeeds known

theorem mem_directivesOf_of_enumSource? {title : String} (h : enumSource? column = some title) :
    .enumRef title ∈ directivesOf column := by
  obtain ⟨directive, mem, names⟩ := List.mem_filterMap.1 (List.mem_of_getLast? h)
  cases directive
  case enumRef own =>
    obtain rfl := Option.some.inj names
    exact mem
  all_goals cases names

/-- A column that names the column of its group needs the enumerations. -/
theorem enums_applyDirectives {title : String} (mem : (column, slot) ∈ schema.slots)
    (source : enumSource? column = some title) :
    (applyDirectives mergeGroups schema).needs.enums = true :=
  applyDirectives_brings_about (P := fun now => now.needs.enums = true) mem
    (mem_directivesOf_of_enumSource? source)
    (fun _ known _ _ later => (within_applyDirective later).enums known) fun _ => rfl

theorem knowsNeeds_linkEnumSources (h : schema.KnowsNeeds mergeGroups)
    (enums : ∀ c ∈ schema.columns, (enumSource? c).isSome → schema.needs.enums = true) :
    (linkEnumSources schema).KnowsNeeds mergeGroups ∧
      (linkEnumSources schema).needs = schema.needs := by
  let Known (now : Schema) : Prop := now.KnowsNeeds mergeGroups ∧ now.needs = schema.needs
  refine linkEnumSources_induction (P := Known) ⟨h, rfl⟩ ?_ fun now known _ _ => known
  rintro now ⟨known, same⟩ column slot title source mem asks _
  refine ⟨knowsNeeds_modify known (.refl _) rfl fun c cover => ?_, same⟩
  refine ⟨fun _ => ?_, cover.localization, cover.merges, cover.tables⟩
  change now.needs.enums = true
  rw [same]
  exact enums column (List.mem_of_getElem? (column?_of_mem_slots mem)) (by rw [asks]; rfl)

theorem directivesOf_of_shape {c d : Column} (h : c.shape = d.shape) :
    directivesOf c = directivesOf d := by
  have directives : c.directives = d.directives := congrArg (·.2.2.2.2) h
  rw [directivesOf, directivesOf, directives]

theorem enumSource?_of_shape {c d : Column} (h : c.shape = d.shape) :
    enumSource? c = enumSource? d := by
  rw [enumSource?, enumSource?, directivesOf_of_shape h]

/-- The needs of a sheet's header cover its columns. -/
theorem knowsNeeds_compile? {sheet : Sheet} {origin : SheetOrigin}
    (h : compile? sheet origin mergeGroups = some schema) : schema.KnowsNeeds mergeGroups := by
  rw [compile?_eq] at h
  obtain ⟨kind, _, rfl⟩ := Option.map_eq_some_iff.1 h
  have blank : (start sheet origin kind).KnowsNeeds mergeGroups := by
    intro column mem
    obtain ⟨col, title, mode, isArray, directives, rfl⟩ := eq_plain_of_mem_start mem
    refine ⟨fun asked => ?_, fun asked => ?_, fun _ asked => ?_, fun _ asked => ?_⟩ <;>
      exact absurd asked (by simp [Column.plain, Column.isEnum])
  have shapes := (directed_applyDirectives mergeGroups (ownsOrigins_start sheet origin kind)).shapes
  have known : (checked mergeGroups (start sheet origin kind)).KnowsNeeds mergeGroups :=
    knowsNeeds_applyDirectives blank
  refine (knowsNeeds_linkEnumSources known fun c mem source => ?_).1
  obtain ⟨slot, place⟩ := List.mem_iff_getElem?.1 mem
  obtain ⟨d, place', shape⟩ := Schema.exists_column_of_shapes shapes.symm place
  obtain ⟨title, source⟩ := Option.isSome_iff_exists.1 source
  rw [← enumSource?_of_shape shape] at source
  exact enums_applyDirectives (List.mk_mem_zipIdx_iff_getElem?.2 place') source

/-- The target of a `check` directive is among the needs of the header, or it has a problem. -/
def Heeds (mergeGroups : List String) (target : String) (schema : Schema) : Prop :=
  schema.diagnostics ≠ [] ∨ ∃ table field, Text.splitOn '/' target = [table, field] ∧
    (mergeGroups.contains table = false → table ∈ schema.needs.tables)

theorem Heeds.mono {target : String} {later : Schema} (h : Heeds mergeGroups target schema)
    (noted : schema.diagnostics <+: later.diagnostics) (more : schema.needs.Within later.needs) :
    Heeds mergeGroups target later := by
  rcases h with faulty | ⟨table, field, pieces, needed⟩
  · refine .inl fun none => faulty ?_
    rw [none] at noted
    exact List.prefix_nil.1 noted
  · exact .inr ⟨table, field, pieces, fun plain => more.tables (needed plain)⟩

theorem heeds_applyDirective {target : String} (h : Heeds mergeGroups target schema)
    (directive : Directive) :
    Heeds mergeGroups target (applyDirective mergeGroups column slot schema directive) :=
  h.mono (keeps_applyDirective directive).diagnostics (within_applyDirective directive)

theorem heeds_check (target : String) :
    Heeds mergeGroups target (applyDirective mergeGroups column slot schema (.check target)) := by
  simp only [applyDirective, applyCheck]
  split
  next table field pieces =>
    split
    · exact .inl (by simp [Schema.report])
    · refine .inr ⟨table, field, pieces, fun plain => ?_⟩
      simp only [needTable, plain]
      exact mem_addOnce.2 (.inr rfl)
  · exact .inl (by simp [Schema.report])

theorem heeds_applyDirectives {target : String} (mem : (column, slot) ∈ schema.slots)
    (asks : .check target ∈ directivesOf column) :
    Heeds mergeGroups target (applyDirectives mergeGroups schema) :=
  applyDirectives_brings_about mem asks (fun _ heeds _ _ later => heeds_applyDirective heeds later)
    fun _ => heeds_check target

/-- A header without problems needs every table that a directive names, merge groups aside. -/
theorem needs_of_compile? {sheet : Sheet} {origin : SheetOrigin}
    (h : compile? sheet origin mergeGroups = some schema) (clean : schema.isClean = true)
    (mem : column ∈ schema.columns) {target : String} (asks : .check target ∈ directivesOf column) :
    ∃ table field, Text.splitOn '/' target = [table, field] ∧
      (mergeGroups.contains table = false → table ∈ schema.needs.tables) := by
  rw [compile?_eq] at h
  obtain ⟨kind, -, rfl⟩ := Option.map_eq_some_iff.1 h
  obtain ⟨linked, -⟩ := keeps_compile mergeGroups sheet origin kind
  -- The column stands where it was read, with the directives that it was read with.
  obtain ⟨slot, place⟩ := List.mem_iff_getElem?.1 mem
  obtain ⟨read, place', shape⟩ := exists_read place
  have heeds : Heeds mergeGroups target (applyDirectives mergeGroups (start sheet origin kind)) :=
    heeds_applyDirectives place' (directivesOf_of_shape shape ▸ asks)
  have noted : (applyDirectives mergeGroups (start sheet origin kind)).diagnostics <+:
      (linkEnumSources (checked mergeGroups (start sheet origin kind))).diagnostics :=
    (List.prefix_append _ _).trans linked.keeps.diagnostics
  have kept : Heeds mergeGroups target
      (linkEnumSources (checked mergeGroups (start sheet origin kind))) := by
    refine heeds.mono noted ?_
    rw [needs_linkEnumSources]
    exact .refl _
  exact kept.resolve_left fun faulty => faulty (List.isEmpty_iff.1 clean)

end Header

end DesignTables
