import DesignTables.Proofs.Header.Directives

/-!
# What the directives of a header do not change

A directive changes columns in place: the table keeps its name, its columns keep their titles and
grid columns, and no column comes or goes. So an origin is always named after the table and the
column that has it. A header without problems has none of the problems of a whole header.
-/
namespace DesignTables

namespace Column

/-- What is read of a column before its directives are taken. -/
def shape (column : Column) : Nat × String × ExportMode × Bool × List String :=
  (column.gridColumn, column.title, column.mode, column.isArray, column.directives)

/-- The column has no origin, or one named after a table and its title. -/
def OwnsOrigin (table : String) (column : Column) : Prop :=
  ∀ name ∈ column.origin, name = originName table column.title

/-- A column that is declared an origin is named after its table and title, or bears the name that it
had. -/
theorem OwnsOrigin.declare {table : String} {column : Column} (h : column.OwnsOrigin table) :
    ∀ name ∈ column.origin.or (some (originName table column.title)),
      name = originName table column.title := by
  intro name mem
  rcases Option.or_eq_some_iff.1 mem with own | ⟨-, declared⟩
  · exact h name own
  · exact (Option.some.inj declared).symm

end Column

namespace Schema

/-- The shapes of the columns. -/
def shapes (schema : Schema) : List (Nat × String × ExportMode × Bool × List String) :=
  schema.columns.map Column.shape

/-- Every origin is named after the table and the column. -/
def OwnsOrigins (schema : Schema) : Prop :=
  ∀ column ∈ schema.columns, column.OwnsOrigin schema.name

theorem map_columns_modifyColumn {γ : Type} {change : Column → Column} {view : Column → γ}
    (h : ∀ c, view (change c) = view c) (schema : Schema) (slot : Nat) :
    (schema.modifyColumn slot change).columns.map view = schema.columns.map view :=
  map_modify_of_unseen h schema.columns slot

/-- What a change keeps of every column holds of all columns after it. -/
theorem forall_modifyColumn {P : Column → Prop} {schema : Schema}
    (h : ∀ c ∈ schema.columns, P c) {change : Column → Column} (kept : ∀ c, P c → P (change c))
    (slot : Nat) : ∀ c ∈ (schema.modifyColumn slot change).columns, P c := by
  intro c mem
  rcases mem_modify mem with mem | ⟨d, place, rfl⟩
  · exact h c mem
  · exact kept d (h d (List.mem_of_getElem? place))

theorem title_of_shapes {a b : Schema} (h : a.shapes = b.shapes) {slot : Nat} {c d : Column}
    (hc : a.column? slot = some c) (hd : b.column? slot = some d) : c.title = d.title := by
  have same := congrArg (·[slot]?) h
  simp only [shapes, List.getElem?_map] at same
  rw [column?] at hc hd
  rw [hc, hd] at same
  exact congrArg (·.2.1) (Option.some.inj same)

/-- In headers that a view of the columns does not tell apart a column stands where the one of its
view does. -/
theorem exists_column_of_view {γ : Type} {view : Column → γ} {begun schema : Schema}
    (same : schema.columns.map view = begun.columns.map view) {slot : Nat} {column : Column}
    (place : begun.column? slot = some column) :
    ∃ now, schema.column? slot = some now ∧ view now = view column := by
  have read : begun.columns[slot]? = some column := place
  have seen : (schema.columns.map view)[slot]? = some (view column) := by
    rw [same, List.getElem?_map, read]
    rfl
  rw [List.getElem?_map] at seen
  exact Option.map_eq_some_iff.1 seen

/-- In headers of the same shapes a column stands where the one of its shape does. -/
theorem exists_column_of_shapes {begun schema : Schema} (shapes : schema.shapes = begun.shapes)
    {slot : Nat} {column : Column} (place : begun.column? slot = some column) :
    ∃ now, schema.column? slot = some now ∧ now.shape = column.shape :=
  exists_column_of_view shapes place

/-- A change that leaves names and origins alone keeps the origins named after their columns. -/
theorem OwnsOrigins.modifyColumn {schema : Schema} (h : schema.OwnsOrigins)
    {change : Column → Column} {slot : Nat}
    (kept : ∀ c, schema.column? slot = some c → c.OwnsOrigin schema.name →
      (change c).OwnsOrigin schema.name) :
    (schema.modifyColumn slot change).OwnsOrigins := by
  intro column mem
  rcases mem_modify mem with mem | ⟨c, place, rfl⟩
  · exact h column mem
  · exact kept c place (h c (List.mem_of_getElem? place))

end Schema

namespace Header

variable {mergeGroups : List String} {column : Column} {slot : Nat} {schema after : Schema}
  {directive : Directive} {name : String} {change : Column → Column} {add : TableNeeds → TableNeeds}

theorem shapes_modifyColumn (schema : Schema) (place : Nat) {change : Column → Column}
    (h : ∀ c, (change c).shape = c.shape) :
    (schema.modifyColumn place change).shapes = schema.shapes :=
  Schema.map_columns_modifyColumn h schema place

/-- A change leaves alone what was read of its column before, and the link to the column of a group;
only `null` changes whether the column may be empty. -/
theorem Changes.frame (own : Changes mergeGroups schema name directive change add) (c : Column) :
    (change c).shape = c.shape ∧ (change c).enumGroupRef = c.enumGroupRef ∧
      (directive = .null ∨ (change c).nullAllowed = c.nullAllowed) := by
  cases own
  case null => exact ⟨rfl, rfl, .inl rfl⟩
  all_goals exact ⟨rfl, rfl, .inr rfl⟩

/-- A directive changes nothing that is read of a column before and no link to the column of a group;
only `null` changes whether the column may be empty. -/
theorem Step.map_columns {γ : Type} {view : Column → γ}
    (step : Step mergeGroups column slot schema directive after)
    (unseen : ∀ c d : Column, c.shape = d.shape → c.enumGroupRef = d.enumGroupRef →
      directive = .null ∨ c.nullAllowed = d.nullAllowed → view c = view d) :
    after.columns.map view = schema.columns.map view := by
  have same (s : Schema) (place : Nat) {change : Column → Column}
      (frame : ∀ c, (change c).shape = c.shape ∧ (change c).enumGroupRef = c.enumGroupRef ∧
        (directive = .null ∨ (change c).nullAllowed = c.nullAllowed)) :
      (s.modifyColumn place change).columns.map view = s.columns.map view := by
    refine Schema.map_columns_modifyColumn (fun c => ?_) s place
    obtain ⟨shape, link, empty⟩ := frame c
    exact unseen _ _ shape link empty
  cases step with
  | refused code => rfl
  | passed token => rfl
  | key free => exact same schema slot fun _ => ⟨rfl, rfl, .inr rfl⟩
  | changed own => exact same schema slot own.frame
  | compared lengths source found asks =>
    refine (same _ _ fun c => ?_).trans (same schema slot fun _ => ⟨rfl, rfl, .inr rfl⟩)
    cases lengths <;> exact ⟨rfl, rfl, .inr rfl⟩

theorem map_columns_applyDirective {γ : Type} {view : Column → γ} (directive : Directive)
    (unseen : ∀ c d : Column, c.shape = d.shape → c.enumGroupRef = d.enumGroupRef →
      directive = .null ∨ c.nullAllowed = d.nullAllowed → view c = view d) :
    (applyDirective mergeGroups column slot schema directive).columns.map view =
      schema.columns.map view :=
  (step_applyDirective directive).map_columns unseen

theorem shapes_applyDirective (directive : Directive) :
    (applyDirective mergeGroups column slot schema directive).shapes = schema.shapes :=
  map_columns_applyDirective directive fun _ _ shape _ _ => shape

/-- What a header keeps while columns change and problems are noted. -/
structure Keeps (before after : Schema) : Prop where
  origin : after.origin = before.origin
  name : after.name = before.name
  kind : after.kind = before.kind
  merge : after.merge = before.merge
  options : after.options = before.options
  diagnostics : before.diagnostics <+: after.diagnostics

theorem Keeps.refl (schema : Schema) : Keeps schema schema :=
  ⟨rfl, rfl, rfl, rfl, rfl, List.prefix_refl _⟩

theorem Keeps.trans {a b c : Schema} (h : Keeps a b) (h' : Keeps b c) : Keeps a c :=
  ⟨h'.origin.trans h.origin, h'.name.trans h.name, h'.kind.trans h.kind, h'.merge.trans h.merge,
    h'.options.trans h.options, h.diagnostics.trans h'.diagnostics⟩

theorem keeps_report (schema : Schema) (found : Diagnostic) : Keeps schema (schema.report found) :=
  ⟨rfl, rfl, rfl, rfl, rfl, List.prefix_append _ _⟩

theorem Step.keeps (step : Step mergeGroups column slot schema directive after) :
    Keeps schema after := by
  cases step with
  | refused code => exact keeps_report _ _
  | passed token => exact .refl _
  | key | changed | compared => exact ⟨rfl, rfl, rfl, rfl, rfl, List.prefix_refl _⟩

theorem keeps_applyDirective (directive : Directive) :
    Keeps schema (applyDirective mergeGroups column slot schema directive) :=
  (step_applyDirective directive).keeps

theorem Changes.ownsOrigin {table : String} {c : Column}
    (own : Changes mergeGroups schema (originName table c.title) directive change add)
    (owned : c.OwnsOrigin table) : (change c).OwnsOrigin table := by
  cases own
  case origin => exact owned.declare
  all_goals exact owned

/-- Origins are declared under the name of the table and the title of the column. -/
theorem Step.ownsOrigins (step : Step mergeGroups column slot schema directive after)
    (h : schema.OwnsOrigins) (own : ∀ c, schema.column? slot = some c → c.title = column.title) :
    after.OwnsOrigins := by
  cases step with
  | refused code => exact h
  | passed token => exact h
  | key free =>
    refine h.modifyColumn fun c place owned => ?_
    rw [← own c place]
    exact owned.declare
  | changed changes =>
    refine h.modifyColumn fun c place owned => ?_
    rw [← own c place] at changes
    exact changes.ownsOrigin owned
  | compared lengths source found asks =>
    have linked : (schema.modifyColumn slot fun c =>
        { c with arraySizeRef := some source }).OwnsOrigins :=
      h.modifyColumn fun c _ owned => owned
    refine linked.modifyColumn fun c _ owned => ?_
    cases lengths <;> exact owned

theorem column?_of_mem_slots {given : Column} {place : Nat}
    (h : (given, place) ∈ schema.slots) : schema.column? place = some given :=
  List.mk_mem_zipIdx_iff_getElem?.1 h

theorem mem_slots_of_lt {place : Nat} (inside : place < schema.columns.length) :
    (schema.columns[place], place) ∈ schema.slots :=
  List.mk_mem_zipIdx_iff_getElem?.2 (List.getElem?_eq_getElem inside)

/-- What is known of a header while its directives are taken: `start` is the header before. -/
structure Directed (start schema : Schema) : Prop where
  ownsOrigins : schema.OwnsOrigins
  shapes : schema.shapes = start.shapes
  keeps : Keeps start schema

theorem Directed.applyDirective {start : Schema} (h : Directed start schema)
    (place : start.column? slot = some column) (directive : Directive) :
    Directed start (Header.applyDirective mergeGroups column slot schema directive) where
  ownsOrigins := (step_applyDirective directive).ownsOrigins h.ownsOrigins
    fun _ found => Schema.title_of_shapes h.shapes found place
  shapes := (shapes_applyDirective directive).trans h.shapes
  keeps := h.keeps.trans (keeps_applyDirective directive)

theorem directed_applyDirectives (mergeGroups : List String) (h : schema.OwnsOrigins) :
    Directed schema (applyDirectives mergeGroups schema) :=
  applyDirectives_induction ⟨h, rfl, .refl _⟩ fun _ directed _ _ mem directive _ =>
    directed.applyDirective (column?_of_mem_slots mem) directive

theorem directed_linkEnumSources (h : schema.OwnsOrigins) :
    Directed schema (linkEnumSources schema) := by
  refine linkEnumSources_induction (P := Directed schema) ⟨h, rfl, .refl _⟩ ?_ ?_
  · intro now directed column slot title source _ _ _
    refine ⟨directed.ownsOrigins.modifyColumn fun c _ owned => owned, ?_, ?_⟩
    · rw [shapes_modifyColumn _ _ (by exact fun _ => rfl), directed.shapes]
    · exact directed.keeps.trans ⟨rfl, rfl, rfl, rfl, rfl, List.prefix_refl _⟩
  · exact fun now directed _ _ =>
      ⟨directed.ownsOrigins, directed.shapes, directed.keeps.trans (keeps_report _ _)⟩

/-- Linking the columns that name enumeration groups changes nothing else of a column. -/
theorem map_columns_linkEnumSources {γ : Type} {f : Column → γ}
    (h : ∀ c source, f { c with enumGroupRef := some source } = f c) (schema : Schema) :
    (linkEnumSources schema).columns.map f = schema.columns.map f := by
  refine linkEnumSources_induction (P := fun now => now.columns.map f = schema.columns.map f) rfl
    ?_ fun now same _ _ => same
  intro now same column slot title source _ _ _
  rw [Schema.map_columns_modifyColumn (by exact fun c => h c source), same]

/-- What holds of a view of all columns holds after their links were made. -/
theorem forall_linkEnumSources {γ : Type} {f : Column → γ} {P : γ → Prop}
    (h : ∀ c source, f { c with enumGroupRef := some source } = f c)
    (known : ∀ c ∈ schema.columns, P (f c)) : ∀ c ∈ (linkEnumSources schema).columns, P (f c) := by
  intro c mem
  have seen := List.mem_map_of_mem (f := f) mem
  rw [map_columns_linkEnumSources h] at seen
  obtain ⟨before, place, same⟩ := List.mem_map.1 seen
  exact same ▸ known before place

/-- Linking columns changes nothing of the table but them, and may bring problems. -/
theorem linkEnumSources_kept {γ : Type} {f : Schema → γ}
    (columns : ∀ s columns, f { s with columns := columns } = f s)
    (reported : ∀ s d, f (s.report d) = f s) (schema : Schema) :
    f (linkEnumSources schema) = f schema :=
  linkEnumSources_induction (P := fun now => f now = f schema) rfl
    (fun now same _ _ _ _ _ _ _ => (columns now _).trans same)
    fun now same _ _ => (reported now _).trans same

theorem key_linkEnumSources (schema : Schema) : (linkEnumSources schema).key = schema.key :=
  linkEnumSources_kept (f := (·.key)) (fun _ _ => rfl) (fun _ _ => rfl) schema

theorem needs_linkEnumSources (schema : Schema) : (linkEnumSources schema).needs = schema.needs :=
  linkEnumSources_kept (f := (·.needs)) (fun _ _ => rfl) (fun _ _ => rfl) schema

theorem subfolder_linkEnumSources (schema : Schema) :
    (linkEnumSources schema).subfolder = schema.subfolder :=
  linkEnumSources_kept (f := (·.subfolder)) (fun _ _ => rfl) (fun _ _ => rfl) schema

/-- A sheet's header before its directives are taken. -/
def start (sheet : Sheet) (origin : SheetOrigin) (kind : Kind) : Schema :=
  { readTableCells sheet.grid (Schema.blank origin kind) with columns := readColumns sheet.grid }

/-- A header with its directives taken and the problems of the whole header noted. -/
def checked (mergeGroups : List String) (schema : Schema) : Schema :=
  let directed := applyDirectives mergeGroups schema
  { directed with diagnostics := directed.diagnostics ++ headerProblems directed }

theorem compile?_eq (sheet : Sheet) (origin : SheetOrigin) (mergeGroups : List String) :
    compile? sheet origin mergeGroups = (Kind.detect? sheet.grid).map fun kind =>
      linkEnumSources (checked mergeGroups (start sheet origin kind)) := rfl

theorem readColumn?_eq_some {grid : Grid} {col : Nat} (h : readColumn? grid col = some column) :
    ∃ title mode isArray directives, column =
      { Column.plain col title mode with isArray := isArray, directives := directives } := by
  obtain ⟨title, _, h⟩ := Option.bind_eq_some_iff.1 h
  obtain ⟨directives, _, h⟩ := Option.bind_eq_some_iff.1 h
  obtain ⟨flag, _, h⟩ := Option.bind_eq_some_iff.1 h
  obtain ⟨mode, _, h⟩ := Option.bind_eq_some_iff.1 h
  exact ⟨_, mode, _, _, (Option.some.inj h).symm⟩

/-- Before directives are taken a column has nothing but what stands in the four rows of its header. -/
theorem eq_plain_of_mem_start {sheet : Sheet} {origin : SheetOrigin} {kind : Kind}
    (mem : column ∈ (start sheet origin kind).columns) :
    ∃ col title mode isArray directives, column =
      { Column.plain col title mode with isArray := isArray, directives := directives } := by
  obtain ⟨col, -, read⟩ := List.mem_filterMap.1 mem
  exact ⟨col, readColumn?_eq_some read⟩

theorem ownsOrigins_start (sheet : Sheet) (origin : SheetOrigin) (kind : Kind) :
    (start sheet origin kind).OwnsOrigins := by
  intro column mem name origin
  obtain ⟨col, title, mode, isArray, directives, rfl⟩ := eq_plain_of_mem_start mem
  cases origin

theorem keeps_compile (mergeGroups : List String) (sheet : Sheet) (origin : SheetOrigin)
    (kind : Kind) : Directed (checked mergeGroups (start sheet origin kind))
      (linkEnumSources (checked mergeGroups (start sheet origin kind))) ∧
      Keeps (start sheet origin kind)
        (linkEnumSources (checked mergeGroups (start sheet origin kind))) := by
  have directed := directed_applyDirectives mergeGroups (ownsOrigins_start sheet origin kind)
  have owned : (checked mergeGroups (start sheet origin kind)).OwnsOrigins := directed.ownsOrigins
  have linked := directed_linkEnumSources owned
  have noted : Keeps (applyDirectives mergeGroups (start sheet origin kind))
      (checked mergeGroups (start sheet origin kind)) :=
    ⟨rfl, rfl, rfl, rfl, rfl, List.prefix_append _ _⟩
  exact ⟨linked, directed.keeps.trans (noted.trans linked.keeps)⟩

/-- Compiling a header leaves the columns as they were read, but for what directives say of them. -/
theorem shapes_compile (mergeGroups : List String) (sheet : Sheet) (origin : SheetOrigin)
    (kind : Kind) : (linkEnumSources (checked mergeGroups (start sheet origin kind))).shapes =
      (start sheet origin kind).shapes :=
  (keeps_compile mergeGroups sheet origin kind).1.shapes.trans
    (directed_applyDirectives mergeGroups (ownsOrigins_start sheet origin kind)).shapes

/-- A column of a compiled header stands where it was read. -/
theorem exists_read {sheet : Sheet} {origin : SheetOrigin} {kind : Kind}
    (place : (linkEnumSources (checked mergeGroups (start sheet origin kind))).column? slot =
      some column) :
    ∃ read, (read, slot) ∈ (start sheet origin kind).slots ∧ read.shape = column.shape := by
  obtain ⟨read, begun, shape⟩ :=
    Schema.exists_column_of_shapes (shapes_compile mergeGroups sheet origin kind).symm place
  exact ⟨read, List.mk_mem_zipIdx_iff_getElem?.2 begun, shape⟩

theorem start_kept (sheet : Sheet) (origin : SheetOrigin) (kind : Kind) :
    (start sheet origin kind).origin = origin ∧ (start sheet origin kind).name = origin.sheet ∧
      (start sheet origin kind).kind = kind := by
  cases kind
  case merge =>
    rw [start, readTableCells]
    dsimp only [Schema.blank]
    split <;> exact ⟨rfl, rfl, rfl⟩
  all_goals exact ⟨rfl, rfl, rfl⟩

/-- The header of a sheet bears the name and the kind of the sheet, and its origins are named after
its columns. -/
theorem compile?_eq_some {sheet : Sheet} {origin : SheetOrigin}
    (h : compile? sheet origin mergeGroups = some schema) :
    schema.name = origin.sheet ∧ Kind.detect? sheet.grid = some schema.kind ∧
      schema.OwnsOrigins := by
  rw [compile?_eq] at h
  obtain ⟨kind, detected, rfl⟩ := Option.map_eq_some_iff.1 h
  obtain ⟨linked, keeps⟩ := keeps_compile mergeGroups sheet origin kind
  obtain ⟨-, name, same⟩ := start_kept sheet origin kind
  exact ⟨keeps.name.trans name, by rw [keeps.kind, same, detected], linked.ownsOrigins⟩

/-- The grid columns that a header reads stand behind the first one, in their order. -/
theorem gridColumns_readColumns (grid : Grid) :
    ((readColumns grid).map (·.gridColumn)).Sublist (List.range' 1 (grid.width - 1)) := by
  have read : ∀ cols : List Nat, ((cols.filterMap (readColumn? grid)).map
      (·.gridColumn)).Sublist cols := by
    intro cols
    induction cols with
    | nil => exact List.Sublist.refl _
    | cons col cols ih =>
      cases found : readColumn? grid col with
      | none =>
        rw [List.filterMap_cons_none found]
        exact ih.cons col
      | some column =>
        obtain ⟨title, mode, isArray, directives, rfl⟩ := readColumn?_eq_some found
        rw [List.filterMap_cons_some found, List.map_cons]
        exact ih.cons_cons col
  have behind : (List.range grid.width).drop 1 = List.range' 1 (grid.width - 1) := by
    rw [List.range_eq_range', List.drop_range']
  rw [readColumns, behind]
  exact read _

/-- The columns of a header are read from grid columns behind the first one, in their order. -/
theorem gridColumns_of_compile? {sheet : Sheet} {origin : SheetOrigin}
    (h : compile? sheet origin mergeGroups = some schema) :
    (schema.columns.map (·.gridColumn)).Sublist (List.range' 1 (sheet.grid.width - 1)) := by
  rw [compile?_eq] at h
  obtain ⟨kind, -, rfl⟩ := Option.map_eq_some_iff.1 h
  have same := congrArg (List.map Prod.fst) (shapes_compile mergeGroups sheet origin kind)
  rw [Schema.shapes, Schema.shapes, List.map_map, List.map_map] at same
  change List.map Column.gridColumn _ = (readColumns sheet.grid).map Column.gridColumn at same
  rw [same]
  exact gridColumns_readColumns sheet.grid

/-- No two columns of a header are read from one grid column. -/
theorem nodup_gridColumns_of_compile? {sheet : Sheet} {origin : SheetOrigin}
    (h : compile? sheet origin mergeGroups = some schema) :
    (schema.columns.map (·.gridColumn)).Nodup :=
  List.Nodup.sublist (gridColumns_of_compile? h) List.nodup_range'

/-- A header without problems has none as a whole. -/
theorem headerProblems_eq_nil {sheet : Sheet} {origin : SheetOrigin} {kind : Kind}
    (clean : (linkEnumSources (checked mergeGroups (start sheet origin kind))).isClean = true) :
    headerProblems (applyDirectives mergeGroups (start sheet origin kind)) = [] := by
  obtain ⟨linked, -⟩ := keeps_compile mergeGroups sheet origin kind
  have noted := linked.keeps.diagnostics
  rw [List.isEmpty_iff.1 clean] at noted
  exact (List.append_eq_nil_iff.1 (List.prefix_nil.1 noted)).2

/-- A header has none of the problems of a whole header. -/
structure Sound (schema : Schema) : Prop where
  exported : ∃ column ∈ schema.columns, column.isExported = true
  keyed : schema.options.valueOnly = false → schema.key.isSome
  subfolder : schema.subfolder ≠ "" → schema.subfolder.toList.getLast? = some '/'
  columns : ∀ column slot, (column, slot) ∈ schema.slots →
    columnProblems schema.origin ((schema.columns.take slot).map (·.title)) column = []

theorem sound_of_headerProblems (h : headerProblems schema = []) : Sound schema := by
  have empty {fault : Prop} [Decidable fault] {d : Diagnostic}
      (none : (if fault then [d] else []) = ([] : List Diagnostic)) : ¬ fault := by
    intro faulty
    rw [if_pos faulty] at none
    cases none
  simp only [headerProblems, List.append_eq_nil_iff] at h
  obtain ⟨⟨⟨exported, keyed⟩, subfolder⟩, columns⟩ := h
  refine ⟨?_, fun required => ?_, fun inside => ?_, fun column slot place => ?_⟩
  · have some : schema.exported ≠ [] := fun nothing => empty exported (List.isEmpty_iff.2 nothing)
    obtain ⟨⟨column, slot⟩, mem⟩ := List.exists_mem_of_ne_nil _ some
    obtain ⟨place, written⟩ := List.mem_filter.1 mem
    exact ⟨column, List.mem_of_getElem? (column?_of_mem_slots place), written⟩
  · rw [← Option.not_isNone, Bool.not_eq_true']
    have known := empty keyed
    rw [required, Bool.not_false, Bool.and_true] at known
    exact Bool.eq_false_iff.2 known
  · by_contra open_
    refine empty subfolder ?_
    rw [Bool.and_eq_true, Bool.not_eq_true', ← Bool.not_eq_true, String.isEmpty_iff]
    exact ⟨inside, decide_eq_true open_⟩
  · exact List.flatMap_eq_nil_iff.1 columns (column, slot) place

/-- A header without problems uses no title twice. -/
theorem nodup_titles_of_compile? {sheet : Sheet} {origin : SheetOrigin}
    (h : compile? sheet origin mergeGroups = some schema) (clean : schema.isClean = true) :
    (schema.columns.map (·.title)).Nodup := by
  rw [compile?_eq] at h
  obtain ⟨kind, -, rfl⟩ := Option.map_eq_some_iff.1 h
  have sound := sound_of_headerProblems (headerProblems_eq_nil clean)
  have titles : (linkEnumSources (checked mergeGroups (start sheet origin kind))).columns.map
      (·.title) = (applyDirectives mergeGroups (start sheet origin kind)).columns.map (·.title) :=
    map_columns_linkEnumSources (fun _ _ => rfl) _
  rw [titles]
  refine nodup_of_not_mem_take fun slot title place repeated => ?_
  rw [List.getElem?_map] at place
  obtain ⟨column, found, rfl⟩ := Option.map_eq_some_iff.1 place
  have none := sound.columns column slot (List.mk_mem_zipIdx_iff_getElem?.2 found)
  rw [← List.map_take] at repeated
  have twice := List.contains_iff_mem.2 repeated
  simp only [columnProblems, List.append_eq_nil_iff] at none
  rw [if_pos twice] at none
  cases none.1.1.2

theorem parse?_empty : MergeHeader.parse? "" = none := by decide +kernel

theorem mergeGroupName?_of_parse? {text : String} {header : MergeHeader}
    (h : MergeHeader.parse? text = some header) : mergeGroupName? text = some header.name := by
  rw [MergeHeader.parse?] at h
  rw [mergeGroupName?]
  split at h
  next name groupField shardSize pieces =>
    rw [pieces]
    split at h
    · cases h
    next filled =>
      obtain ⟨size, _, rfl⟩ := Option.map_eq_some_iff.1 h
      rw [Bool.or_eq_true, not_or] at filled
      exact if_neg filled.1
  · cases h

/-- The header of a sheet tells where the sheet stands. -/
theorem origin_of_compile? {sheet : Sheet} {origin : SheetOrigin}
    (h : compile? sheet origin mergeGroups = some schema) : schema.origin = origin := by
  rw [compile?_eq] at h
  obtain ⟨kind, -, rfl⟩ := Option.map_eq_some_iff.1 h
  obtain ⟨-, keeps⟩ := keeps_compile mergeGroups sheet origin kind
  exact keeps.origin.trans (start_kept sheet origin kind).1

/-- A merge sheet with a clean header has the tuple of its option cell. -/
theorem tuple_of_compile? {sheet : Sheet} {origin : SheetOrigin}
    (h : compile? sheet origin mergeGroups = some schema) (merge : schema.kind = .merge)
    (clean : schema.isClean = true) : ∃ tuple header,
      sheet.grid.text? directiveRow 0 = some tuple ∧ MergeHeader.parse? tuple = some header ∧
      schema.merge = some header := by
  rw [compile?_eq] at h
  obtain ⟨kind, detected, rfl⟩ := Option.map_eq_some_iff.1 h
  obtain ⟨-, keeps⟩ := keeps_compile mergeGroups sheet origin kind
  obtain rfl : kind = .merge := by
    rw [← (start_kept sheet origin kind).2.2, ← keeps.kind, merge]
  have none : (start sheet origin .merge).diagnostics = [] := by
    have := keeps.diagnostics
    rw [List.isEmpty_iff.1 clean] at this
    exact List.prefix_nil.1 this
  rw [keeps.merge]
  rw [start, readTableCells] at none ⊢
  dsimp only [Schema.blank] at none ⊢
  split at none
  next header parsed =>
    cases cell : sheet.grid.text? directiveRow 0 with
    | none =>
      rw [cell, Option.getD_none, parse?_empty] at parsed
      cases parsed
    | some tuple =>
      rw [cell] at parsed
      exact ⟨tuple, header, rfl, parsed, rfl⟩
  next => cases none

/-- The group that a merge sheet with a clean header names is the one that its tuple starts with. -/
theorem merge_of_compile? {sheet : Sheet} {origin : SheetOrigin}
    (h : compile? sheet origin mergeGroups = some schema) (merge : schema.kind = .merge)
    (clean : schema.isClean = true) : ∃ header, schema.merge = some header ∧
      (sheet.grid.text? directiveRow 0).bind mergeGroupName? = some header.name := by
  obtain ⟨tuple, header, cell, parsed, own⟩ := tuple_of_compile? h merge clean
  refine ⟨header, own, ?_⟩
  rw [cell]
  exact mergeGroupName?_of_parse? parsed

end Header

end DesignTables
