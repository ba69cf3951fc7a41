import DesignTables.Proofs.Header.WellFormed

/-!
# The roles of a column that rule out empty values

A `null` directive is never taken back, so a header without problems has none on a column with texts
of a group, an origin, unique values or the key, whatever the order of columns and directives. Only
texts of a group that another column names pass the check, as that column is linked after it.
-/
namespace DesignTables

/-- What the last step of a header leaves alone of a column: whether it may be empty, and the roles
that rule out empty values. -/
def Column.roles (column : Column) : Bool × List FilledRole :=
  (column.nullAllowed, Header.filledRoles column)

/-- The column in a slot has no role that rules out empty values. -/
structure Schema.MayBeEmptyAt (schema : Schema) (slot : Nat) (column : Column) : Prop where
  isEnum : column.isEnum = false
  origin : column.origin = none
  isUnique : column.isUnique = false
  key : schema.key ≠ some slot

/-- No column with a `null` directive has a role that rules out empty values. -/
def Schema.RefusesNulls (schema : Schema) : Prop :=
  ∀ column slot, (column, slot) ∈ schema.slots → .null ∈ Header.directivesOf column →
    schema.MayBeEmptyAt slot column

namespace Header

variable {mergeGroups : List String} {schema : Schema} {sheet : Sheet} {origin : SheetOrigin}
  {column : Column} {slot : Nat}

/-- A header without problems allows empty values in no column whose role rules them out. -/
theorem filledRoles_eq_nil_of_compile? (h : compile? sheet origin mergeGroups = some schema)
    (clean : schema.isClean = true) (mem : column ∈ schema.columns)
    (nullable : column.nullAllowed = true) : filledRoles column = [] := by
  rw [compile?_eq] at h
  obtain ⟨kind, -, rfl⟩ := Option.map_eq_some_iff.1 h
  have sound := sound_of_headerProblems (headerProblems_eq_nil clean)
  have known : ∀ c ∈ (checked mergeGroups (start sheet origin kind)).columns,
      c.nullAllowed = true → filledRoles c = [] := by
    intro c mem nullable
    obtain ⟨slot, place⟩ := List.mem_iff_getElem?.1 mem
    have none := sound.columns c slot (List.mk_mem_zipIdx_iff_getElem?.2 place)
    simp only [columnProblems, List.append_eq_nil_iff] at none
    rw [if_pos nullable] at none
    exact List.map_eq_nil_iff.1 none.2
  exact forall_linkEnumSources (f := Column.roles)
    (P := fun seen => seen.1 = true → seen.2 = []) (fun _ _ => rfl) known column mem nullable

/-- A header without problems allows no empty key. -/
theorem nullAllowed_of_key (h : compile? sheet origin mergeGroups = some schema)
    (clean : schema.isClean = true) (key : schema.key = some slot)
    (place : (column, slot) ∈ schema.slots) : column.nullAllowed = false := by
  by_contra nullable
  rw [Bool.not_eq_false] at nullable
  have flagged : column.isKey = true :=
    ((declares_of_compile? h).key_iff slot column (column?_of_mem_slots place)).2 key
  have none := filledRoles_eq_nil_of_compile? h clean
    (List.mem_of_getElem? (column?_of_mem_slots place)) nullable
  simp [filledRoles, flagged] at none

/-- Where a column may be empty it still may after any directive of any column. -/
theorem nullAllowed_applyDirective {other : Column} {place : Nat} (directive : Directive)
    (known : ∀ c, schema.column? slot = some c → c.nullAllowed = true) :
    ∀ c, (applyDirective mergeGroups other place schema directive).column? slot = some c →
      c.nullAllowed = true := by
  intro c found
  by_cases null : directive = .null
  · subst null
    rw [applyDirective, Schema.column?_modifyColumn] at found
    obtain ⟨old, stands, rfl⟩ := Option.map_eq_some_iff.1 found
    split
    · rfl
    · exact known old stands
  · have same : (applyDirective mergeGroups other place schema directive).columns.map
        (·.nullAllowed) = schema.columns.map (·.nullAllowed) :=
      map_columns_applyDirective directive fun _ _ _ _ kept => kept.resolve_left null
    obtain ⟨old, stands, allowed⟩ := Schema.exists_column_of_view same.symm found
    rw [← allowed]
    exact known old stands

theorem nullAllowed_applyDirectives (mem : (column, slot) ∈ schema.slots)
    (null : .null ∈ directivesOf column) :
    ∀ c, (applyDirectives mergeGroups schema).column? slot = some c → c.nullAllowed = true := by
  refine applyDirectives_brings_about
    (P := fun now => ∀ c, now.column? slot = some c → c.nullAllowed = true) mem null
    (fun _ known _ _ later => nullAllowed_applyDirective later known) ?_
  intro now c found
  rw [applyDirective, Schema.column?_modifyColumn] at found
  obtain ⟨old, -, rfl⟩ := Option.map_eq_some_iff.1 found
  rw [if_pos rfl]

theorem enumGroupRef_applyDirectives (mergeGroups : List String) (schema : Schema) :
    (applyDirectives mergeGroups schema).columns.map (·.enumGroupRef) =
      schema.columns.map (·.enumGroupRef) :=
  applyDirectives_induction
    (P := fun now => now.columns.map (·.enumGroupRef) = schema.columns.map (·.enumGroupRef)) rfl
    fun _ same _ _ _ directive _ =>
      (map_columns_applyDirective directive fun _ _ _ link _ => link).trans same

/-- Where no column was linked to the column of its group, only those that name it are afterwards. -/
theorem isSome_enumSource?_of_linked (plain : ∀ c ∈ schema.columns, c.enumGroupRef = none) :
    ∀ c ∈ (linkEnumSources schema).columns, c.enumGroupRef.isSome → (enumSource? c).isSome := by
  let Linked (now : Schema) : Prop := now.shapes = schema.shapes ∧
    ∀ c ∈ now.columns, c.enumGroupRef.isSome → (enumSource? c).isSome
  have begun : Linked schema := by
    refine ⟨rfl, fun c mem linked => ?_⟩
    rw [plain c mem] at linked
    cases linked
  refine (linkEnumSources_induction (P := Linked) begun ?_ fun now known _ _ => known).2
  rintro now ⟨shapes, known⟩ column slot title source mem asks _
  refine ⟨(shapes_modifyColumn now slot (by exact fun _ => rfl)).trans shapes, ?_⟩
  intro c mem' linked
  rcases mem_modify mem' with before | ⟨old, stands, rfl⟩
  · exact known c before linked
  · -- The column that is linked is the one that was read, but for its directives' effects.
    obtain ⟨read, place, shape⟩ := Schema.exists_column_of_shapes shapes.symm stands
    obtain rfl := Option.some.inj ((column?_of_mem_slots mem).symm.trans place)
    change (enumSource? old).isSome
    rw [← enumSource?_of_shape shape, asks]
    rfl

theorem isSome_enumSource?_iff :
    (enumSource? column).isSome ↔ ∃ title, .enumRef title ∈ directivesOf column := by
  refine ⟨fun asks => ?_, fun ⟨_, mem⟩ => isSome_enumSource? mem⟩
  obtain ⟨title, source⟩ := Option.isSome_iff_exists.1 asks
  exact ⟨title, mem_directivesOf_of_enumSource? source⟩

section

variable (h : compile? sheet origin mergeGroups = some schema)

include h

/-- A column with a `null` directive may be empty, whatever problems its header has. -/
theorem nullAllowed_of_null (mem : (column, slot) ∈ schema.slots)
    (null : .null ∈ directivesOf column) : column.nullAllowed = true := by
  rw [compile?_eq] at h
  obtain ⟨kind, -, rfl⟩ := Option.map_eq_some_iff.1 h
  have place := column?_of_mem_slots mem
  obtain ⟨read, begun, shape⟩ := exists_read place
  rw [← directivesOf_of_shape shape] at null
  obtain ⟨before, stands, same⟩ := Schema.exists_column_of_view
    (map_columns_linkEnumSources (f := (·.nullAllowed)) (fun _ _ => rfl) _).symm place
  rw [← same]
  exact nullAllowed_applyDirectives begun null before stands

/-- A header without problems links a column to the column of its group exactly where a directive
names that. -/
theorem isSome_enumGroupRef_iff (clean : schema.isClean = true)
    (mem : (column, slot) ∈ schema.slots) :
    column.enumGroupRef.isSome ↔ ∃ title, .enumRef title ∈ directivesOf column := by
  rw [← isSome_enumSource?_iff]
  rw [compile?_eq] at h
  obtain ⟨kind, -, rfl⟩ := Option.map_eq_some_iff.1 h
  have place := column?_of_mem_slots mem
  constructor
  · have plain : ∀ c ∈ (checked mergeGroups (start sheet origin kind)).columns,
        c.enumGroupRef = none := by
      intro c mem
      have seen := List.mem_map_of_mem (f := (·.enumGroupRef)) mem
      change c.enumGroupRef ∈ (applyDirectives mergeGroups (start sheet origin kind)).columns.map
        (·.enumGroupRef) at seen
      rw [enumGroupRef_applyDirectives] at seen
      obtain ⟨begun, mem, same⟩ := List.mem_map.1 seen
      obtain ⟨col, title, mode, isArray, directives, rfl⟩ := eq_plain_of_mem_start mem
      exact same.symm
    exact isSome_enumSource?_of_linked plain column (List.mem_of_getElem? place)
  · intro asks
    obtain ⟨linked, -⟩ := keeps_compile mergeGroups sheet origin kind
    obtain ⟨before, stands, shape⟩ := Schema.exists_column_of_shapes linked.shapes.symm place
    rw [← enumSource?_of_shape shape] at asks
    exact isSome_enumGroupRef (List.mk_mem_zipIdx_iff_getElem?.2 stands) asks
      (List.isEmpty_iff.1 clean) column place

/-- A header without problems allows no empty values in a column with texts of a fixed group, an
origin, unique values or the key. -/
theorem plain_of_null (clean : schema.isClean = true) (mem : (column, slot) ∈ schema.slots)
    (null : .null ∈ directivesOf column) : column.enumGroup = none ∧ column.origin = none ∧
      column.isUnique = false ∧ schema.key ≠ some slot := by
  have allowed := nullAllowed_of_null h mem null
  have none := filledRoles_eq_nil_of_compile? h clean
    (List.mem_of_getElem? (column?_of_mem_slots mem)) allowed
  refine ⟨?_, ?_, ?_, fun key => ?_⟩
  · by_contra group
    simp [filledRoles, ← Option.isSome_iff_ne_none.2 group] at none
  · by_contra named
    simp [filledRoles, Option.isSome_iff_ne_none.2 named] at none
  · by_contra unique
    simp [filledRoles, unique] at none
  · rw [nullAllowed_of_key h clean key mem] at allowed
    cases allowed

/-- A header without problems refuses `null` in every role that rules it out exactly if no column with
that directive names the column of its group; all the other roles it refuses in any case. -/
theorem refusesNulls_iff (clean : schema.isClean = true) :
    (schema.RefusesNulls ↔ ∀ column ∈ schema.columns, .null ∈ directivesOf column →
      ∀ title, .enumRef title ∉ directivesOf column) ∧
    ∀ column slot, (column, slot) ∈ schema.slots → .null ∈ directivesOf column →
      column.enumGroup = none ∧ column.origin = none ∧ column.isUnique = false ∧
        schema.key ≠ some slot := by
  refine ⟨⟨fun refused column mem null title names => ?_, fun apart column slot mem null => ?_⟩,
    fun column slot mem null => plain_of_null h clean mem null⟩
  · obtain ⟨slot, place⟩ := exists_mem_zipIdx mem
    have linked := (isSome_enumGroupRef_iff h clean place).2 ⟨title, names⟩
    have isEnum := (refused column slot place null).isEnum
    rw [Column.isEnum, linked, Bool.or_true] at isEnum
    cases isEnum
  · obtain ⟨group, named, unique, key⟩ := plain_of_null h clean mem null
    have unlinked : column.enumGroupRef.isSome = false := by
      rw [← Bool.not_eq_true, isSome_enumGroupRef_iff h clean mem]
      rintro ⟨title, names⟩
      exact apart column (List.mem_of_getElem? (column?_of_mem_slots mem)) null title names
    exact ⟨by rw [Column.isEnum, group, unlinked]; rfl, named, unique, key⟩

end

/-- Animals with a group that a column names, and a note that may be empty. -/
def animals : Sheet :=
  ⟨"animals", Grid.ofTexts [[], ["#data", "id", "kind", "breed", "note"],
    ["", "key,int", "string", "typeref<kind>", "null,string"], ["", "data", "data", "data", "data"]]⟩

set_option maxRecDepth 100000 in
/-- The animals refuse empty values wherever they should: only the note may be empty. -/
theorem refusesNulls_animals : ∃ schema,
    compile? animals ⟨"design", "animals.xlsx", "animals"⟩ [] = some schema ∧
    schema.isClean = true ∧ schema.RefusesNulls ∧
    ∃ column ∈ schema.columns, .null ∈ directivesOf column := by
  have found : (compile? animals ⟨"design", "animals.xlsx", "animals"⟩ []).isSome := by
    decide
  obtain ⟨schema, compiled⟩ := Option.isSome_iff_exists.1 found
  have facts : ∀ schema ∈ compile? animals ⟨"design", "animals.xlsx", "animals"⟩ [],
      schema.isClean = true ∧ (∃ column ∈ schema.columns, .null ∈ directivesOf column) ∧
      ∀ column ∈ schema.columns, .null ∈ directivesOf column →
        (enumSource? column).isSome = false := by decide
  obtain ⟨clean, some, unlinked⟩ := facts schema compiled
  refine ⟨schema, compiled, clean, (refusesNulls_iff compiled clean).1.2 ?_, some⟩
  intro column mem null title names
  have asks := isSome_enumSource? names
  rw [unlinked column mem null] at asks
  cases asks

/-- Pets whose breed may be empty although the column of its group is named. -/
def pets : Sheet :=
  ⟨"pets", Grid.ofTexts [[], ["#data", "id", "kind", "breed"],
    ["", "key,int", "string", "typeref<kind>,null"], ["", "data", "data", "data"]]⟩

set_option maxRecDepth 100000 in
/-- The breed of a pet is a text of a group and may be empty, and nothing is wrong with its header. -/
theorem not_refusesNulls_pets : ∃ schema,
    compile? pets ⟨"design", "pets.xlsx", "pets"⟩ [] = some schema ∧ schema.isClean = true ∧
    ¬ schema.RefusesNulls := by
  have found : (compile? pets ⟨"design", "pets.xlsx", "pets"⟩ []).isSome := by decide
  obtain ⟨schema, compiled⟩ := Option.isSome_iff_exists.1 found
  have facts : ∀ schema ∈ compile? pets ⟨"design", "pets.xlsx", "pets"⟩ [],
      schema.isClean = true ∧ ∃ given ∈ schema.slots, .null ∈ directivesOf given.1 ∧
        given.1.isEnum = true := by decide
  obtain ⟨clean, ⟨column, slot⟩, mem, null, isEnum⟩ := facts schema compiled
  refine ⟨schema, compiled, clean, fun refused => ?_⟩
  have never := (refused column slot mem null).isEnum
  rw [isEnum] at never
  cases never

end Header

end DesignTables
