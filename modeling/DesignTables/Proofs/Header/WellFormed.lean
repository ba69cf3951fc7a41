import DesignTables.Proofs.Header.Steps

/-!
# Headers that later stages can rely on

A header without problems has exactly one key, unless its table is a single record; its columns have
types and different titles, and what they are linked to, compared with and looked up in is there. The
table needs enumerations exactly when a column has texts of a group.
-/
namespace DesignTables

/-- What later stages rely on in the header of a table. -/
structure Schema.WellFormed (mergeGroups : List String) (schema : Schema) : Prop where
  /-- The columns that are flagged as key are the key column. -/
  key : (schema.slots.filter (·.1.isKey)).map (·.2) = schema.key.toList
  keyed : schema.options.valueOnly = false → schema.key.isSome
  keyRoles : ∀ column ∈ schema.columns, column.isKey = true →
    column.isUnique = true ∧ column.origin.isSome
  typed : ∀ column ∈ schema.columns, column.dataType.isSome
  titles : (schema.columns.map (·.title)).Nodup
  unspaced : ∀ column ∈ schema.columns, ' ' ∉ column.title.toList
  exported : ∃ column ∈ schema.columns, column.isExported = true
  behindTags : ∀ column ∈ schema.columns, 1 ≤ column.gridColumn
  ascending : (schema.columns.map (·.gridColumn)).Pairwise (· < ·)
  subfolder : schema.subfolder ≠ "" → schema.subfolder.toList.getLast? = some '/'
  tuple : schema.kind = .merge → schema.merge.isSome
  /-- The columns that a column is linked to are there. -/
  links : ∀ column ∈ schema.columns, column.LinksBelow schema.columns.length
  compared : ∀ column ∈ schema.columns, ∀ source ∈ column.arraySizeRef,
    ∃ other, schema.column? source = some other ∧
      (other.tracksLength = true ∨ other.tracksCount = true)
  targets : ∀ column ∈ schema.columns, ∀ target ∈ column.check,
    (target.table ≠ "" ∧ target.field ≠ "") ∧
      if target.table ∈ mergeGroups then target.table ∈ schema.needs.merges
      else target.table ∈ schema.needs.tables
  enums : schema.needs.enums = true ↔
    ∃ column ∈ schema.columns, column.enumGroup.isSome ∨ column.enumGroupRef.isSome

namespace Header

variable {mergeGroups : List String} {schema : Schema} {sheet : Sheet} {origin : SheetOrigin}
  {column : Column} {slot : Nat}

/-- Enumerations are needed only by a column with texts of a group, or by one of the columns read
whose directives name the column of its group. -/
def AsksForEnums (read : List Column) (schema : Schema) : Prop :=
  schema.needs.enums = true → (∃ column ∈ schema.columns, column.enumGroup.isSome) ∨
    ∃ column ∈ read, (enumSource? column).isSome

theorem isSome_enumSource? {title : String} (mem : .enumRef title ∈ directivesOf column) :
    (enumSource? column).isSome := by
  rw [enumSource?, List.getLast?_isSome]
  exact List.ne_nil_of_mem (List.mem_filterMap.2 ⟨_, mem, rfl⟩)

theorem Applied.asksForEnums {read : List Column} {directive : Directive} {after : Schema}
    (h : AsksForEnums read schema) (step : Applied slot schema directive after)
    (inside : slot < schema.columns.length) (known : column ∈ read)
    (mem : directive ∈ directivesOf column) : AsksForEnums read after := by
  have kept {before now : Schema} {place : Nat} {change : Column → Column}
      (own : AsksForEnums read before) (columns : now.columns = before.columns.modify place change)
      (given : ∀ c, c.enumGroup.isSome → (change c).enumGroup.isSome)
      (enums : now.needs.enums = before.needs.enums) : AsksForEnums read now := by
    intro asked
    rw [enums] at asked
    refine (own asked).imp_left ?_
    rintro ⟨c, mem, group⟩
    obtain ⟨i, found⟩ := List.mem_iff_getElem?.1 mem
    have stands := Schema.column?_of_modify columns i
    rw [Schema.column?, Schema.column?, found] at stands
    refine ⟨_, List.mem_of_getElem? stands, ?_⟩
    dsimp only
    split
    · exact given c group
    · exact group
  cases step with
  | skipped columns key needs =>
    intro asked
    rw [columns]
    rw [needs] at asked
    exact h asked
  | key free columns key needs => exact kept h columns (fun _ => id) (by rw [needs])
  | @compared _ _ source note inside columns grows noted key needs =>
    let tracking : Schema := { schema with columns := schema.columns.modify source note }
    have known : AsksForEnums read tracking := kept h rfl (fun c => (grows c).enumGroup) rfl
    exact kept known columns (fun _ => id) (by rw [needs])
  | target named columns key enums => exact kept h columns (fun _ => id) enums
  | grouped columns grows given key =>
    intro _
    have stands := Schema.column?_of_modify columns slot
    rw [Schema.column?, Schema.column?, List.getElem?_eq_getElem inside] at stands
    refine .inl ⟨_, List.mem_of_getElem? stands, ?_⟩
    simpa using given _
  | referred columns grows key => exact fun _ => .inr ⟨column, known, isSome_enumSource? mem⟩
  | plain columns grows key enums => exact kept h columns (fun c => (grows c).enumGroup) enums

theorem asksForEnums_applyDirectives (mergeGroups : List String)
    (h : AsksForEnums schema.columns schema) :
    AsksForEnums schema.columns (applyDirectives mergeGroups schema) := by
  let Kept (now : Schema) : Prop :=
    AsksForEnums schema.columns now ∧ now.columns.length = schema.columns.length
  have begun : Kept schema := ⟨h, rfl⟩
  refine (applyDirectives_induction (P := Kept) begun ?_).1
  rintro now ⟨own, width⟩ column slot mem directive given
  obtain ⟨inside, -⟩ := List.getElem?_eq_some_iff.1 (column?_of_mem_slots mem)
  have read : column ∈ schema.columns := List.mem_of_getElem? (column?_of_mem_slots mem)
  exact ⟨(step_applyDirective directive).applied.asksForEnums own (width ▸ inside) read given,
    (length_applyDirective directive).trans width⟩

theorem enums_start (sheet : Sheet) (origin : SheetOrigin) (kind : Kind) :
    (start sheet origin kind).needs.enums = false := by
  rw [start, readTableCells]
  cases kind
  case merge =>
    dsimp only [Schema.blank]
    split <;> rfl
  all_goals rfl

/-- In a header without problems every column that names the column of its group is linked to it. -/
theorem isSome_enumGroupRef (mem : (column, slot) ∈ schema.slots)
    (asks : (enumSource? column).isSome) (clean : (linkEnumSources schema).diagnostics = []) :
    ∀ c, (linkEnumSources schema).column? slot = some c → c.enumGroupRef.isSome := by
  let Linked (now : Schema) : Prop :=
    now.diagnostics = [] → ∀ c, now.column? slot = some c → c.enumGroupRef.isSome
  suffices linked : Linked (linkEnumSources schema) from linked clean
  obtain ⟨title, source⟩ := Option.isSome_iff_exists.1 asks
  rw [linkEnumSources]
  refine foldl_brings_about (P := Linked) mem ?_ ?_ schema
  · rintro now known ⟨other, place⟩ _
    dsimp only
    split
    · exact known
    · split
      · intro none c found
        rw [Schema.column?_modifyColumn] at found
        obtain ⟨old, stands, rfl⟩ := Option.map_eq_some_iff.1 found
        split
        · rfl
        · exact known none old stands
      · intro none
        cases List.append_eq_nil_iff.1 none |>.2
  · intro now
    dsimp only
    rw [source]
    dsimp only
    split
    · intro _ c found
      rw [Schema.column?_modifyColumn] at found
      obtain ⟨old, _, rfl⟩ := Option.map_eq_some_iff.1 found
      rw [if_pos rfl]
      rfl
    · intro none
      cases List.append_eq_nil_iff.1 none |>.2

/-- The only slot of a list that passes a test is the one that an option holds. -/
theorem filter_zipIdx_eq_toList {α : Type} {xs : List α} {p : α → Bool} {own : Option Nat}
    (inside : ∀ i ∈ own, i < xs.length) (only : ∀ x i, (x, i) ∈ xs.zipIdx → (p x = true ↔ own = some i)) :
    (xs.zipIdx.filter fun given => p given.1).map (·.2) = own.toList := by
  have tests : ∀ given ∈ xs.zipIdx, p given.1 = ((fun i => decide (own = some i)) ∘ Prod.snd) given := by
    rintro ⟨x, i⟩ mem
    rw [Bool.eq_iff_iff, only x i mem]
    exact decide_eq_true_iff.symm
  rw [List.filter_congr tests, ← List.filter_map, List.zipIdx_map_snd]
  cases own with
  | none => exact List.filter_eq_nil_iff.2 fun i _ => by simp
  | some i =>
    have here : i ∈ List.range' 0 xs.length := by
      rw [List.mem_range'_1]
      exact ⟨Nat.zero_le i, by simpa using inside i rfl⟩
    have same : (fun j => decide (some i = some j)) = (· == i) := by
      funext j
      rw [Bool.eq_iff_iff, decide_eq_true_iff, beq_iff_eq]
      exact ⟨fun same => (Option.some.inj same).symm, fun same => congrArg some same.symm⟩
    rw [same, List.filter_beq, List.count_eq_one_of_mem List.nodup_range' here]
    rfl

section

variable (h : compile? sheet origin mergeGroups = some schema)

include h

theorem flagged_of_compile? :
    (schema.slots.filter (·.1.isKey)).map (·.2) = schema.key.toList := by
  refine filter_zipIdx_eq_toList (p := (·.isKey)) (linksInside_of_compile? h).key ?_
  intro column slot place
  exact (declares_of_compile? h).key_iff slot column (column?_of_mem_slots place)

variable (clean : schema.isClean = true)

include clean

theorem typed_of_compile? (mem : column ∈ schema.columns) :
    column.dataType.isSome ∧ ' ' ∉ column.title.toList := by
  rw [compile?_eq] at h
  obtain ⟨kind, -, rfl⟩ := Option.map_eq_some_iff.1 h
  have sound := sound_of_headerProblems (headerProblems_eq_nil clean)
  have known : ∀ c ∈ (checked mergeGroups (start sheet origin kind)).columns,
      c.dataType.isSome ∧ ' ' ∉ c.title.toList := by
    intro c mem
    obtain ⟨slot, place⟩ := List.mem_iff_getElem?.1 mem
    have none := sound.columns c slot (List.mk_mem_zipIdx_iff_getElem?.2 place)
    simp only [columnProblems, List.append_eq_nil_iff] at none
    obtain ⟨⟨⟨unspaced, -⟩, typed⟩, -⟩ := none
    constructor
    · by_contra untyped
      rw [Bool.not_eq_true, Option.isSome_eq_false_iff] at untyped
      rw [if_pos untyped] at typed
      cases typed
    · intro space
      rw [if_pos (List.contains_iff_mem.2 space)] at unspaced
      cases unspaced
  exact forall_linkEnumSources (f := fun c : Column => (c.dataType, c.title))
    (P := fun seen => seen.1.isSome ∧ ' ' ∉ seen.2.toList) (fun _ _ => rfl) known column mem

theorem exported_of_compile? : ∃ column ∈ schema.columns, column.isExported = true := by
  rw [compile?_eq] at h
  obtain ⟨kind, -, rfl⟩ := Option.map_eq_some_iff.1 h
  have sound := sound_of_headerProblems (headerProblems_eq_nil clean)
  obtain ⟨column, mem, written⟩ := sound.exported
  have seen : column.mode ∈ (linkEnumSources
      (checked mergeGroups (start sheet origin kind))).columns.map (·.mode) := by
    rw [map_columns_linkEnumSources (fun _ _ => rfl)]
    exact List.mem_map_of_mem mem
  obtain ⟨after, place, same⟩ := List.mem_map.1 seen
  exact ⟨after, place, by rw [Column.isExported, same]; exact written⟩

theorem subfolder_of_compile? (inside : schema.subfolder ≠ "") :
    schema.subfolder.toList.getLast? = some '/' := by
  rw [compile?_eq] at h
  obtain ⟨kind, -, rfl⟩ := Option.map_eq_some_iff.1 h
  have sound := sound_of_headerProblems (headerProblems_eq_nil clean)
  rw [subfolder_linkEnumSources] at inside ⊢
  exact sound.subfolder inside

/-- A table with a header without problems needs enumerations only for columns with texts of a
group. -/
theorem enums_of_compile? (asked : schema.needs.enums = true) :
    ∃ column ∈ schema.columns, column.enumGroup.isSome ∨ column.enumGroupRef.isSome := by
  rw [compile?_eq] at h
  obtain ⟨kind, -, rfl⟩ := Option.map_eq_some_iff.1 h
  have begun : AsksForEnums (start sheet origin kind).columns (start sheet origin kind) := by
    intro asked
    rw [enums_start] at asked
    cases asked
  rw [needs_linkEnumSources] at asked
  rcases asksForEnums_applyDirectives mergeGroups begun asked with grouped | asks
  · obtain ⟨column, mem, group⟩ := grouped
    have seen : column.enumGroup ∈ (linkEnumSources
        (checked mergeGroups (start sheet origin kind))).columns.map (·.enumGroup) := by
      rw [map_columns_linkEnumSources (fun _ _ => rfl)]
      exact List.mem_map_of_mem mem
    obtain ⟨after, place, same⟩ := List.mem_map.1 seen
    exact ⟨after, place, .inl (by rw [same]; exact group)⟩
  · -- The column that names the column of its group stands where it was read.
    obtain ⟨read, mem, asks⟩ := asks
    obtain ⟨slot, place⟩ := List.mem_iff_getElem?.1 mem
    have directed := directed_applyDirectives mergeGroups (ownsOrigins_start sheet origin kind)
    have shapes : (checked mergeGroups (start sheet origin kind)).shapes =
      (start sheet origin kind).shapes := directed.shapes
    obtain ⟨column, stands, shape⟩ := Schema.exists_column_of_shapes shapes place
    rw [← enumSource?_of_shape shape] at asks
    obtain ⟨linked, -⟩ := keeps_compile mergeGroups sheet origin kind
    obtain ⟨after, found, -⟩ := Schema.exists_column_of_shapes linked.shapes stands
    exact ⟨after, List.mem_of_getElem? found, .inr <| isSome_enumGroupRef
      (List.mk_mem_zipIdx_iff_getElem?.2 stands) asks (List.isEmpty_iff.1 clean) after found⟩

end

/-- A header without problems is one that later stages can rely on. -/
theorem wellFormed_of_compile? (h : compile? sheet origin mergeGroups = some schema)
    (clean : schema.isClean = true) : schema.WellFormed mergeGroups := by
  have declares := declares_of_compile? h
  have links := linksInside_of_compile? h
  have needs := knowsNeeds_compile? h
  have gridColumns := gridColumns_of_compile? h
  refine
    { key := flagged_of_compile? h
      keyed := isSome_key_of_compile? h clean
      keyRoles := declares.keys
      typed := fun column mem => (typed_of_compile? h clean mem).1
      titles := nodup_titles_of_compile? h clean
      unspaced := fun column mem => (typed_of_compile? h clean mem).2
      exported := exported_of_compile? h clean
      behindTags := fun column mem => ?_
      ascending := (List.pairwise_lt_range' 1).sublist gridColumns
      subfolder := subfolder_of_compile? h clean
      tuple := fun merge => ?_
      links := links.columns
      compared := declares.compared
      targets := fun column mem target named => ⟨declares.targets column mem target named, ?_⟩
      enums := ⟨enums_of_compile? h clean, ?_⟩ }
  · have inside := gridColumns.subset (List.mem_map_of_mem mem)
    exact (List.mem_range'_1.1 inside).1
  · obtain ⟨_, header, -, -, own⟩ := tuple_of_compile? h merge clean
    rw [own]
    rfl
  · have covered := needs column mem
    split
    next group => exact covered.merges target named (List.contains_iff_mem.2 group)
    next plain =>
      refine covered.tables target named ?_
      rw [← Bool.not_eq_true, List.contains_iff_mem]
      exact plain
  · rintro ⟨column, mem, isEnum⟩
    refine (needs column mem).enums ?_
    rwa [Column.isEnum, Bool.or_eq_true]

/-- Stock with a key, texts of a group and of groups that a column names, values looked up in a table
and in a merge group, and labels compared with weights. -/
def stock : Sheet :=
  ⟨"stock", Grid.ofTexts [["stock/"],
    ["#data", "id", "grade", "group", "level", "item", "stage", "weights[]", "labels[]"],
    ["", "key,int", "type<grade>", "string", "typeref<group>", "int,check<item/id>",
      "int,check<stage/id>", "float,change<id>", "string,arraysizeref<weights>"],
    ["", "data", "data", "check", "data", "data", "data", "data", "data"]]⟩

set_option maxRecDepth 100000 in
/-- The table of the stock needs enumerations, the items and the stages. -/
theorem wellFormed_stock : ∃ schema,
    compile? stock ⟨"design", "stock.xlsx", "stock"⟩ ["stage"] = some schema ∧
    schema.isClean = true ∧ schema.WellFormed ["stage"] ∧ schema.key = some 0 ∧
    schema.subfolder = "stock/" ∧ schema.needs.enums = true ∧ schema.needs.tables = ["item"] ∧
    schema.needs.merges = ["stage"] := by
  have found : (compile? stock ⟨"design", "stock.xlsx", "stock"⟩ ["stage"]).isSome := by
    decide +kernel
  obtain ⟨schema, compiled⟩ := Option.isSome_iff_exists.1 found
  have facts : ∀ schema ∈ compile? stock ⟨"design", "stock.xlsx", "stock"⟩ ["stage"],
      schema.isClean = true ∧ schema.key = some 0 ∧ schema.subfolder = "stock/" ∧
      schema.needs.enums = true ∧ schema.needs.tables = ["item"] ∧
      schema.needs.merges = ["stage"] := by decide +kernel
  obtain ⟨clean, rest⟩ := facts schema compiled
  exact ⟨schema, compiled, clean, wellFormed_of_compile? compiled clean, rest⟩

end Header

end DesignTables
