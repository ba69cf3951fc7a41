import DesignTables.Proofs.Catalog.Library
import DesignTables.Proofs.Compile.Loaded
import DesignTables.Proofs.Validation.Writing

/-!
# What a reference is written as, beside what the referenced table writes

The index links a value of an origin to the text that its `change` source was read with, or to
itself where that is empty. The table itself writes the origin column with what its checks make of
the source. The two agree where the checks leave the source as it was read.
-/
namespace DesignTables

namespace ValidationTarget

variable {target : ValidationTarget} {ctx : ValidationContext} {row : TableRow}
  {position slot : Nat} {column : Column}

/-- The checks of a cell leave it with the value that was read. -/
def Leaves (target : ValidationTarget) (ctx : ValidationContext) (row : TableRow)
    (position slot : Nat) : Prop :=
  (TableValidation.resolvedAt target ctx row position slot).getD (row.value slot) = row.value slot

instance (position slot : Nat) : Decidable (target.Leaves ctx row position slot) := by
  unfold Leaves
  infer_instance

/-- An origin column is written in a row with what the row was read with: the value itself, or the
value of the `change` source where that has one. The source takes no other value before the column
takes its own. -/
def WritesRead (target : ValidationTarget) (ctx : ValidationContext) (column : Column) (slot : Nat)
    (row : TableRow) (position : Nat) : Prop :=
  match column.change with
  | none => target.Leaves ctx row position slot
  | some source =>
    (row.value source = "" → row.value slot = "") ∧ target.Leaves ctx row position source ∧
      (source < slot → ∀ given ∈ target.schema.column? source, given.change = none)

instance (position : Nat) : Decidable (target.WritesRead ctx column slot row position) := by
  unfold WritesRead
  split <;> infer_instance

/-- Such a column is written with what it is indexed to. -/
theorem WritesRead.value_eq (h : target.WritesRead ctx column slot row position)
    (numbers : (target.rows.map (·.row)).Nodup) (stored : (row, position) ∈ target.rows.zipIdx)
    (place : target.schema.column? slot = some column) :
    ((TableValidation.ofTarget target ctx).overlay.get? target.schema.name row.row slot).getD
        (row.value slot) = RowIngest.indexedValue column row (row.value slot) := by
  rw [WritesRead] at h
  cases change : column.change with
  | none =>
    rw [change, Leaves, TableValidation.resolvedAt, place, Option.bind_some] at h
    rw [TableValidation.get?_ofTarget_of_plain numbers stored place change, h,
      RowIngest.indexedValue, change]
    rfl
  | some source =>
    rw [change] at h
    obtain ⟨filled, leaves, settled⟩ := h
    rw [TableValidation.get?_ofTarget_of_change numbers stored place change
      fun given known before => settled before given known, Option.getD_some, leaves,
      RowIngest.indexedValue, change, Option.map_some, Option.getD_some]
    split
    · next empty =>
      have empty := String.isEmpty_iff.1 empty
      rw [empty, filled empty]
    · rfl

end ValidationTarget

namespace Run

variable {ctx : RunContext} {validated : Validated}

/-- No other column of a loaded table is indexed under the origin of a column. -/
def SoleOrigin (state : CompileState) (target : ValidationTarget) (slot : Nat) (origin : String) :
    Prop :=
  ∀ other ∈ state.loadedTargets, ∀ given ∈ other.schema.slots,
    given.1.origin.map Text.lower = some origin → other = target ∧ given.2 = slot

/-- What a value resolves to that stands in one column alone: what the first row says that has it
there. -/
theorem resolve?_of_soleOrigin (h : (ofContext ctx).validated = some validated)
    {target : ValidationTarget} (mem : target ∈ ctx.mergedState.loadedTargets) {column : Column}
    {slot : Nat} (place : (column, slot) ∈ target.schema.slots) {origin : String}
    (declared : column.origin.map Text.lower = some origin)
    (sole : SoleOrigin validated.state target slot origin) (raw : String) :
    validated.state.references.resolve? origin raw =
      (target.rows.find? (·.value slot == raw)).map fun row =>
        RowIngest.indexedValue column row raw := by
  obtain ⟨reaches, same⟩ := validated_eq_some_iff.1 h
  obtain ⟨references, loaded⟩ := same ▸ Validated.ofState_loaded ctx.mergedState
  rw [SoleOrigin, loaded] at sole
  rw [references, RunContext.resolve?_loadedTargets reaches.toIngests, findSome?_only mem]
  · exact RowIngest.resolve?_originsOf place declared
      (fun given known named => (sole target mem given known named).2) _ _
  · intro other known apart
    rw [← Option.not_isSome_iff_eq_none]
    intro found
    obtain ⟨given, inside, named⟩ := ValidationTarget.exists_origin found
    exact apart (sole other known given inside named).1

/-- What a value of a column is written as, next to what it resolves to: where its `change` source
is empty it resolves to itself, and where the first row with the value writes the column with what it
was read with, it resolves to what that row writes. -/
def WritesAs (validated : Validated) (target : ValidationTarget) (column : Column) (slot : Nat)
    (raw resolved : String) : Prop :=
  ∃ row position, (row, position) ∈ target.rows.zipIdx ∧
    target.rows.find? (·.value slot == raw) = some row ∧
    (∀ source, column.change = some source → row.value source = "" → resolved = raw) ∧
    (validated.NamesOnce target.schema.name →
      target.WritesRead validated.state.validationContext column slot row position →
        resolved = (target.written (validated.changedOf target.schema.name)).valueOf
          validated.overlay row slot)

/-- In a run that writes, what a value of an origin column resolves to is what the column's own table
writes, where no other column has its origin. -/
theorem resolves_as_written (h : (ofContext ctx).stage = .emit) :
    ∃ validated, (ofContext ctx).validated = some validated ∧
      ∀ target ∈ validated.state.targets,
        ∀ column slot, (column, slot) ∈ target.schema.slots → column.origin.isSome →
          SoleOrigin validated.state target slot (originName target.schema.name column.title) →
          ∀ raw resolved, validated.state.references.resolve?
              (originName target.schema.name column.title) raw = some resolved →
            WritesAs validated target column slot raw resolved := by
  have reaches := (stage_eq_emit_iff.1 h).1
  obtain ⟨validated, found⟩ : ∃ validated, (ofContext ctx).validated = some validated :=
    ⟨_, validated_eq_some_iff.2 ⟨reaches, rfl⟩⟩
  refine ⟨validated, found, fun target mem column slot place origin sole raw resolved resolves => ?_⟩
  have known : target ∈ ctx.mergedState.loadedTargets := Validated.mem_loadedTargets found mem
  have here : target.schema.column? slot = some column := Header.column?_of_mem_slots place
  have declared : column.origin.map Text.lower =
      some (originName target.schema.name column.title) := by
    obtain ⟨name, named⟩ := Option.isSome_iff_exists.1 origin
    have own := RunContext.ownsOrigins reaches.toIngests known column (List.mem_of_getElem? here)
      name named
    rw [named, Option.map_some, own, originName, Text.lower_lower]
  rw [resolve?_of_soleOrigin found known place declared sole] at resolves
  obtain ⟨row, first, rfl⟩ := Option.map_eq_some_iff.1 resolves
  obtain ⟨position, stored⟩ := exists_mem_zipIdx (List.mem_of_find?_eq_some first)
  have value : row.value slot = raw := by simpa using List.find?_some first
  refine ⟨row, position, stored, first, fun source change empty => ?_, fun once writes => ?_⟩
  · rw [RowIngest.indexedValue, change, Option.map_some, Option.getD_some, empty]
    rfl
  · have numbers := RunContext.nodup_numbers reaches.toIngests known
    rw [OutputTable.valueOf, Validated.name_written, Validated.get?_overlay found mem once,
      Validated.resultOf, writes.value_eq numbers stored here, value]

instance (state : CompileState) (target : ValidationTarget) (slot : Nat) (origin : String) :
    Decidable (SoleOrigin state target slot origin) := by
  unfold SoleOrigin
  infer_instance

open Library

/-- Items with an alias, where they have one. -/
def aliases : RunContext :=
  runOver [tableBook "item" [("name", "string,origin,change<alias>"), ("alias", "string")]
    [["1", "ant", "Formica"], ["2", "bee", ""]]]

set_option maxRecDepth 100000 in
/-- An item with an alias resolves to it, and is written with it. -/
theorem resolves_as_written_aliases :
    (ofContext aliases).stage = .emit ∧
      ∃ validated, (ofContext aliases).validated = some validated ∧
        ∃ target ∈ validated.state.targets, ∃ given ∈ target.schema.slots,
          given.1.title = "name" ∧ SoleOrigin validated.state target given.2 "item/name" ∧
          validated.NamesOnce "item" ∧
          (∃ stored ∈ target.rows.zipIdx, stored.1.value given.2 = "ant" ∧
            target.WritesRead validated.state.validationContext given.1 given.2 stored.1 stored.2) ∧
          WritesAs validated target given.1 given.2 "ant" "Formica" := by
  have emits : (ofContext aliases).stage = .emit := by decide
  obtain ⟨validated, found, writes⟩ := resolves_as_written emits
  have known : ∀ validated ∈ (ofContext aliases).validated,
      ∃ target ∈ validated.state.targets, ∃ given ∈ target.schema.slots,
        given.1.origin.isSome ∧ originName target.schema.name given.1.title = "item/name" ∧
        given.1.title = "name" ∧ SoleOrigin validated.state target given.2 "item/name" ∧
        validated.NamesOnce "item" ∧
        (∃ stored ∈ target.rows.zipIdx, stored.1.value given.2 = "ant" ∧
          target.WritesRead validated.state.validationContext given.1 given.2 stored.1 stored.2) ∧
        validated.state.references.resolve? "item/name" "ant" = some "Formica" := by
    decide
  obtain ⟨target, mem, ⟨column, slot⟩, place, origin, named, title, sole, once, stored, resolves⟩ :=
    known validated found
  exact ⟨emits, validated, found, target, mem, (column, slot), place, title, sole, once, stored,
    writes target mem column slot place origin (named ▸ sole) _ _ (named ▸ resolves)⟩

/-- In a run that writes, a value of an origin column that no other loaded table has resolves to what
is written for the column in the first row with the value. -/
def ResolvesAsWritten (ctx : RunContext) : Prop :=
  (ofContext ctx).stage = .emit → ∀ validated ∈ (ofContext ctx).validated,
    ∀ target ∈ validated.state.targets, ∀ given ∈ target.schema.slots, given.1.origin.isSome →
      (∀ other ∈ validated.state.loadedTargets, ∀ column ∈ other.schema.columns,
        column.origin.map Text.lower = some (originName target.schema.name given.1.title) →
          other = target) →
      ∀ row ∈ target.rows,
        target.rows.find? (·.value given.2 == row.value given.2) = some row →
        ∀ resolved ∈ validated.state.references.resolve?
            (originName target.schema.name given.1.title) (row.value given.2),
          resolved = (target.written (validated.changedOf target.schema.name)).valueOf
            validated.overlay row given.2

instance (ctx : RunContext) : Decidable (ResolvesAsWritten ctx) := by
  unfold ResolvesAsWritten
  exact instDecidableForall

set_option maxRecDepth 100000 in
/-- A value does not resolve to what is written where its `change` source, or the column itself, is
an enumeration, where the source is empty, where the source takes its value from another one first,
where the table has the column's origin twice, and where another validated table bears the name. -/
theorem not_resolvesAsWritten :
    ¬ ResolvesAsWritten (runOver [colorBook "1",
      tableBook "item" [("name", "string,origin,change<color>"), ("color", "type<color>")]
        [["1", "ant", "red"]]]) ∧
    ¬ ResolvesAsWritten (runOver [colorBook "1", tableBook "item" [("color", "type<color>,origin")]
      [["1", "red"]]]) ∧
    ¬ ResolvesAsWritten (runOver [tableBook "item" [("name", "string,origin,change<alias>"),
      ("alias", "string")] [["1", "ant", ""]]]) ∧
    ¬ ResolvesAsWritten (runOver [tableBook "item" [("part", "string,change<whole>"),
      ("name", "string,origin,change<part>"), ("whole", "string")]
        [["1", "leg", "ant", "body"]]]) ∧
    ¬ ResolvesAsWritten (runOver [tableBook "item" [("ID", "int,origin,change<name>"),
      ("name", "string")] [["1", "2", "ant"], ["2", "1", "bee"]]]) ∧
    ¬ ResolvesAsWritten (runOver [
      bookOf "a.xlsx" [sheetOf "g" "#data" "" [("id", "key,string"), ("tag", "string,origin")]
        [["a", "x"]]],
      bookOf "b.xlsx" [sheetOf "p" "#merge" "g,id,0"
        [("id", "key,string"), ("tag", "string,change<id>")]
        [["k", "x"], ["l", "x"], ["m", "x"], ["n", "x"]]]]) := by
  refine ⟨?_, ?_, ?_, ?_, ?_, ?_⟩ <;> decide +kernel

end Run

end DesignTables
