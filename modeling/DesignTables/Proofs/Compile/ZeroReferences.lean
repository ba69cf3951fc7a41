import DesignTables.Proofs.Compile.Integrity
import DesignTables.Proofs.Compile.Loaded
import DesignTables.Proofs.Ingest.Readings
import DesignTables.Proofs.Merge.References

/-!
# Zeros that stand for no reference

A zero in a column of whole or floating numbers is never looked up. The column that it would refer to
is, though, and the index knows a column by its values alone: a table without rows leaves no trace in
it. So a zero has the problem that its column does not exist exactly when every loaded table that
declares this column is without rows.
-/
namespace DesignTables

/-- A table declares the column that a reference names. -/
def ValidationTarget.Declares (target : ValidationTarget) (reference : ReferenceTarget) : Prop :=
  ∃ column ∈ target.schema.columns, column.origin.isSome ∧
    Text.lower (target.schema.name ++ "/" ++ column.title) = reference.originName

instance (target : ValidationTarget) (reference : ReferenceTarget) :
    Decidable (target.Declares reference) := by
  unfold ValidationTarget.Declares
  infer_instance

namespace ReferenceIndex

variable {index : ReferenceIndex}

/-- What resolves keeps resolving when more is recorded. -/
theorem isSome_resolve?_record {origin raw : String} (known : (index.resolve? origin raw).isSome)
    (name raw' linked : String) : ((index.record name raw' linked).resolve? origin raw).isSome := by
  rw [resolve?_record]
  split
  · rw [Option.isSome_or, Option.isSome_some, Bool.or_true]
  · exact known

/-- What was recorded resolves. -/
theorem isSome_resolve?_record_self (index : ReferenceIndex) (name raw linked : String) :
    ((index.record name raw linked).resolve? (Text.lower name) raw).isSome := by
  rw [resolve?_record, if_pos rfl, Option.isSome_or, Option.isSome_some, Bool.or_true]

end ReferenceIndex

namespace RowIngest

variable {schema : Schema} {rows : List TableRow} {row : TableRow} {column : Column} {slot : Nat}
  {name : String}

theorem isSome_resolve?_recordOrigin {index : ReferenceIndex} {origin raw : String}
    (known : (index.resolve? origin raw).isSome) (given : Column × Nat) :
    ((recordOrigin row index given).resolve? origin raw).isSome := by
  unfold recordOrigin
  split
  · exact ReferenceIndex.isSome_resolve?_record known _ _ _
  · exact known

/-- Every value of an origin column resolves in the index of its table. -/
theorem isSome_resolve?_originsOf (mem : (column, slot) ∈ schema.slots)
    (named : column.origin = some name) (stored : row ∈ rows) :
    ((originsOf schema rows).resolve? (Text.lower name) (row.value slot)).isSome := by
  let Known (index : ReferenceIndex) : Prop :=
    (index.resolve? (Text.lower name) (row.value slot)).isSome
  have kept (now : ReferenceIndex) (known : Known now) (other : TableRow) :
      Known (recordOrigins schema other now) := by
    rw [recordOrigins_eq]
    exact List.foldlRecOn (motive := Known) schema.slots _ known
      fun now known given _ => isSome_resolve?_recordOrigin known given
  have reached (now : ReferenceIndex) : Known (recordOrigins schema row now) := by
    rw [recordOrigins_eq]
    refine foldl_brings_about (P := Known) mem
      (fun now known given _ => isSome_resolve?_recordOrigin known given) (fun now => ?_) now
    unfold recordOrigin
    rw [named]
    exact ReferenceIndex.isSome_resolve?_record_self _ _ _ _
  exact foldl_brings_about (P := Known) stored (fun now known other _ => kept now known other)
    reached ReferenceIndex.empty

end RowIngest

/-- The index of a table knows a column exactly when the table declares it and has a row. -/
theorem ValidationTarget.exists_resolve?_iff {target : ValidationTarget}
    (own : target.schema.OwnsOrigins) (reference : ReferenceTarget) :
    (∃ raw, (target.origins.resolve? reference.originName raw).isSome) ↔
      target.Declares reference ∧ target.rows ≠ [] := by
  constructor
  · rintro ⟨raw, found⟩
    obtain ⟨column, slot, mem, declared, named, row, stored, -⟩ :=
      (target.tracesTo_origins _ _ found).holdsReferenced own
    refine ⟨⟨column, List.mem_of_getElem? (Header.column?_of_mem_slots mem), declared, named⟩, ?_⟩
    exact List.ne_nil_of_mem stored
  · rintro ⟨⟨column, mem, declared, named⟩, filled⟩
    obtain ⟨row, stored⟩ := List.exists_mem_of_ne_nil _ filled
    obtain ⟨slot, place⟩ := exists_mem_zipIdx mem
    obtain ⟨name, origin⟩ := Option.isSome_iff_exists.1 declared
    have lowered : Text.lower name = reference.originName := by
      rw [own column mem name origin, originName, Text.lower_lower]
      exact named
    refine ⟨row.value slot, ?_⟩
    rw [← lowered]
    exact RowIngest.isSome_resolve?_originsOf place origin stored

/-- The index of a run knows a column exactly when some loaded table declares it and has a row. -/
theorem RunContext.hasOrigin_iff {ctx : RunContext} (h : ctx.Ingests)
    (reference : ReferenceTarget) :
    ctx.mergedState.references.hasOrigin reference.originName = true ↔
      ∃ other ∈ ctx.mergedState.loadedTargets, other.Declares reference ∧ other.rows ≠ [] := by
  rw [ReferenceIndex.hasOrigin_iff]
  simp only [resolve?_loadedTargets h, List.findSome?_isSome_iff]
  constructor
  · rintro ⟨raw, other, mem, found⟩
    exact ⟨other, mem,
      (ValidationTarget.exists_resolve?_iff (ownsOrigins h mem) reference).1 ⟨raw, found⟩⟩
  · rintro ⟨other, mem, known⟩
    obtain ⟨raw, found⟩ :=
      (ValidationTarget.exists_resolve?_iff (ownsOrigins h mem) reference).2 known
    exact ⟨raw, other, mem, found⟩

namespace ValidationTarget

variable {target : ValidationTarget} {ctx : ValidationContext} {row : TableRow}
  {position slot : Nat} {column : Column} {reference : ReferenceTarget}

/-- What is found wrong with the reference of a zero is that its column is not known to the index. -/
theorem mem_cellDiagnostics_of_zero (checked : column.check = some reference)
    (numeric : column.dataType = some .int ∨ column.dataType = some .float)
    (plain : column.isArray = false) (zero : row.value slot = "0") :
    (∀ d ∈ target.cellDiagnostics ctx column slot row position, d.code ≠ .referenceValueNotFound) ∧
    ((∃ d ∈ target.cellDiagnostics ctx column slot row position, d.code = .referenceOriginMissing) ↔
      ctx.references.hasOrigin reference.originName = false) := by
  let cell := target.cell column slot row position
  have single : cell.elements = ["0"] := by
    change column.elements (row.value slot) = ["0"]
    rw [zero]
    exact Column.elements_of_scalar plain (by decide)
  have none : CheckedCell.isNoReference column "0" = true :=
    CheckedCell.isNoReference_iff.2 ⟨numeric, rfl⟩
  -- The only element is no reference, so that leaves the problem of the column.
  have only (problem : Problem) (concern : problem.code.concern? = some .reference) :
      problem ∈ (target.outcome ctx column slot row position).problems ↔
        ctx.references.hasOrigin reference.originName = false ∧
          problem = .noSuchOrigin reference.originName := by
    unfold outcome
    rw [CheckedCell.mem_check_iff_of_concern concern, CheckedCell.problemsOf,
      CheckedCell.mem_checkReference_iff]
    constructor
    · rintro ⟨target', checked', missing | ⟨-, element, mem, counts, -⟩⟩
      · obtain rfl := Option.some.inj (checked.symm.trans checked')
        exact missing
      · rw [single, List.mem_singleton] at mem
        subst mem
        cases none.symm.trans counts
    · exact fun missing => ⟨reference, checked, .inl missing⟩
  constructor
  · intro d found code
    obtain ⟨problem, mem, rfl⟩ := List.mem_map.1 found
    change problem.code = .referenceValueNotFound at code
    obtain ⟨-, rfl⟩ := (only problem (by rw [code]; rfl)).1 mem
    cases code
  · constructor
    · rintro ⟨d, found, code⟩
      obtain ⟨problem, mem, rfl⟩ := List.mem_map.1 found
      change problem.code = .referenceOriginMissing at code
      exact ((only problem (by rw [code]; rfl)).1 mem).1
    · intro missing
      exact ⟨_, List.mem_map_of_mem ((only _ rfl).2 ⟨missing, rfl⟩), rfl⟩

end ValidationTarget

/-- What the validation of a table finds wrong is found wrong with the whole. -/
theorem Validated.mem_diagnostics {validated : Validated} {state : CompileState}
    (same : validated = ofState state) {target : ValidationTarget}
    (mem : target ∈ validated.state.targets) {d : Diagnostic}
    (reported : d ∈ (TableValidation.ofTarget target validated.state.validationContext).diagnostics) :
    d ∈ validated.state.diagnostics := by
  subst same
  exact List.mem_append_right _ (List.mem_flatMap.2 ⟨_, List.mem_map_of_mem mem, reported⟩)

namespace Run

variable {ctx : RunContext} {validated : Validated}

/-- What is found wrong with a cell of a validated table is among the diagnostics of the run. -/
theorem cellDiagnostics_subset (h : (ofContext ctx).validated = some validated)
    {target : ValidationTarget} (mem : target ∈ validated.state.targets) {row : TableRow}
    {position slot : Nat} {column : Column} (stored : (row, position) ∈ target.rows.zipIdx)
    (place : (column, slot) ∈ target.schema.slots) :
    target.cellDiagnostics validated.state.validationContext column slot row position ⊆
      (ofContext ctx).finalState.diagnostics := by
  intro d found
  have reported : d ∈ (TableValidation.ofTarget target
      validated.state.validationContext).diagnostics :=
    TableValidation.mem_diagnostics_ofTarget_iff.2
      ⟨row, position, stored, column, slot, place, found⟩
  have final : (ofContext ctx).finalState = validated.state := by rw [finalState, h]
  rw [final]
  exact Validated.mem_diagnostics (validated_eq_some_iff.1 h).2 mem reported

/-- A zero in a column of numbers is never looked for among the values that it would refer to. The
column that it would refer to is reported as missing exactly when every loaded table that declares
it is without rows. -/
theorem zero_refers_iff (h : (ofContext ctx).validated = some validated)
    {target : ValidationTarget} (mem : target ∈ validated.state.targets) {row : TableRow}
    {position slot : Nat} {column : Column} (stored : (row, position) ∈ target.rows.zipIdx)
    (place : (column, slot) ∈ target.schema.slots) {reference : ReferenceTarget}
    (checked : column.check = some reference)
    (numeric : column.dataType = some .int ∨ column.dataType = some .float)
    (plain : column.isArray = false) (zero : row.value slot = "0") :
    let found :=
      target.cellDiagnostics validated.state.validationContext column slot row position
    found ⊆ (ofContext ctx).finalState.diagnostics ∧
      (∀ d ∈ found, d.code ≠ .referenceValueNotFound) ∧
      ((∃ d ∈ found, d.code = .referenceOriginMissing) ↔
        ∀ other ∈ validated.state.loadedTargets, other.Declares reference → other.rows = []) := by
  obtain ⟨looked, missing⟩ := ValidationTarget.mem_cellDiagnostics_of_zero checked numeric plain zero
  refine ⟨cellDiagnostics_subset h mem stored place, looked, missing.trans ?_⟩
  obtain ⟨reaches, same⟩ := validated_eq_some_iff.1 h
  obtain ⟨references, loaded⟩ := same ▸ Validated.ofState_loaded ctx.mergedState
  have known := RunContext.hasOrigin_iff reaches.toIngests reference
  rw [← references, ← loaded] at known
  change validated.state.references.hasOrigin reference.originName = false ↔ _
  rw [← Bool.not_eq_true, known]
  simp only [not_exists, not_and, not_not]

open Library

/-- The run over a shop that has no good yet, and over the items that its goods would be. -/
def shopOver (items : List (List String)) : RunContext :=
  runOver [tableBook "shop" [("good", "int,check<item/id>")] [["1", "0"]],
    tableBook "item" [("name", "string")] items]

set_option maxRecDepth 100000 in
/-- Beside an item the zero has no problem. -/
theorem zero_refers_shop : ∃ validated, (ofContext (shopOver [["7", "rope"]])).validated =
    some validated ∧ ∃ target ∈ validated.state.targets, ∃ stored ∈ target.rows.zipIdx,
      ∃ given ∈ target.schema.slots, given.1.check = some ⟨"item", "id"⟩ ∧
        stored.1.value given.2 = "0" ∧
        ∀ d ∈ target.cellDiagnostics validated.state.validationContext given.1 given.2 stored.1
            stored.2,
          d.code ≠ .referenceValueNotFound ∧ d.code ≠ .referenceOriginMissing := by
  have reaches : (ofContext (shopOver [["7", "rope"]])).validated.isSome = true := by
    decide +kernel
  obtain ⟨validated, reached⟩ := Option.isSome_iff_exists.1 reaches
  have facts : ∀ validated ∈ (ofContext (shopOver [["7", "rope"]])).validated,
      (∃ target ∈ validated.state.targets, ∃ stored ∈ target.rows.zipIdx,
        ∃ given ∈ target.schema.slots, given.1.check = some ⟨"item", "id"⟩ ∧
          (given.1.dataType = some .int ∨ given.1.dataType = some .float) ∧
          given.1.isArray = false ∧ stored.1.value given.2 = "0") ∧
      ∃ other ∈ validated.state.loadedTargets, other.Declares ⟨"item", "id"⟩ ∧ other.rows ≠ [] := by
    decide +kernel
  obtain ⟨⟨target, mem, stored, inside, given, place, checked, numeric, plain, zero⟩, other, known,
    declares, filled⟩ := facts validated reached
  obtain ⟨-, looked, missing⟩ :=
    zero_refers_iff reached mem inside place checked numeric plain zero
  refine ⟨validated, reached, target, mem, stored, inside, given, place, checked, zero, ?_⟩
  intro d found
  exact ⟨looked d found, fun code => filled (missing.1 ⟨d, found, code⟩ other known declares)⟩

/-- Where a column of numbers refers to a column that some loaded table declares, a zero has no
problem with its reference. -/
def ZerosNeedNoReference (ctx : RunContext) : Prop :=
  ∀ validated ∈ (ofContext ctx).validated, ∀ target ∈ validated.state.targets,
    ∀ stored ∈ target.rows.zipIdx, ∀ given ∈ target.schema.slots,
      given.1.dataType = some .int ∨ given.1.dataType = some .float → given.1.isArray = false →
        stored.1.value given.2 = "0" → ∀ reference ∈ given.1.check,
          (∃ other ∈ validated.state.loadedTargets, Text.lower other.schema.name = reference.table ∧
            ∃ column ∈ other.schema.columns, column.origin.isSome ∧
              Text.lower column.title = reference.field) →
            ∀ d ∈ target.cellDiagnostics validated.state.validationContext given.1 given.2 stored.1
                stored.2,
              d.code ≠ .referenceValueNotFound ∧ d.code ≠ .referenceOriginMissing

set_option maxRecDepth 100000 in
/-- Without any item the zero is reported, for the want of a column that is there. -/
theorem not_zerosNeedNoReference : ¬ ZerosNeedNoReference (shopOver []) := by
  unfold ZerosNeedNoReference
  decide +kernel

end Run

end DesignTables
