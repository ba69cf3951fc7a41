import DesignTables.Proofs.Indexing.Registries
import DesignTables.Validation.Table

/-!
# Tables validated by slots

The checks of a cell look the texts of its enumeration up in the registry, and name the column that
its element count is compared with. A problem is reported where the column of its slot stands. The
texts are found by positions that the registry noted, and the slots are those of columns.
-/
namespace DesignTables

/-- What every table is validated against, with enumeration groups that are found by positions. -/
structure IndexedContext where
  enums : IndexedEnums
  localization : LocalizationRegistry
  references : ReferenceIndex
  sizes : SizeIndex

/-- The same with another registry of enumerations. -/
def IndexedContext.over (ctx : IndexedContext) (registry : EnumRegistry) : ValidationContext :=
  ⟨registry, ctx.localization, ctx.references, ctx.sizes⟩

namespace CheckedCell

def lookUp! (elements : List String) (find! : String → Access (Option String))
    (problem : String → Problem) : Access (List Problem × String) := do
  let found ← elements.mapM find!
  return ((elements.zip found).filterMap fun (element, value) =>
      match value with
      | some _ => none
      | none => some (problem element),
    Text.joinWith "," (found.filterMap id))

def checkInGroup! (cell : CheckedCell) (enums : IndexedEnums) (group : String) :
    Access CellOutcome :=
  if group = noneGroup then return cell.checkNone
  else if !enums.hasGroup group then return .refuse (.undefinedRowEnumGroup group cell.value)
  else if cell.elements.isEmpty then
    return if cell.column.isArray then .clean else .refuse .emptyEnumValue
  else do
    let (problems, written) ← lookUp! (cell.elements.map Text.upper) (enums.resolve! group)
      Problem.unknownEnumText
    return ⟨problems, some written⟩

def checkEnum! (cell : CheckedCell) (enums : IndexedEnums) : Access CellOutcome :=
  match cell.column.enumGroupRef, cell.column.enumGroup with
  | some source, _ => cell.checkInGroup! enums (Text.upper (cell.row.value source))
  | none, some group =>
    if enums.hasGroup group then cell.checkInGroup! enums group
    else return .refuse (.undefinedEnumGroup group)
  | none, none => return .clean

/-- The element count of a cell is that of the column it is compared with, which is named when it
has none. -/
def checkSize! (cell : CheckedCell) (sizes : SizeIndex) : Access CellOutcome :=
  match cell.column.arraySizeRef with
  | none => return .clean
  | some source =>
    let sizeAt (slot : Nat) := sizes.get? cell.schema.name slot cell.row.row
    match sizeAt cell.slot, sizeAt source with
    | none, _ => return .refuse .noArraySize
    | some _, none => do
      let compared ← Access.read cell.schema.columns source
      return .refuse (.noSourceArraySize compared.title)
    | some own, some other =>
      return if own = other then .clean else .refuse (.arraySizesDiffer own other)

def check! (cell : CheckedCell) (ctx : IndexedContext) (substituted : Bool) :
    Access CellOutcome := do
  let enumerated ← cell.checkEnum! ctx.enums
  let sized ← cell.checkSize! ctx.sizes
  return cell.checkUnique
    |>.andThen enumerated
    |>.andThen (cell.checkLocalText ctx.localization)
    |>.andThen sized
    |>.andThen (cell.checkReference ctx.references substituted)

end CheckedCell

/-- Where a cell stands, read from the column of its slot. -/
def ValidationTarget.locate! (target : ValidationTarget) (position slot : Nat) (row : TableRow) :
    Access (SheetOrigin × Nat × Nat) := do
  let column ← Access.read target.schema.columns slot
  return target.locate position slot row column

namespace TableValidation

def isChangedIn (ctx : IndexedContext) (column : Column) : Bool :=
  column.enumGroupRef.isSome ||
  column.enumGroup.any ctx.enums.hasGroup ||
  column.change.isSome ||
  column.check.any fun target => ctx.references.substitutes target.originName

def rowOutcomes! (schema : Schema) (ctx : IndexedContext) (changed : List Nat)
    (earlier : List TableRow) (row : TableRow) : Access (List (Column × Nat × CellOutcome)) :=
  schema.slots.mapM fun (column, slot) => do
    let outcome ← CheckedCell.check! ⟨schema, column, slot, row, earlier⟩ ctx
      (changed.contains slot)
    return (column, slot, outcome)

def rowDiagnostics! (target : ValidationTarget) (position : Nat) (row : TableRow)
    (outcomes : List (Column × Nat × CellOutcome)) : Access (List Diagnostic) := do
  -- A cell is located when there is something to report of it.
  let found ← outcomes.mapM fun (column, slot, outcome) =>
    if outcome.problems.isEmpty then return [] else do
      let (origin, gridRow, gridColumn) ← target.locate! position slot row
      return outcome.problems.map fun problem =>
        Diagnostic.of problem origin column.title gridRow gridColumn
  return found.flatten

def ofTarget! (target : ValidationTarget) (ctx : IndexedContext) : Access TableValidation := do
  let schema := target.schema
  let rows := target.rows
  let changed := (schema.slots.filter fun (column, _) => isChangedIn ctx column).map (·.2)
  let outcomes ← rows.zipIdx.mapM fun (row, position) => do
    let cells ← rowOutcomes! schema ctx changed (rows.take position) row
    return (row, position, cells)
  let diagnostics ← outcomes.mapM fun (row, position, cells) =>
    rowDiagnostics! target position row cells
  return {
    table := schema.name
    diagnostics := diagnostics.flatten
    overlay := outcomes.foldl (fun overlay (row, _, cells) =>
      propagate schema row (overlayRow schema.name row cells overlay)) Overlay.empty
    changed := changed }

end TableValidation

namespace CheckedCell

variable {cell : CheckedCell} {enums : IndexedEnums} {registry : EnumRegistry}

theorem lookUp!_eq_ok {find! : String → Access (Option String)} {find? : String → Option String}
    (found : ∀ element, find! element = .ok (find? element)) (elements : List String)
    (problem : String → Problem) :
    lookUp! elements find! problem = .ok (lookUp elements find? problem) := by
  have zipped : elements.zip (elements.map find?) =
      elements.map fun element => (element, find? element) := by
    have both : (elements.map id).zip (elements.map find?) =
        elements.map fun element => (element, find? element) := List.zip_map'
    rwa [List.map_id] at both
  rw [lookUp!, Access.mapM_eq_ok fun element _ => found element, Access.ok_bind, zipped,
    List.filterMap_map, List.filterMap_map]
  rfl

theorem checkInGroup!_eq_ok (h : enums.Represents registry) (group : String) :
    cell.checkInGroup! enums group = .ok (cell.checkInGroup registry group) := by
  rw [checkInGroup!, checkInGroup, h.hasGroup_eq]
  split
  · rfl
  split
  · rfl
  split
  · rfl
  · rw [lookUp!_eq_ok (h.resolve!_eq_ok group)]
    rfl

theorem checkEnum!_eq_ok (h : enums.Represents registry) :
    cell.checkEnum! enums = .ok (cell.checkEnum registry) := by
  rw [checkEnum!, checkEnum]
  cases cell.column.enumGroupRef with
  | some source => exact checkInGroup!_eq_ok h _
  | none =>
    cases cell.column.enumGroup with
    | none => rfl
    | some group =>
      dsimp only
      rw [h.hasGroup_eq]
      split
      · exact checkInGroup!_eq_ok h group
      · rfl

theorem checkSize!_eq_ok (links : cell.column.LinksBelow cell.schema.columns.length)
    (sizes : SizeIndex) : cell.checkSize! sizes = .ok (cell.checkSize sizes) := by
  rw [checkSize!, checkSize]
  cases link : cell.column.arraySizeRef with
  | none => rfl
  | some source =>
    have inside : source < cell.schema.columns.length := links.arraySizeRef source link
    have place : cell.schema.column? source = some cell.schema.columns[source] :=
      List.getElem?_eq_getElem inside
    dsimp only
    cases sizes.get? cell.schema.name cell.slot cell.row.row with
    | none => rfl
    | some own =>
      cases sizes.get? cell.schema.name source cell.row.row with
      | none =>
        dsimp only
        rw [Access.read_eq_ok place, Schema.titleAt_eq place]
        rfl
      | some other => rfl

theorem check!_eq_ok {ctx : IndexedContext} (h : ctx.enums.Represents registry)
    (links : cell.column.LinksBelow cell.schema.columns.length) (substituted : Bool) :
    cell.check! ctx substituted = .ok (cell.check (ctx.over registry) substituted) := by
  rw [check!, checkEnum!_eq_ok h, Access.ok_bind, checkSize!_eq_ok links, Access.ok_bind]
  rfl

end CheckedCell

namespace TableValidation

variable {target : ValidationTarget} {ctx : IndexedContext} {registry : EnumRegistry}

theorem rowOutcomes!_eq_ok {schema : Schema} (h : ctx.enums.Represents registry)
    (links : schema.LinksInside) (changed : List Nat) (earlier : List TableRow) (row : TableRow) :
    rowOutcomes! schema ctx changed earlier row =
      .ok (rowOutcomes schema (ctx.over registry) changed earlier row) := by
  refine Access.mapM_eq_ok ?_
  rintro ⟨column, slot⟩ mem
  have below := links.columns column (List.mem_of_getElem? (Header.column?_of_mem_slots mem))
  dsimp only
  rw [CheckedCell.check!_eq_ok h below]
  rfl

/-- The outcomes of a row come with the columns of their slots. -/
theorem rowDiagnostics!_eq_ok {outcomes : List (Column × Nat × CellOutcome)}
    (places : ∀ one ∈ outcomes, target.schema.column? one.2.1 = some one.1) (position : Nat)
    (row : TableRow) :
    rowDiagnostics! target position row outcomes =
      .ok (rowDiagnostics target position row outcomes) := by
  have located : ∀ one ∈ outcomes,
      (if one.2.2.problems.isEmpty then return [] else do
        let (origin, gridRow, gridColumn) ← target.locate! position one.2.1 row
        return one.2.2.problems.map fun problem =>
          Diagnostic.of problem origin one.1.title gridRow gridColumn) =
      (.ok (rowDiagnostics target position row [one]) : Access (List Diagnostic)) := by
    rintro ⟨column, slot, outcome⟩ mem
    rw [rowDiagnostics, List.flatMap_singleton]
    dsimp only
    by_cases quiet : outcome.problems.isEmpty = true
    · rw [if_pos quiet, List.isEmpty_iff.1 quiet]
      rfl
    · rw [if_neg quiet, ValidationTarget.locate!, Access.read_eq_ok (places _ mem)]
      rfl
  rw [rowDiagnostics!, Access.mapM_eq_ok located, Access.ok_bind]
  refine congrArg Except.ok ?_
  rw [← List.flatMap_def, rowDiagnostics]
  exact List.flatMap_congr fun one _ => by rw [rowDiagnostics, List.flatMap_singleton]

theorem isChangedIn_eq (h : ctx.enums.Represents registry) (column : Column) :
    isChangedIn ctx column = isChanged (ctx.over registry) column := by
  have hasGroup : ctx.enums.hasGroup = registry.hasGroup := funext h.hasGroup_eq
  rw [isChangedIn, hasGroup]
  rfl

theorem column?_of_mem_rowOutcomes {schema : Schema} {against : ValidationContext}
    {changed : List Nat} {earlier : List TableRow} {row : TableRow}
    {one : Column × Nat × CellOutcome}
    (mem : one ∈ rowOutcomes schema against changed earlier row) :
    schema.column? one.2.1 = some one.1 := by
  obtain ⟨⟨column, slot⟩, own, rfl⟩ := List.mem_map.1 mem
  exact Header.column?_of_mem_slots own

/-- Validating a table whose links are inside its columns reads slots of columns and positions that
the registry noted. -/
theorem ofTarget!_eq_ok (h : ctx.enums.Represents registry) (links : target.schema.LinksInside) :
    ofTarget! target ctx = .ok (ofTarget target (ctx.over registry)) := by
  let changed := changedSlots target.schema (ctx.over registry)
  let checked (one : TableRow × Nat) : TableRow × Nat × List (Column × Nat × CellOutcome) :=
    (one.1, one.2, rowOutcomes target.schema (ctx.over registry) changed
      (target.rows.take one.2) one.1)
  have same : (target.schema.slots.filter fun (column, _) => isChangedIn ctx column).map (·.2) =
      changed := by
    simp only [changed, changedSlots, isChangedIn_eq h]
  have outcomes : ∀ one ∈ target.rows.zipIdx, (do
      let cells ← rowOutcomes! target.schema ctx changed (target.rows.take one.2) one.1
      return (one.1, one.2, cells)) = Except.ok (checked one) := by
    intro one _
    rw [rowOutcomes!_eq_ok h links]
    rfl
  have diagnosed : ∀ one ∈ target.rows.zipIdx.map checked,
      rowDiagnostics! target one.2.1 one.1 one.2.2 =
        .ok (rowDiagnostics target one.2.1 one.1 one.2.2) := by
    intro one mem
    obtain ⟨⟨row, position⟩, _, rfl⟩ := List.mem_map.1 mem
    exact rowDiagnostics!_eq_ok (fun _ there => column?_of_mem_rowOutcomes there) position row
  rw [ofTarget!]
  dsimp only
  rw [same, Access.mapM_eq_ok outcomes, Access.ok_bind, Access.mapM_eq_ok diagnosed,
    Access.ok_bind, ← List.flatMap_def]
  rfl

end TableValidation

end DesignTables
