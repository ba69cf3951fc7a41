import DesignTables.Index.Overlay
import DesignTables.Validation.Checks

/-!
The validation of one table.

In each row the checks run column by column; then every column with a `change` directive takes the
value that its source is written with.
-/
namespace DesignTables

/-- A table to validate. -/
inductive ValidationTarget where
  /-- A table of its own sheet. -/
  | sheet (schema : Schema) (rows : List TableRow)
  /-- A merge table; its problems are reported in the contributing sheets. -/
  | merged (table : MergeTable)

namespace ValidationTarget

/-- The schema of the table. -/
def schema : ValidationTarget → Schema
  | sheet schema _ => schema
  | merged table => table.schema

/-- The rows of the table. -/
def rows : ValidationTarget → List TableRow
  | sheet _ rows => rows
  | merged table => table.rows

/-- Where a cell stands: its sheet, and its row and column there. -/
def locate (target : ValidationTarget) (position slot : Nat) (row : TableRow) (column : Column) :
    SheetOrigin × Nat × Nat :=
  let own := (target.schema.origin, row.row, column.gridColumn)
  match target with
  | sheet _ _ => own
  | merged table =>
    match table.provenanceAt? position slot with
    | some (origin, cell) => (origin, cell.row, cell.column.getD column.gridColumn)
    | none => own

end ValidationTarget

/-- The result of validating a table. -/
structure TableValidation where
  table : String
  diagnostics : List Diagnostic
  overlay : Overlay
  /-- The slots whose values are written from the overlay. -/
  changed : List Nat

namespace TableValidation

/-- Whether the values of a column are written from the overlay: texts of a defined group, changed
values, and references into an origin that substitutes. -/
def isChanged (ctx : ValidationContext) (column : Column) : Bool :=
  column.enumGroupRef.isSome ||
  column.enumGroup.any ctx.enums.hasGroup ||
  column.change.isSome ||
  column.check.any fun target => ctx.references.substitutes target.originName

/-- The slots of the columns that are written from the overlay. -/
def changedSlots (schema : Schema) (ctx : ValidationContext) : List Nat :=
  (schema.slots.filter fun (column, _) => isChanged ctx column).map (·.2)

/-- The outcomes of a row, each with its column and slot. -/
def rowOutcomes (schema : Schema) (ctx : ValidationContext) (changed : List Nat)
    (earlier : List TableRow) (row : TableRow) : List (Column × Nat × CellOutcome) :=
  schema.slots.map fun (column, slot) =>
    (column, slot, CheckedCell.check ⟨schema, column, slot, row, earlier⟩ ctx
      (changed.contains slot))

/-- The diagnostics of a row. -/
def rowDiagnostics (target : ValidationTarget) (position : Nat) (row : TableRow)
    (outcomes : List (Column × Nat × CellOutcome)) : List Diagnostic :=
  outcomes.flatMap fun (column, slot, outcome) =>
    let (origin, gridRow, gridColumn) := target.locate position slot row column
    outcome.problems.map fun problem =>
      Diagnostic.of problem origin column.title gridRow gridColumn

/-- Takes the values that the checks of a row give. -/
def overlayRow (table : String) (row : TableRow) (outcomes : List (Column × Nat × CellOutcome))
    (overlay : Overlay) : Overlay :=
  outcomes.foldl (fun overlay (_, slot, outcome) =>
    match outcome.resolved with
    | some value => overlay.set table row.row slot value
    | none => overlay) overlay

/-- Copies the written value of every `change` source of a row. -/
def propagate (schema : Schema) (row : TableRow) (overlay : Overlay) : Overlay :=
  schema.slots.foldl (fun overlay (column, slot) =>
    match column.change with
    | none => overlay
    | some source =>
      let value := (overlay.get? schema.name row.row source).getD (row.value source)
      overlay.set schema.name row.row slot value) overlay

/-- Validates a table. -/
def ofTarget (target : ValidationTarget) (ctx : ValidationContext) : TableValidation :=
  let schema := target.schema
  let rows := target.rows
  let changed := changedSlots schema ctx
  let outcomes := rows.zipIdx.map fun (row, position) =>
    (row, position, rowOutcomes schema ctx changed (rows.take position) row)
  { table := schema.name
    diagnostics := outcomes.flatMap fun (row, position, cells) =>
      rowDiagnostics target position row cells
    overlay := outcomes.foldl (fun overlay (row, _, cells) =>
      propagate schema row (overlayRow schema.name row cells overlay)) Overlay.empty
    changed := changed }

end TableValidation

end DesignTables
