import DesignTables.Index.References
import DesignTables.Index.Sizes
import DesignTables.Ingest.CellReading

/-!
The data rows of a sheet read against its schema.

A keyed table stores the rows whose key is not empty and was not met before; a repeated key is
reported and its row dropped. A table without keys stores its first data row alone.
-/
namespace DesignTables

/-- What the rows of a sheet contribute. -/
structure RowIngest where
  rows : List TableRow
  diagnostics : List Diagnostic
  sizes : SizeIndex
  origins : ReferenceIndex

namespace RowIngest

/-- Nothing ingested. -/
def empty : RowIngest := ⟨[], [], SizeIndex.empty, ReferenceIndex.empty⟩

/-- The grid column that keys are read from. -/
def keyGridColumn (schema : Schema) : Nat := (schema.keyColumn?.map (·.gridColumn)).getD 0

/-- The key of a grid row. -/
def keyOf (schema : Schema) (grid : Grid) (row : Nat) : String :=
  (grid.cell row (keyGridColumn schema)).render

/-- The numbers of the data rows. -/
def dataRows (grid : Grid) : List Nat :=
  (List.range grid.height).drop Header.firstDataRow

/-- The cells of a row, each with its column and slot. -/
def readings (schema : Schema) (grid : Grid) (row : Nat) : List (Column × Nat × CellReading) :=
  schema.slots.map fun (column, slot) =>
    (column, slot, CellReading.ofCell column (grid.cell row column.gridColumn))

/-- Indexes the values of the origin columns of a row. -/
def recordOrigins (schema : Schema) (cells : TableRow) (origins : ReferenceIndex) :
    ReferenceIndex :=
  schema.slots.foldl (fun origins (column, slot) =>
    match column.origin with
    | some origin =>
      origins.record origin (cells.value slot) ((column.change.map cells.value).getD "")
    | none => origins) origins

/-- Stores a row. -/
def store (schema : Schema) (grid : Grid) (ingest : RowIngest) (row : Nat) : RowIngest :=
  let cells := readings schema grid row
  let stored : TableRow := ⟨row, cells.map fun (_, _, reading) => reading.value⟩
  { rows := ingest.rows ++ [stored]
    diagnostics := ingest.diagnostics ++ cells.flatMap fun (column, _, reading) =>
      reading.problems.map fun problem =>
        Diagnostic.of problem schema.origin column.title row column.gridColumn
    sizes := cells.foldl (fun sizes (_, slot, reading) =>
      match reading.size with
      | some size => sizes.record schema.name slot row size
      | none => sizes) ingest.sizes
    origins := recordOrigins schema stored ingest.origins }

/-- Reports a row whose key was met before. -/
def refuse (schema : Schema) (ingest : RowIngest) (row : Nat) (key : String) : RowIngest :=
  { ingest with
    diagnostics := ingest.diagnostics ++
      [Diagnostic.of (.repeatedKey key) schema.origin
        ((schema.keyColumn?.map (·.title)).getD "") row (keyGridColumn schema)] }

/-- Takes the next row of a keyed table; `seen` are the keys met so far. -/
def takeRow (schema : Schema) (grid : Grid) (state : RowIngest × List String) (row : Nat) :
    RowIngest × List String :=
  let (ingest, seen) := state
  let key := keyOf schema grid row
  if key.isEmpty then state
  else if seen.contains key then (refuse schema ingest row key, seen)
  else (store schema grid ingest row, seen ++ [key])

/-- Reads the data rows of a grid. -/
def ofGrid (schema : Schema) (grid : Grid) : RowIngest :=
  if schema.options.valueOnly then
    ((dataRows grid).take 1).foldl (store schema grid) empty
  else ((dataRows grid).foldl (takeRow schema grid) (empty, [])).1

end RowIngest

end DesignTables
