import DesignTables.Ingest.Sheet
import DesignTables.Merge.Table

/-!
The sheets of a merge group unified into one table.

The columns of the table are those of the sheets in the order of their first title; a title that
was seen before must agree in export mode, type and enumeration group. The rows are those of the
sheets one after the other, numbered from one, and a column that a sheet lacks takes the default of
its type.
-/
namespace DesignTables

namespace Merge

/-- What a column disagrees on with the column of its title in an earlier sheet. -/
def disagreements (known incoming : Column) : List Problem :=
  let typeName (column : Column) := (column.dataType.map DataType.name).getD "none"
  let groupName (column : Column) := column.enumGroup.getD "none"
  (if known.mode ≠ incoming.mode then
    [.exportDiffers incoming.mode.name known.mode.name] else []) ++
  (if known.dataType ≠ incoming.dataType then
    [.dataTypeDiffers (typeName incoming) (typeName known)] else []) ++
  (if known.enumGroup ≠ incoming.enumGroup then
    [.enumGroupDiffers (groupName incoming) (groupName known)] else [])

/-- Where a column of a sheet went: its slot in the merged table, and whether it is new there. -/
structure Placement where
  slot : Nat
  isNew : Bool
deriving DecidableEq, Repr

/-- The unification of columns so far. -/
structure Unified where
  schema : Schema
  placements : List Placement
  diagnostics : List Diagnostic

/-- Places one column of a sheet. -/
def placeColumn (group : String) (source : Schema) (unified : Unified) (column : Column) :
    Unified :=
  match unified.schema.slotOf? column.title with
  | some slot =>
    let problems := ((unified.schema.column? slot).map (disagreements · column)).getD []
    { unified with
      placements := unified.placements ++ [⟨slot, false⟩]
      diagnostics := unified.diagnostics ++ problems.map fun problem =>
        Diagnostic.of problem source.origin column.title Header.titleRow column.gridColumn }
  | none =>
    let slot := unified.schema.columns.length
    let renamed := { column with origin := column.origin.map fun _ => originName group column.title }
    { unified with
      schema := { unified.schema with
        columns := unified.schema.columns ++ [renamed]
        key := if column.isKey then unified.schema.key.or (some slot) else unified.schema.key }
      placements := unified.placements ++ [⟨slot, true⟩] }

/-- A link of a sheet's column as a link of the merged table. -/
def relink (placements : List Placement) (link : Option Nat) : Option Nat :=
  (link.bind fun slot => placements[slot]?).map (·.slot)

/-- A merged column with the links of a sheet's column: all of them on a new column, those it lacks
on a known one. -/
def linkColumn (placements : List Placement) (isNew : Bool) (column merged : Column) : Column :=
  let change := relink placements column.change
  let arraySizeRef := relink placements column.arraySizeRef
  let enumGroupRef := relink placements column.enumGroupRef
  if isNew then
    { merged with change := change, arraySizeRef := arraySizeRef, enumGroupRef := enumGroupRef }
  else
    { merged with
      change := merged.change.or change
      arraySizeRef := merged.arraySizeRef.or arraySizeRef
      enumGroupRef := merged.enumGroupRef.or enumGroupRef
      tracksLength := merged.tracksLength || column.tracksLength
      tracksCount := merged.tracksCount || column.tracksCount }

/-- Links the merged columns of a sheet's columns. -/
def linkColumns (source : Schema) (placements : List Placement) (schema : Schema) : Schema :=
  (source.columns.zip placements).foldl (fun schema (column, placement) =>
    schema.modifyColumn placement.slot (linkColumn placements placement.isNew column)) schema

/-- The unification of a group: the schema, the merged slots of each sheet's columns, and the
problems found. -/
structure Structure where
  schema : Schema
  mappings : List (List Nat)
  diagnostics : List Diagnostic

/-- Adds the columns of one sheet. -/
def addSheet (group : String) (merged : Structure) (sheet : IngestedSheet) : Structure :=
  let unified := sheet.schema.columns.foldl (placeColumn group sheet.schema)
    ⟨merged.schema, [], []⟩
  { schema := linkColumns sheet.schema unified.placements unified.schema
    mappings := merged.mappings ++ [unified.placements.map (·.slot)]
    diagnostics := merged.diagnostics ++ unified.diagnostics }

/-- A row of a sheet on its way into the table. -/
structure SourceRow where
  /-- The position of the sheet. -/
  source : Nat
  sheet : IngestedSheet
  /-- The merged slots of the sheet's columns. -/
  mapping : List Nat
  row : TableRow

/-- The rows of all sheets, in the order of sheets and then of rows. -/
def sourceRows (sheets : List IngestedSheet) (mappings : List (List Nat)) : List SourceRow :=
  (sheets.zip mappings).zipIdx.flatMap fun ((sheet, mapping), source) =>
    sheet.rows.map fun row => ⟨source, sheet, mapping, row⟩

/-- The slot of a sheet's column that a merged slot takes its value from. -/
def SourceRow.slotFor? (given : SourceRow) (merged : Nat) : Option Nat :=
  given.mapping.findIdx? (· == merged)

/-- One merged cell. -/
def SourceRow.cell (given : SourceRow) (column : Column) (merged : Nat) : CellProvenance :=
  match given.slotFor? merged with
  | some slot =>
    { source := given.source, row := given.row.row
      column := (given.sheet.schema.column? slot).map (·.gridColumn)
      value := given.row.value slot }
  | none =>
    { source := given.source, row := given.row.row, column := none
      value := (column.dataType.map DataType.mergeDefault).getD "" }

/-- The cells of a merged row. -/
def SourceRow.cells (given : SourceRow) (schema : Schema) : List CellProvenance :=
  schema.slots.map fun (column, slot) => given.cell column slot

/-- The element count of a merged cell, if its sheet recorded one. -/
def SourceRow.size? (given : SourceRow) (merged : Nat) : Option Nat :=
  (given.slotFor? merged).bind fun slot => given.sheet.sizes.get? given.sheet.name slot given.row.row

/-- The element counts of a group's rows, under the name of the group. -/
def mergedSizes (group : String) (schema : Schema) (rows : List SourceRow) : SizeIndex :=
  rows.zipIdx.foldl (fun sizes (row, position) =>
    schema.slots.foldl (fun sizes (_, slot) =>
      match row.size? slot with
      | some size => sizes.record group slot (position + 1) size
      | none => sizes) sizes) SizeIndex.empty

end Merge

/-- A merge table with what it adds to the indexes of a run. -/
structure MergeOutcome where
  table : MergeTable
  diagnostics : List Diagnostic
  sizes : SizeIndex
  origins : ReferenceIndex

namespace MergeOutcome

/-- The sheets of a group as one table, or nothing when the first has no merge tuple. -/
def ofSheets? (group : String) (sheets : List IngestedSheet) (referenceOnly : Bool) :
    Option MergeOutcome := do
  let first ← sheets.head?
  let header ← first.schema.merge
  let start : Schema := { Schema.blank first.schema.origin .merge with
    name := group, merge := some header }
  let merged := sheets.foldl (Merge.addSheet group) ⟨start, [], []⟩
  let given := Merge.sourceRows sheets merged.mappings
  let provenance := given.map (·.cells merged.schema)
  let rows := provenance.zipIdx.map fun (cells, position) =>
    (⟨position + 1, cells.map (·.value)⟩ : TableRow)
  return {
    table := {
      name := group
      groupField := header.groupField
      shardSize := header.shardSize
      sources := sheets.map (·.schema.origin)
      schema := merged.schema
      rows := rows
      provenance := provenance
      shards := none
      referenceOnly := referenceOnly }
    diagnostics := merged.diagnostics
    sizes := Merge.mergedSizes group merged.schema given
    origins := rows.foldl (fun origins row => RowIngest.recordOrigins merged.schema row origins)
      ReferenceIndex.empty }

end MergeOutcome

end DesignTables
