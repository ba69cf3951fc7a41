import DesignTables.Header.Compile
import DesignTables.Ingest.Rows
import DesignTables.Text.Path

/-!
One sheet ingested: its schema and, when its header is clean, its rows.
-/
namespace DesignTables

/-- An ingested table sheet. -/
structure IngestedSheet where
  schema : Schema
  rows : List TableRow
  /-- The problems of the header, or those of the cells when the header is clean. -/
  diagnostics : List Diagnostic
  sizes : SizeIndex
  origins : ReferenceIndex

namespace IngestedSheet

/-- The name of the table. -/
def name (sheet : IngestedSheet) : String := sheet.schema.name

/-- Ingests a sheet, or nothing when the sheet is no table. -/
def ofSheet? (sheet : Sheet) (origin : SheetOrigin) (mergeGroups : List String) :
    Option IngestedSheet :=
  (Header.compile? sheet origin mergeGroups).map fun schema =>
    if schema.isClean then
      let read := RowIngest.ofGrid schema sheet.grid
      ⟨schema, read.rows, read.diagnostics, read.sizes, read.origins⟩
    else ⟨schema, [], schema.diagnostics, SizeIndex.empty, ReferenceIndex.empty⟩

end IngestedSheet

namespace Workbook

/-- Where diagnostics for a sheet of a workbook point. -/
def originOf (book : Workbook) (sheet : String) : SheetOrigin :=
  ⟨(Path.parent? book.path).getD "", book.name, sheet⟩

/-- The table sheets of a workbook, ingested in order. -/
def ingest (book : Workbook) (mergeGroups : List String) : List IngestedSheet :=
  book.sheets.filterMap fun sheet =>
    IngestedSheet.ofSheet? sheet (book.originOf sheet.name) mergeGroups

end Workbook

end DesignTables
