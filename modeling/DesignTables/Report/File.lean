import DesignTables.Report.Format
import DesignTables.Report.Row
import DesignTables.Text.Quoted
import DesignTables.Workbook.File

/-!
The files of a problem report: one row for every diagnostic, in the order in which they were found.
-/
namespace DesignTables.Report

/-- A field between commas. It is quoted, and its quotes are doubled, if it holds a comma, a quote
or a line break. -/
def csvField (s : String) : String :=
  if s.toList.any (",\"\r\n".toList.contains ·) then
    "\"" ++ Text.replaceAll "\"" "\"\"" s ++ "\""
  else s

/-- Fields on one line. -/
def csvLine (fields : List String) : String :=
  Text.joinWith "," (fields.map csvField) ++ "\n"

/-- The names of the fields. -/
def fieldNames : List String :=
  ["file", "sheet", "column_label", "column", "row", "code", "message", "cell"]

/-- The fields of a row as they are shown. -/
def shownFields (row : ReportRow) : List String :=
  [row.file, row.sheet, row.columnLabel, row.column, writeNat row.row, row.code.name, row.message,
    row.cell]

/-- The report as comma-separated values under their names; nothing at all without a row. -/
def csv (rows : List ReportRow) : String :=
  if rows.isEmpty then ""
  else String.join ((fieldNames :: rows.map shownFields).map csvLine)

/-- The fields of a row as JSON values. -/
def jsonFields (row : ReportRow) : List String :=
  [Text.jsonString row.file, Text.jsonString row.sheet, Text.jsonString row.columnLabel,
    Text.jsonString row.column, writeNat row.row, Text.jsonString row.code.name,
    Text.jsonString row.message, Text.jsonString row.cell]

/-- A row as a JSON object, a field on each line. -/
def jsonObject (row : ReportRow) : String :=
  let fields := (fieldNames.zip (jsonFields row)).map fun (name, value) =>
    "    " ++ Text.jsonString name ++ ": " ++ value
  "  \x7b\n" ++ Text.joinWith ",\n" fields ++ "\n  \x7d"

/-- The report as a JSON array of objects. -/
def json (rows : List ReportRow) : String :=
  if rows.isEmpty then "[]"
  else "[\n" ++ Text.joinWith ",\n" (rows.map jsonObject) ++ "\n]"

/-- The titles of the report sheet. -/
def titles : List String :=
  ["File", "Sheet", "Column Label", "Column", "Row", "Code", "Message", "Link"]

/-- A cell with a text. -/
def textCell (s : String) : WrittenCell := .value (.text s)

/-- A diagnostic as a row of the report sheet, with a link to its cell at the end. -/
def sheetRow (d : Diagnostic) : List WrittenCell :=
  let row := ReportRow.ofDiagnostic d
  [textCell row.file, textCell row.sheet, textCell row.columnLabel, textCell row.column,
    .value (.number (Double.ofDecimal false row.row 0)), textCell row.code.name,
    textCell row.message, .formula d.link ""]

/-- The report as a workbook of one sheet. -/
def workbook (diagnostics : List Diagnostic) : List WrittenSheet :=
  [⟨"ExportError", titles.map textCell :: diagnostics.map sheetRow⟩]

/-- The file of a report. -/
def render (format : ReportFormat) (diagnostics : List Diagnostic) : FileContent :=
  match format with
  | .xlsx => .workbook (workbook diagnostics)
  | .csv => .text (csv (diagnostics.map ReportRow.ofDiagnostic))
  | .json => .text (json (diagnostics.map ReportRow.ofDiagnostic))

end DesignTables.Report
