import DesignTables.Diagnostic.Basic
import DesignTables.Text.Path
import DesignTables.Text.Split

/-!
Diagnostics as rows of a report.
-/
namespace DesignTables

/-- A diagnostic as a row of a report. -/
structure ReportRow where
  file : String
  sheet : String
  columnLabel : String
  /-- The letters of the column. -/
  column : String
  row : Nat
  code : Code
  message : String
  /-- The address of the cell. -/
  cell : String
deriving DecidableEq, Repr

/-- The row of a diagnostic. The letters of its column are those of the address, which ends with the
digits of the row. -/
def ReportRow.ofDiagnostic (d : Diagnostic) : ReportRow where
  file := d.file
  sheet := d.sheet
  columnLabel := d.columnLabel
  column := Text.dropEndWhile isDigit d.address
  row := d.row
  code := d.code
  message := d.message
  cell := d.address

/-- What a diagnostic points at, as a spreadsheet names a cell of another workbook. In the name of
the sheet an apostrophe is doubled. -/
def Diagnostic.reference (d : Diagnostic) : String :=
  "[" ++ Path.join d.directory d.file ++ "]'" ++ Text.replaceAll "'" "''" d.sheet ++ "'!" ++
    d.address

/-- The spreadsheet formula that leads to the cell of a diagnostic. In the formula a quote is
doubled. -/
def Diagnostic.link (d : Diagnostic) : String :=
  "HYPERLINK(\"" ++ Text.replaceAll "\"" "\"\"" d.reference ++ "\",\"" ++ d.address ++ "\")"

end DesignTables
