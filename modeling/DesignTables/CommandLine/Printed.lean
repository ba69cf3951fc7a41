import DesignTables.Catalog.Basic
import DesignTables.Compile.Run

/-!
What the commands print: lines and tables.

A count of nothing and a text of no characters stand in a table as a dash.
-/
namespace DesignTables.CommandLine

/-- Something printed. -/
inductive Printed where
  | line (text : String)
  /-- A table by its rows, the titles first. -/
  | table (rows : List (List String))
deriving DecidableEq, Repr

namespace Printed

/-- What stands for nothing in a table. -/
def dash : String := "-"

/-- A text in a table. -/
def shown (s : String) : String := if s.isEmpty then dash else s

/-- A count in a table. -/
def shownCount (n : Nat) : String := if n = 0 then dash else writeNat n

/-- The workbooks of a folder with their table sheets. -/
def catalog (catalog : Catalog) : Printed :=
  .table (["Workbook", "Kind", "Tables", "Merge Group"] ::
    catalog.entries.map fun entry =>
      [entry.name, (entry.kind.map Kind.tag).getD dash,
        shown (Text.joinWith ", " entry.tables), entry.mergeGroup.getD dash])

/-- A table of a run; one that serves look-ups only is set off by an arrow. -/
def tableRow (report : TableReport) : List String :=
  [if report.referenceOnly then "  -> " ++ report.name else report.name, report.kind.tag,
    report.file, writeNat report.rows, writeNat report.columns, shownCount report.shards]

/-- The tables of a run, and the sums over those that it wrote. -/
def tables (reports : List TableReport) : Printed :=
  let own := reports.filter (!·.referenceOnly)
  let total := fun count : TableReport → Nat =>
    own.foldl (fun total report => total + count report) 0
  .table (["Table", "Kind", "Workbook", "Rows", "Columns", "Shards"] ::
    (reports.map tableRow ++
      [["TOTAL", dash, dash, writeNat (total (·.rows)), dash, shownCount (total (·.shards))]]))

/-- The problems of a run. -/
def diagnostics (found : List Diagnostic) : Printed :=
  .table (["File", "Sheet", "Cell", "Column", "Code", "Message"] ::
    found.map fun d =>
      [d.file, d.sheet, d.address, shown d.columnLabel, d.code.name, d.message])

/-- A text filled up with blanks behind it. -/
def padTo (width : Nat) (s : String) : String :=
  s ++ String.ofList (List.replicate (width - s.length) ' ')

/-- The width of each of some columns in rows. -/
def widths (columns : Nat) (rows : List (List String)) : List Nat :=
  (List.range columns).map fun column =>
    (rows.map fun row => ((row[column]?).getD "").length).foldl max 0

/-- The lines on a terminal. The columns of a table are two blanks apart. -/
def lines : Printed → List String
  | line text => [text]
  | table rows =>
    let widths := widths ((rows.map List.length).foldl max 0) rows
    rows.map fun row => Text.joinWith "  " (List.zipWith padTo widths row)

end Printed

end DesignTables.CommandLine
