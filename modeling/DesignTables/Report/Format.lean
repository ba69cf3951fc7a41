import DesignTables.Report.Timestamp
import DesignTables.Text.Case
import DesignTables.Text.Path

/-!
The formats of a problem report, and where a report goes that was given no path.
-/
namespace DesignTables

/-- A format of a report. -/
inductive ReportFormat where
  | xlsx | csv | json
deriving DecidableEq, Repr

namespace ReportFormat

/-- The name of a format, which is the ending of its files too. -/
def name : ReportFormat → String
  | xlsx => "xlsx"
  | csv => "csv"
  | json => "json"

/-- The format of a name. -/
def ofName? : String → Option ReportFormat
  | "xlsx" => some xlsx
  | "csv" => some csv
  | "json" => some json
  | _ => none

/-- The format of a report that nothing decides. -/
def standard : ReportFormat := xlsx

/-- The format that the ending of a path tells, in any ASCII case. -/
def ofPath? (path : String) : Option ReportFormat :=
  (Path.extension? path).bind fun ending => ofName? (Text.asciiLower ending)

end ReportFormat

namespace Report

/-- The directory of reports that were given no path. -/
def directory : String := "error"

/-- The path of a report that was given none. -/
def standardPath (now : Timestamp) (format : ReportFormat) : String :=
  Path.join directory ("ExportError_" ++ now.fileText ++ "." ++ format.name)

/-- Where a report goes, and in which format. A format that is asked for wins over the ending of
the path. -/
def target (path : Option String) (format : Option ReportFormat) (now : Timestamp) :
    String × ReportFormat :=
  match path with
  | some path => (path, (format.or (ReportFormat.ofPath? path)).getD .standard)
  | none =>
    let format := format.getD .standard
    (standardPath now format, format)

end Report

end DesignTables
