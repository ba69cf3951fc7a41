import DesignTables.Log.Level

/-!
Log entries: events with the spans of work around them, and the ends of those spans.

An event that a worker tells of stands outside all spans, since the spans belong to the thread that
coordinates the work.
-/
namespace DesignTables.Log

/-- The parts of the program that write to the log. -/
inductive Part where
  | commands | configuration | report | folder | header | run | pool | state | merge | validation
  | emission
deriving DecidableEq, Repr

/-- The module path under which a part appears in the log. -/
def Part.path : Part → String
  | commands => "tablec::commands"
  | configuration => "tablec_cli::config"
  | report => "tablec_cli::report"
  | folder => "tablec_ingest::workbook"
  | header => "tablec_ingest::header"
  | run => "tablec_core::pipeline"
  | pool => "tablec_core::pool"
  | state => "tablec_core::state"
  | merge => "tablec_core::merge"
  | validation => "tablec_validate::engine"
  | emission => "tablec_emit::writer"

/-- The value of a field. -/
inductive Value where
  /-- A text that is shown as it is. -/
  | bare (text : String)
  /-- A text that is shown between quotes. -/
  | quoted (text : String)
  | count (value : Nat)
  | flag (value : Bool)
  /-- How long something took, which is not measured here. -/
  | duration
deriving DecidableEq, Repr

/-- A named value of an event or of a span. -/
structure Field where
  name : String
  value : Value
deriving DecidableEq, Repr

/-- A stretch of work; entries within it are shown with its fields. All spans are of level `info`. -/
structure Span where
  name : String
  part : Part
  fields : List Field
deriving DecidableEq, Repr

/-- The level of spans. -/
def Span.level : Level := .info

/-- Something that happened. -/
structure Event where
  level : Level
  part : Part
  message : String
  fields : List Field
  /-- A worker tells of it. -/
  isWorkers : Bool
deriving DecidableEq, Repr

namespace Event

/-- An event of the coordinating thread. -/
def of (level : Level) (part : Part) (message : String) (fields : List Field) : Event :=
  ⟨level, part, message, fields, false⟩

/-- An event of a worker, which is of level `debug`. -/
def ofWorker (part : Part) (message : String) (fields : List Field) : Event :=
  ⟨.debug, part, message, fields, true⟩

end Event

/-- An entry of the log. -/
inductive Entry where
  /-- An event with the spans around it, the outermost first. -/
  | occurred (event : Event) (spans : List Span)
  /-- The end of a span with the spans that are still open around it. -/
  | closed (span : Span) (around : List Span)
deriving DecidableEq, Repr

namespace Entry

/-- An event outside all spans. -/
def ofEvent (event : Event) : Entry := .occurred event []

/-- An entry within one more span, which is around all others. -/
def inside (span : Span) : Entry → Entry
  | .occurred event spans =>
    if event.isWorkers then .occurred event spans else .occurred event (span :: spans)
  | .closed inner around => .closed inner (span :: around)

/-- The entries of a span: those of the work within it, then its end. -/
def within (span : Span) (entries : List Entry) : List Entry :=
  entries.map (inside span) ++ [.closed span []]

end Entry

end DesignTables.Log
