import DesignTables.Log.Directive

/-!
Filters: which entries are written.

A filter is a list of directives between commas. An event is written if the most specific of the
directives that decide about it admits its level, or if a directive for a span around it does. The
spans shown around an entry are those that the filter opens, and the end of a span is written if
the span was opened.
-/
namespace DesignTables.Log

/-- A list of directives. -/
structure Filter where
  directives : List Directive
deriving DecidableEq, Repr

/-- What the spans around an entry come to. -/
structure Scope where
  /-- The spans that are open for the log, the outermost first. -/
  spans : List Span
  /-- The rank of the last level that a directive for one of the spans admits. -/
  reach : Nat
deriving DecidableEq, Repr

namespace Filter

/-- Reads a filter. Without any directive only errors are let through. -/
def read? (s : String) : Option Filter :=
  let pieces := (Text.splitOn ',' s).filter (!·.isEmpty)
  (pieces.mapM Directive.read?).map fun directives =>
    ⟨if directives.isEmpty then [.ofTarget none (.upTo .error)] else directives⟩

/-- The rank of the last level that any of some directives admits. -/
def reachOf (directives : List Directive) : Nat :=
  directives.foldl (fun reach directive => max reach directive.threshold.rank) 0

/-- Directives without those that a later one replaces. -/
def latest : List Directive → List Directive
  | [] => []
  | directive :: rest =>
    if rest.any directive.isForSame then latest rest else directive :: latest rest

/-- The directives that open spans, replaced ones included. -/
def spanDirectives (filter : Filter) : List Directive := filter.directives.filter (·.opensSpans)

/-- The rank of the last level at which anything is looked at. Where the value of a field is
tested, everything is. -/
def reach (filter : Filter) : Nat :=
  if filter.directives.any fun directive => directive.field.any (·.value.isSome) then
    Level.trace.rank
  else reachOf filter.directives

/-- The decisive one of two directives, the later one given second. -/
def heavier (chosen : Option Directive) (next : Directive) : Option Directive :=
  match chosen with
  | some directive =>
    if directive.weight < next.weight ||
        (directive.weight = next.weight && directive.fieldName ≤ next.fieldName) then
      some next
    else some directive
  | none => some next

/-- Whether the most specific of the directives that decide about something of a part admits a
level; `names` is the condition on the field of a directive. -/
def admits (filter : Filter) (part : Part) (names : FieldTest → Bool) (level : Level) : Bool :=
  let concerned := filter.directives.filter fun directive =>
    directive.decidesEvents && directive.concerns part && directive.field.all names
  (concerned.foldl heavier none).any (·.threshold.admits level)

/-- Whether a directive for a span around an entry lets a level through. -/
def admitsWithin (filter : Filter) (scope : Scope) (level : Level) : Bool :=
  level.rank ≤ reachOf filter.spanDirectives && level.rank ≤ scope.reach

/-- The scope within a span, if the span is opened. -/
def open? (filter : Filter) (scope : Scope) (span : Span) : Option Scope :=
  let concerned := (latest filter.spanDirectives).filter (·.concernsSpan span)
  if filter.reach < Span.level.rank then none
  else if !concerned.isEmpty then
    some ⟨scope.spans ++ [span],
      max scope.reach (reachOf (concerned.filter (·.acceptsFields span)))⟩
  else if filter.admitsWithin scope Span.level ||
      filter.admits span.part (fun _ => true) Span.level then
    some { scope with spans := scope.spans ++ [span] }
  else none

/-- The scope within spans, given from the outermost on. -/
def scopeOf (filter : Filter) (spans : List Span) : Scope :=
  spans.foldl (fun scope span => (filter.open? scope span).getD scope) ⟨[], 0⟩

/-- Whether an event is let through. -/
def admitsEvent (filter : Filter) (scope : Scope) (event : Event) : Bool :=
  filter.admitsWithin scope event.level ||
    filter.admits event.part
      (fun test => test.name == "message" || test.isNamedIn event.fields) event.level

/-- What is left of an entry: an event that is let through, or the end of a span that was opened,
with the open spans around it. -/
def keep? (filter : Filter) : Entry → Option Entry
  | .occurred event spans =>
    let scope := filter.scopeOf spans
    if filter.admitsEvent scope event then some (.occurred event scope.spans) else none
  | .closed span around =>
    let scope := filter.scopeOf around
    if (filter.open? scope span).isSome then some (.closed span scope.spans) else none

/-- The components of the compiler, which follow the level that is asked for. -/
def components : List String :=
  ["tablec", "tablec_cli", "tablec_core", "tablec_emit", "tablec_ingest", "tablec_model",
    "tablec_validate"]

/-- The directives of a filter for a level: all others stay with warnings. -/
def standardText (threshold : Threshold) : String :=
  Text.joinWith "," ("warn" :: components.map fun component => component ++ "=" ++ threshold.name)

/-- The filter for a level. -/
def standard (threshold : Threshold) : Filter :=
  ⟨.ofTarget none (.upTo .warn) ::
    components.map fun component => .ofTarget (some component) threshold⟩

/-- The filter of a run: the one that the environment gives, unless there is none, it cannot be read
or a level was asked for. -/
def choose (environment : Option String) (isLevelGiven : Bool) (threshold : Threshold) : Filter :=
  if isLevelGiven then standard threshold
  else (environment.bind read?).getD (standard threshold)

end Filter

end DesignTables.Log
