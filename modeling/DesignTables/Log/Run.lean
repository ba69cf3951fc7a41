import DesignTables.Compile.Run
import DesignTables.Log.Entry
import DesignTables.Pool.Basic

/-!
The log entries of a compile run, told from its course.

Every phase has a span within the span of the run. What a worker does is told between the start of
the pool and the first result that is taken over, in the order of the tasks.
-/
namespace DesignTables.Log

namespace Field

/-- A field with a text that is shown as it is. -/
def bare (name text : String) : Field := ⟨name, .bare text⟩

/-- A field with a text that is shown between quotes. -/
def quoted (name text : String) : Field := ⟨name, .quoted text⟩

/-- A field with a number. -/
def count (name : String) (value : Nat) : Field := ⟨name, .count value⟩

/-- A field with a truth value. -/
def flag (name : String) (value : Bool) : Field := ⟨name, .flag value⟩

/-- The field that tells how long something took. -/
def duration : Field := ⟨"duration_ms", .duration⟩

end Field

/-- The span of a phase. -/
def phaseSpan (name : String) : Span := ⟨"phase", .run, [.quoted "phase" name]⟩

/-- The end of a phase. -/
def phaseComplete (fields : List Field) : Entry :=
  .ofEvent (.of .info .run "phase complete" (fields ++ [.duration]))

/-- The start of the pool for some tasks; it is not started for none. -/
def poolEntries (workers : Nat) (phase : Phase) (tasks : Nat) : List Entry :=
  if tasks = 0 then []
  else [.ofEvent (.of .debug .pool "starting worker pool"
    [.bare "phase" phase.name, .count "tasks" tasks,
      .count "workers" (Pool.startedWorkers workers tasks)])]

/-- The export flag of a grid column that has all it takes to be a column but a known flag. -/
def unknownFlag? (grid : Grid) (col : Nat) : Option String := do
  let _ ← grid.text? Header.titleRow col
  let _ ← grid.text? Header.directiveRow col
  let flag ← grid.text? Header.exportRow col
  if (ExportMode.ofFlag? flag).isNone then some flag else none

/-- The columns of a sheet that are skipped for their export flags. -/
def skippedColumns (sheet : Sheet) : List Event :=
  ((List.range sheet.grid.width).drop 1).filterMap fun col =>
    (unknownFlag? sheet.grid col).map fun flag =>
      .ofWorker .header "skipping column with unknown export flag"
        [.bare "sheet" sheet.name, .count "column" col, .bare "flag" flag]

/-- The unknown directives of a column. -/
def unknownDirectives (schema : Schema) (column : Column) : List Event :=
  (Header.directivesOf column).filterMap fun directive =>
    match directive with
    | .unknown token => some (.ofWorker .header "ignoring unknown directive"
        [.bare "sheet" schema.name, .bare "column" column.title, .bare "token" token])
    | _ => none

/-- What a worker tells of the header of a sheet. -/
def headerEvents (sheet : Sheet) (schema : Schema) : List Event :=
  skippedColumns sheet ++ schema.columns.flatMap (unknownDirectives schema) ++
  [.ofWorker .header "compiled header"
    [.bare "sheet" schema.name, .quoted "kind" schema.kind.tag,
      .count "columns" schema.columns.length, .count "structural" schema.diagnostics.length]]

/-- What workers tell of the sheets of some workbooks. -/
def sheetEntries (ctx : RunContext) (names : List String) : List Entry :=
  (ctx.sheetsOf names).flatMap fun (book, sheet) =>
    match ctx.ingestSheet book sheet with
    | some ingested => (headerEvents sheet ingested.schema).map .ofEvent
    | none => []

/-- Taking over an ingested sheet. -/
def absorbEvent (referenceOnly : Bool) (sheet : IngestedSheet) : Event :=
  if sheet.schema.kind = .merge then
    .of .debug .state "queued merge sheet"
      [.bare "sheet" sheet.name, .count "rows" sheet.rows.length]
  else
    .of .debug .state "loaded table"
      [.bare "sheet" sheet.name, .quoted "kind" sheet.schema.kind.tag,
        .count "rows" sheet.rows.length, .flag "reference_only" referenceOnly]

/-- Taking over some sheets, given the names of the tables before them. A sheet whose name is taken
is not mentioned. -/
def absorbEntries (referenceOnly : Bool) : List String → List IngestedSheet → List Entry
  | _, [] => []
  | known, sheet :: rest =>
    if known.contains sheet.name then absorbEntries referenceOnly known rest
    else .ofEvent (absorbEvent referenceOnly sheet) ::
      absorbEntries referenceOnly (sheet.name :: known) rest

/-- The entries of ingesting some workbooks, given the states before and after it. -/
def ingestEntries (workers : Nat) (ctx : RunContext) (phase : Phase) (names : List String)
    (referenceOnly : Bool) (before after : CompileState) : List Entry :=
  let sheets := ctx.ingestedOf names
  let tasks := (ctx.sheetsOf names).length
  Entry.within (phaseSpan phase.name)
    (poolEntries workers phase tasks ++ sheetEntries ctx names ++
      absorbEntries referenceOnly before.names sheets ++
      [phaseComplete
        [.quoted "phase" phase.name, .count "workbooks" names.length, .count "sheets" tasks,
          .count "tables" sheets.length, .count "diagnostics" after.diagnostics.length]])

/-- Unifying a merge group. -/
def unifiedGroup? (state : CompileState) (group : String) : Option Entry :=
  (state.mergeOutcome? group).map fun outcome =>
    .ofEvent (.of .debug .merge "merged group"
      [.quoted "merge" group, .count "sheets" outcome.table.sources.length,
        .count "columns" outcome.table.schema.columns.length,
        .count "rows" outcome.table.rows.length,
        .count "diagnostics" outcome.diagnostics.length])

/-- The entries of unifying all merge groups, given the states before and after it. -/
def mergeEntries (before after : CompileState) : List Entry :=
  Entry.within (phaseSpan "merge")
    (before.mergeGroups.filterMap (unifiedGroup? before) ++
      [phaseComplete
        [.count "merges" after.merges.length, .count "diagnostics" after.diagnostics.length]])

/-- What a worker tells of a table that it validated. -/
def tableEvent (target : ValidationTarget) (result : TableValidation) : Event :=
  .ofWorker .validation "validated table"
    [.bare "table" result.table, .count "rows" target.rows.length,
      .count "diagnostics" result.diagnostics.length, .count "overrides" result.overlay.size]

/-- The entries of validating all tables, given the state before it. -/
def validationEntries (workers : Nat) (before : CompileState) (validated : Validated) :
    List Entry :=
  let targets := before.targets
  let found := validated.results.flatMap (·.diagnostics)
  Entry.within (phaseSpan Phase.validate.name)
    (poolEntries workers .validate targets.length ++
      (targets.zip validated.results).map (fun (target, result) =>
        .ofEvent (tableEvent target result)) ++
      [phaseComplete
        [.count "tables" targets.length, .count "diagnostics" found.length,
          .count "overrides" validated.overlay.size]])

/-- A file that was written. -/
def fileEntry (file : OutputFile) : Entry :=
  .ofEvent (.of .debug .emission "wrote file"
    [.bare "path" file.path, .quoted "kind" file.role.name,
      .count "entries" file.content.entries])

/-- The entries of writing the files of some tables. -/
def emissionEntries {α : Type} (root : String) (tables : Nat) (emission : Emission α) :
    List Entry :=
  let complete :=
    if emission.failure.isSome then []
    else [.ofEvent (.of .info .emission "emission complete"
      [.count "tables" tables, .count "files" emission.written.length])]
  Entry.within ⟨"emit", .emission, [.bare "root" root]⟩
    (emission.written.map fileEntry ++ complete)

/-- The end of a run that did not fail. -/
def outcomeEntry (outcome : RunOutcome) : Entry :=
  .ofEvent <|
    if outcome.succeeded then
      .of .info .run "run complete"
        [.bare "stage" outcome.stage.name, .count "tables" outcome.tables.length,
          .count "files" outcome.files.length, .duration]
    else
      .of .warn .run "run stopped with diagnostics"
        [.bare "stage" outcome.stage.name, .count "diagnostics" outcome.diagnostics.length,
          .duration]

/-- The entries of the stages up to validation. -/
def stageEntries (workers : Nat) (ctx : RunContext) (run : Run) : List Entry :=
  let referenced :=
    match run.lookedUp, run.referenced with
    | some (before, missing), some after =>
      ingestEntries workers ctx .references missing true before after
    | _, _ => []
  let merged :=
    match run.referenced, run.merged with
    | some before, some after => mergeEntries before after
    | _, _ => []
  let validated :=
    match run.merged, run.validated with
    | some before, some after => validationEntries workers before after
    | _, _ => []
  ingestEntries workers ctx .ingest ctx.selected false CompileState.empty run.ingested ++
    referenced ++ merged ++ validated

/-- The entries of writing, or of leaving it out in a dry run. -/
def writingEntries {α : Type} (ctx : RunContext) (compilation : Compilation α) : List Entry :=
  match compilation.emission, compilation.run.validated with
  | some emission, some validated =>
    emissionEntries ctx.options.outputRoot validated.output.tables.length emission
  | _, _ =>
    if ctx.dryRun && compilation.run.stage == .emit then
      [.ofEvent (.of .info .run "dry run, skipping emission" [])]
    else []

/-- The entries of a run. -/
def runEntries {α : Type} (workers : Nat) (ctx : RunContext) (compilation : Compilation α) :
    List Entry :=
  let ending :=
    match compilation.outcome with
    | .ok outcome => [outcomeEntry outcome]
    | .error _ => []
  Entry.within
    ⟨"run", .run, [.count "workbooks" ctx.workbooks.length, .count "selected" ctx.selected.length,
      .flag "dry_run" ctx.dryRun]⟩
    (stageEntries workers ctx compilation.run ++ writingEntries ctx compilation ++ ending)

end DesignTables.Log
