import DesignTables.Compile.Context
import DesignTables.Compile.State
import DesignTables.Merge.Shards
import DesignTables.Merge.Unify
import DesignTables.Output.Files
import DesignTables.Validation.Table

/-!
A compile run: ingest the selected workbooks, look for the workbooks their tables refer to, ingest
those, merge, validate, write.

A stage is run only when no problem was found before it. So a run either writes everything or
writes nothing and tells every problem it found.
-/
namespace DesignTables

/-- The stages of a run. -/
inductive Stage where
  | ingest | references | merge | validate | emit
deriving DecidableEq, Repr

/-- The name of a stage. -/
def Stage.name : Stage → String
  | ingest => "ingest"
  | references => "references"
  | merge => "merge"
  | validate => "validate"
  | emit => "emit"

namespace RunContext

/-- The sheets of some workbooks, each with its workbook. -/
def sheetsOf (ctx : RunContext) (names : List String) : List (Workbook × Sheet) :=
  (names.filterMap ctx.workbook?).flatMap fun book => book.sheets.map fun sheet => (book, sheet)

/-- Ingests one sheet of a workbook. -/
def ingestSheet (ctx : RunContext) (book : Workbook) (sheet : Sheet) : Option IngestedSheet :=
  IngestedSheet.ofSheet? sheet (book.originOf sheet.name) ctx.catalog.mergeGroups

/-- The table sheets of some workbooks, ingested. -/
def ingestedOf (ctx : RunContext) (names : List String) : List IngestedSheet :=
  (ctx.sheetsOf names).filterMap fun (book, sheet) => ctx.ingestSheet book sheet

/-- Ingests some workbooks into the state of a run. -/
def ingestRound (ctx : RunContext) (names : List String) (referenceOnly : Bool)
    (state : CompileState) : CompileState :=
  let marked := (names.filter fun name => (ctx.workbook? name).isSome).foldl
    CompileState.markLoaded state
  (ctx.ingestedOf names).foldl (·.absorb · referenceOnly) marked

/-- The schemas of all tables and merge sheets. -/
def schemasOf (state : CompileState) : List Schema :=
  state.tables.map (·.schema) ++ state.mergeSheets.map (·.sheet.schema)

/-- The workbooks of a kind, when some schema needs one and no table of the kind was ingested. -/
def missingKind (ctx : RunContext) (state : CompileState) (kind : Kind)
    (isNeeded : TableNeeds → Bool) : List String :=
  if (schemasOf state).any (isNeeded ·.needs) && !state.hasKind kind then
    ctx.catalog.workbooksOfKind kind
  else []

/-- The workbooks that hold the merge groups and tables that a schema refers to. -/
def missingTargets (ctx : RunContext) (state : CompileState) (schema : Schema) : List String :=
  ((schema.needs.merges.filter (!state.hasMergeGroup ·)).flatMap ctx.catalog.workbooksInGroup) ++
  (schema.needs.tables.filter (!state.hasTable ·)).filterMap ctx.catalog.workbookOfSheet?

/-- The workbooks that the ingested tables refer to and that are not ingested yet. -/
def missingWorkbooks (ctx : RunContext) (state : CompileState) : List String :=
  (ctx.missingKind state .enumeration (·.enums) ++
    ctx.missingKind state .localization (·.localization) ++
    (schemasOf state).flatMap (ctx.missingTargets state)).eraseDups.filter (!state.isLoaded ·)

/-- A target of `check` directives that is no known table, at the first column that names it. -/
def unknownTarget (schema : Schema) (table : String) : Diagnostic :=
  let column := schema.columns.find? fun column => column.check.any (·.table == table)
  Diagnostic.of (.unknownCheckTable table) schema.origin ((column.map (·.title)).getD "")
    Header.directiveRow ((column.map (·.gridColumn)).getD 0)

/-- The targets of a schema's `check` directives that no workbook holds. -/
def unknownTargets (ctx : RunContext) (state : CompileState) (schema : Schema) :
    List Diagnostic :=
  (schema.needs.tables.filter fun table =>
    !state.hasTable table && (ctx.catalog.workbookOfSheet? table).isNone).map
    (unknownTarget schema)

end RunContext

namespace CompileState

/-- The shards of a merge table that is to be sharded, or the problems of sharding it. -/
def shardMerge (table : MergeTable) : MergeTable × List Diagnostic :=
  if 0 < table.shardSize && !table.referenceOnly then
    match table.partition with
    | .ok plan => ({ table with shards := some plan }, [])
    | .error found => (table, found)
  else (table, [])

/-- The unified table of a merge group. -/
def mergeOutcome? (state : CompileState) (group : String) : Option MergeOutcome :=
  let pending := state.sheetsOfGroup group
  MergeOutcome.ofSheets? group (pending.map (·.sheet)) (pending.all (·.referenceOnly))

/-- Unifies the sheets of a merge group. -/
def buildMerge (state : CompileState) (group : String) : CompileState :=
  match state.mergeOutcome? group with
  | none => state
  | some outcome =>
    let (table, found) := shardMerge outcome.table
    { state with
      references := state.references.absorb outcome.origins
      sizes := state.sizes.absorb outcome.sizes
      merges := state.merges ++ [table] }.report (outcome.diagnostics ++ found)

/-- Unifies the sheets of every merge group. -/
def buildMerges (state : CompileState) : CompileState :=
  state.mergeGroups.foldl buildMerge state

/-- The tables to validate: plain data tables, then merge tables, without those that only serve
look-ups. -/
def targets (state : CompileState) : List ValidationTarget :=
  ((state.tables.filter fun table => !table.referenceOnly && table.schema.kind == .data).map
    fun table => .sheet table.schema table.rows) ++
  ((state.merges.filter (!·.referenceOnly)).map .merged)

/-- What the tables are validated against. -/
def validationContext (state : CompileState) : ValidationContext :=
  ⟨state.enums, state.localization, state.references, state.sizes⟩

end CompileState

/-- The result of validating all tables of a run. -/
structure Validated where
  state : CompileState
  results : List TableValidation
  overlay : Overlay

namespace Validated

/-- Validates the tables of a run. -/
def ofState (state : CompileState) : Validated :=
  let results := state.targets.map fun target =>
    TableValidation.ofTarget target state.validationContext
  { state := state.report (results.flatMap (·.diagnostics))
    results := results
    overlay := results.foldl (fun overlay result => overlay.absorb result.overlay)
      Overlay.empty }

/-- The slots of a table that are written from the overlay, by its last result. -/
def changedOf (validated : Validated) (table : String) : List Nat :=
  ((validated.results.reverse.find? (·.table == table)).map (·.changed)).getD []

/-- Everything that a validated run writes. -/
def output (validated : Validated) : Output where
  tables :=
    ((validated.state.tables.filter fun table =>
        !table.referenceOnly &&
          (table.schema.kind == .data || table.schema.kind == .enumeration)).map
      fun table => ⟨table.schema, table.rows, validated.changedOf table.schema.name, none⟩) ++
    ((validated.state.merges.filter (!·.referenceOnly)).map fun table =>
      OutputTable.ofMerge table (validated.changedOf table.name))
  overlay := validated.overlay
  enums := validated.state.enums
  localization := validated.state.localization

end Validated

/-- The course of a run: the state after each stage that was run. -/
structure Run where
  /-- After the selected workbooks were ingested. -/
  ingested : CompileState
  /-- After the tables that the first ones refer to were looked for, with the workbooks to ingest
  for them. -/
  lookedUp : Option (CompileState × List String)
  /-- After those workbooks were ingested. -/
  referenced : Option CompileState
  merged : Option CompileState
  validated : Option Validated

namespace Run

/-- Looks for the tables that the ingested ones refer to. -/
def lookUp (ctx : RunContext) (state : CompileState) : CompileState × List String :=
  (state.report ((RunContext.schemasOf state).flatMap (ctx.unknownTargets state)),
   ctx.missingWorkbooks state)

/-- Runs every stage up to validation. -/
def ofContext (ctx : RunContext) : Run :=
  let ingested := ctx.ingestRound ctx.selected false CompileState.empty
  let lookedUp := if ingested.isClean then some (lookUp ctx ingested) else none
  let referenced := (lookedUp.filter (·.1.isClean)).map fun (state, missing) =>
    ctx.ingestRound missing true state
  let merged := (referenced.filter (·.isClean)).map CompileState.buildMerges
  let validated := (merged.filter (·.isClean)).map Validated.ofState
  ⟨ingested, lookedUp, referenced, merged, validated⟩

/-- The state after the last stage that was run. -/
def finalState (run : Run) : CompileState :=
  match run.validated, run.merged, run.referenced, run.lookedUp with
  | some validated, _, _, _ => validated.state
  | none, some merged, _, _ => merged
  | none, none, some referenced, _ => referenced
  | none, none, none, some (state, _) => state
  | none, none, none, none => run.ingested

/-- The stage that the run ended in; a clean run ends with writing. -/
def stage (run : Run) : Stage :=
  match run.validated, run.merged, run.lookedUp with
  | some validated, _, _ => if validated.state.isClean then .emit else .validate
  | none, some _, _ => .merge
  | none, none, some _ => .references
  | none, none, none => .ingest

/-- The files that the run writes: none unless it is clean and not dry. -/
def files (run : Run) (ctx : RunContext) : List OutputFile :=
  match run.validated with
  | some validated =>
    if validated.state.isClean && !ctx.dryRun then validated.output.files ctx.options else []
  | none => []

end Run

/-- One table in the summary of a run. -/
structure TableReport where
  name : String
  kind : Kind
  file : String
  rows : Nat
  columns : Nat
  shards : Nat
  referenceOnly : Bool
deriving DecidableEq, Repr

/-- What a run that did not fail comes to. -/
structure RunOutcome where
  diagnostics : List Diagnostic
  tables : List TableReport
  /-- The files that were written, in order. -/
  files : List OutputFile
  stage : Stage
  enumGroups : Nat
  localizationKeys : Nat
deriving DecidableEq, Repr

namespace RunOutcome

/-- Whether the run found no problem. -/
def succeeded (outcome : RunOutcome) : Bool := outcome.diagnostics.isEmpty

/-- The tables of a run for its summary. -/
def tableReports (state : CompileState) : List TableReport :=
  (state.tables.map fun table =>
    { name := table.schema.name, kind := table.schema.kind, file := table.schema.origin.file
      rows := table.rows.length, columns := table.schema.exported.length, shards := 0
      referenceOnly := table.referenceOnly }) ++
  state.merges.map fun table =>
    { name := table.name, kind := .merge, file := table.schema.origin.file
      rows := table.rows.length, columns := table.schema.exported.length
      shards := (table.shards.map (·.shards.length)).getD 0
      referenceOnly := table.referenceOnly }

/-- The outcome of a run that wrote some files. -/
def ofRun (run : Run) (files : List OutputFile) : RunOutcome where
  diagnostics := run.finalState.diagnostics
  tables := tableReports run.finalState
  files := files
  stage := run.stage
  enumGroups := run.finalState.enums.groups.length
  localizationKeys := run.finalState.localization.size

end RunOutcome

/-- A run with what it did to the files. -/
structure Compilation (α : Type) where
  run : Run
  /-- Absent when the run ended before writing. -/
  emission : Option (Emission α)
  tree : FileTree α

namespace Compilation

variable {α : Type}

/-- Whether the run gets as far as writing. -/
def writes (run : Run) (ctx : RunContext) : Bool := run.stage == .emit && !ctx.dryRun

/-- Runs all stages over a tree of files. -/
def compile (ofText : String → α) (tree : FileTree α) (ctx : RunContext) : Compilation α :=
  let run := Run.ofContext ctx
  if writes run ctx then
    let emission := Emission.ofFiles ofText tree ctx.options.outputRoot (run.files ctx)
    ⟨run, some emission, emission.tree⟩
  else ⟨run, none, tree⟩

/-- The path at which writing failed with the fault, or the outcome of the run. -/
def outcome (compilation : Compilation α) : Except (String × FileFault) RunOutcome :=
  match compilation.emission with
  | some emission =>
    match emission.failure with
    | some failure => .error failure
    | none => .ok (RunOutcome.ofRun compilation.run emission.written)
  | none => .ok (RunOutcome.ofRun compilation.run [])

end Compilation

end DesignTables
