import DesignTables.Proofs.Compile.Course
import DesignTables.Proofs.Indexing.Catalog
import DesignTables.Proofs.Indexing.Checks
import DesignTables.Proofs.Indexing.Files
import DesignTables.Proofs.Indexing.State
import DesignTables.Proofs.Pool.Schedules

/-!
# Runs that never fault

A run goes through its stages by accesses to lists, and leaves the sheets of a round and the tables
that it validates to workers. A task that faults would fail its phase. None does: the slots of every
schema are those of columns from its compilation on, also through merging, and what is noted of the
catalog and of the enumerations are positions of their entries.
-/
namespace DesignTables

/-- What keeps a run from its outcome: a worker that failed, or an access outside a list. -/
inductive Breakdown where
  | worker (failure : WorkerFailure)
  | access (fault : IndexFault)

/-- A part of a run. -/
abbrev Guarded := Except Breakdown

/-- Accesses as a part of a run. -/
def Access.guard {α : Type} (x : Access α) : Guarded α := x.mapError .access

/-- Does the work of every task of a phase. A task that faults fails. -/
def Pool.run! {α β : Type} (phase : Phase) (tasks : List α) (work : α → Access β) :
    Guarded (List β) :=
  (Pool.run phase tasks fun task => (work task).toOption).mapError .worker

/-- What a run is given, with a catalog that is searched by positions. -/
structure IndexedRunContext where
  options : Options
  workbooks : List Workbook
  catalog : IndexedCatalog
  selected : List String
  unknown : List String
  dryRun : Bool

/-- A sheet by the positions of its workbook and of itself there. -/
structure SheetTask where
  workbook : Nat
  sheet : Nat

/-- What every table of a state is validated against. -/
def IndexedState.context (run : IndexedState) : IndexedContext :=
  ⟨run.enums, run.rest.localization, run.rest.references, run.rest.sizes⟩

def IndexedState.validate! (run : IndexedState) : Guarded Validated := do
  let results ← Pool.run! .validate run.rest.targets fun target =>
    TableValidation.ofTarget! target run.context
  return {
    state := run.state.report (results.flatMap (·.diagnostics))
    results := results
    overlay := results.foldl (fun overlay result => overlay.absorb result.overlay)
      Overlay.empty }

namespace IndexedRunContext

/-- The same without positions. -/
def context (ctx : IndexedRunContext) : RunContext :=
  ⟨ctx.options, ctx.workbooks, ctx.catalog.catalog, ctx.selected, ctx.unknown, ctx.dryRun⟩

def choose! (catalog : IndexedCatalog) (selection : Selection) :
    Access (List String × List String) :=
  match selection with
  | .all => return ((catalog.entries.filter (·.kind.isSome)).map (·.name), [])
  | .named names => do
    let resolved ← names.mapM catalog.resolve!
    let selected ← catalog.expand! (resolved.filterMap id)
    return (selected, ((names.zip resolved).filter (·.2.isNone)).map (·.1))

def select! (options : Options) (workbooks : List Workbook) (selection : Selection)
    (dryRun : Bool) : Access IndexedRunContext := do
  let catalog := IndexedCatalog.ofWorkbooks workbooks
  let (selected, unknown) ← choose! catalog selection
  return ⟨options, workbooks, catalog, selected, unknown, dryRun⟩

def tasks! (ctx : IndexedRunContext) (names : List String) : Access (List SheetTask) := do
  let parts ← (names.filterMap ctx.context.indexOf?).mapM fun workbook => do
    let book ← Access.read ctx.workbooks workbook
    return (List.range book.sheets.length).map (SheetTask.mk workbook)
  return parts.flatten

def ingest! (ctx : IndexedRunContext) (task : SheetTask) : Access (Option IngestedSheet) := do
  let book ← Access.read ctx.workbooks task.workbook
  let sheet ← Access.read book.sheets task.sheet
  IngestedSheet.ofSheet! sheet (book.originOf sheet.name) ctx.catalog.catalog.mergeGroups

def ingestRound! (ctx : IndexedRunContext) (phase : Phase) (names : List String)
    (referenceOnly : Bool) (run : IndexedState) : Guarded IndexedState := do
  let tasks ← (ctx.tasks! names).guard
  let marked := { run with
    rest := (ctx.context.known names).foldl CompileState.markLoaded run.rest }
  let results ← Pool.run! phase tasks ctx.ingest!
  Access.guard <| (results.filterMap id).foldlM
    (fun (run : IndexedState) sheet => run.absorb! sheet referenceOnly) marked

def seek! (ctx : IndexedRunContext) (state : CompileState) (schema : Schema) :
    Access (List String × List Diagnostic) := do
  let groups ← (schema.needs.merges.filter (!state.hasMergeGroup ·)).mapM
    ctx.catalog.workbooksInGroup!
  let owners ← (schema.needs.tables.filter (!state.hasTable ·)).mapM fun table => do
    let owner ← ctx.catalog.workbookOfSheet! table
    return (table, owner)
  return (groups.flatten ++ owners.filterMap (·.2),
    (owners.filter (·.2.isNone)).map fun (table, _) => RunContext.unknownTarget schema table)

def lookUp! (ctx : IndexedRunContext) (run : IndexedState) :
    Access (IndexedState × List String) := do
  let sought ← (RunContext.schemasOf run.rest).mapM (ctx.seek! run.rest)
  let wanted := ctx.context.missingKind run.rest .enumeration (·.enums) ++
    ctx.context.missingKind run.rest .localization (·.localization) ++ sought.flatMap (·.1)
  return ({ run with rest := run.rest.report (sought.flatMap (·.2)) },
    wanted.eraseDups.filter (!run.rest.isLoaded ·))

end IndexedRunContext

def Run.ofContext! (ctx : IndexedRunContext) : Guarded (Run × List OutputFile) := do
  let ingested ← ctx.ingestRound! .ingest ctx.selected false IndexedState.empty
  if !ingested.rest.isClean then
    return (⟨ingested.state, none, none, none, none⟩, [])
  let (lookedUp, missing) ← (ctx.lookUp! ingested).guard
  let found := some (lookedUp.state, missing)
  if !lookedUp.rest.isClean then
    return (⟨ingested.state, found, none, none, none⟩, [])
  let referenced ← ctx.ingestRound! .references missing true lookedUp
  if !referenced.rest.isClean then
    return (⟨ingested.state, found, some referenced.state, none, none⟩, [])
  let merged ← referenced.buildMerges!.guard
  if !merged.rest.isClean then
    return (⟨ingested.state, found, some referenced.state, some merged.state, none⟩, [])
  let validated ← merged.validate!
  let run := ⟨ingested.state, found, some referenced.state, some merged.state, some validated⟩
  if validated.state.isClean && !ctx.dryRun then
    let files ← (validated.output.files! ctx.options).guard
    return (run, files)
  else
    return (run, [])

theorem Access.guard_ok {α : Type} (a : α) : Access.guard (.ok a) = Except.ok a := rfl

theorem Guarded.ok_bind {α β : Type} (a : α) (f : α → Guarded β) :
    ((.ok a : Guarded α) >>= f) = f a := rfl

theorem Pool.run!_eq_ok {α β : Type} (phase : Phase) {tasks : List α} {work : α → Access β}
    {results : List β} (h : tasks.map work = results.map .ok) :
    run! phase tasks work = .ok results := by
  have succeeds : (tasks.map fun task => (work task).toOption) = results.map some := by
    have both := congrArg (List.map Except.toOption) h
    rwa [List.map_map, List.map_map] at both
  rw [run!, Pool.run, succeeds, collect_map_some]
  rfl

namespace IndexedState

variable {run : IndexedState} {state : CompileState}

theorem Represents.linksInside_of_mem_targets (h : run.Represents state) {target : ValidationTarget}
    (mem : target ∈ state.targets) : target.schema.LinksInside := by
  rcases List.mem_append.1 mem with single | merged
  · obtain ⟨table, held, rfl⟩ := List.mem_map.1 single
    exact h.links.tables table (List.mem_of_mem_filter held)
  · obtain ⟨table, held, rfl⟩ := List.mem_map.1 merged
    exact h.links.merges table (List.mem_of_mem_filter held)

theorem Represents.validate!_eq_ok (h : run.Represents state) :
    run.validate! = .ok (Validated.ofState state) := by
  have context : run.context.over state.enums = state.validationContext := by
    rw [← h.same]
    rfl
  have targets : run.rest.targets = state.targets := by
    rw [← h.same]
    rfl
  have results : (run.rest.targets.map fun target => TableValidation.ofTarget! target run.context) =
      (state.targets.map fun target =>
        TableValidation.ofTarget target state.validationContext).map .ok := by
    rw [targets, List.map_map]
    refine List.map_congr_left fun target mem => ?_
    have enums : run.context.enums.Represents state.enums := h.enums
    rw [TableValidation.ofTarget!_eq_ok enums (h.linksInside_of_mem_targets mem), context]
    rfl
  rw [validate!, Pool.run!_eq_ok .validate results, Guarded.ok_bind, h.same]
  rfl

/-- The tables that are written are those of the state. -/
theorem Represents.linksInside_of_mem_output (h : run.Represents state) {table : OutputTable}
    (mem : table ∈ (Validated.ofState state).output.tables) : table.schema.LinksInside := by
  rcases List.mem_append.1 mem with single | merged
  · obtain ⟨loaded, held, rfl⟩ := List.mem_map.1 single
    exact h.links.tables loaded (List.mem_of_mem_filter held)
  · obtain ⟨loaded, held, rfl⟩ := List.mem_map.1 merged
    exact h.links.merges loaded (List.mem_of_mem_filter held)

end IndexedState

namespace IndexedRunContext

variable {ctx : IndexedRunContext} {run : IndexedState} {state : CompileState}

theorem choose!_eq_ok (options : Options) (books : List Workbook) (selection : Selection)
    (dryRun : Bool) :
    choose! (IndexedCatalog.ofWorkbooks books) selection =
      .ok ((RunContext.select options books selection dryRun).selected,
        (RunContext.select options books selection dryRun).unknown) := by
  have same := IndexedCatalog.catalog_ofWorkbooks books
  have entries : (IndexedCatalog.ofWorkbooks books).entries =
      (Catalog.ofWorkbooks books).entries := congrArg Catalog.entries same
  cases selection with
  | all =>
    rw [choose!, entries]
    rfl
  | named names =>
    have sound := IndexedCatalog.isSound_ofWorkbooks books
    have resolved := Access.mapM_eq_ok fun name (_ : name ∈ names) => sound.resolve!_eq_ok name
    have zipped : (names.map id).zip (names.map (Catalog.ofWorkbooks books).resolve?) =
        names.map fun name => (name, (Catalog.ofWorkbooks books).resolve? name) := List.zip_map'
    rw [same] at resolved
    rw [List.map_id] at zipped
    rw [choose!, resolved, Access.ok_bind, sound.expand!_eq_ok, Access.ok_bind, same, zipped,
      List.filterMap_map, List.filter_map, List.map_map]
    exact congrArg Except.ok (Prod.ext rfl (List.map_id _))

/-- A selection is made on a catalog whose positions are those of its entries. -/
theorem select!_gives (options : Options) (books : List Workbook) (selection : Selection)
    (dryRun : Bool) :
    ∃ ctx, select! options books selection dryRun = .ok ctx ∧ ctx.catalog.IsSound ∧
      ctx.context = RunContext.select options books selection dryRun := by
  rw [select!, choose!_eq_ok options books selection dryRun]
  refine ⟨_, rfl, IndexedCatalog.isSound_ofWorkbooks books, ?_⟩
  rw [context, IndexedCatalog.catalog_ofWorkbooks]
  rfl

/-- A workbook stands at the position of its name. -/
theorem workbook?_eq_bind (ctx : IndexedRunContext) (name : String) :
    ctx.context.workbook? name =
      (ctx.context.indexOf? name).bind fun place => ctx.workbooks[place]? := by
  rw [RunContext.workbook?, List.find?_eq_bind_findIdx?_getElem?]
  rfl

/-- The positions of the sheets of a workbook are ingested as its sheets. -/
theorem map_ingest!_range {place : Nat} {book : Workbook}
    (here : ctx.workbooks[place]? = some book) :
    ((List.range book.sheets.length).map (SheetTask.mk place)).map ctx.ingest! =
      ((book.sheets.map fun sheet => (book, sheet)).map fun one =>
        ctx.context.ingestSheet one.1 one.2).map .ok := by
  refine List.ext_getElem (by simp) fun i inside _ => ?_
  rw [List.length_map, List.length_map, List.length_range] at inside
  have sheet : book.sheets[i]? = some book.sheets[i] := List.getElem?_eq_getElem inside
  simp only [List.getElem_map, List.getElem_range]
  rw [ingest!, Access.read_eq_ok here, Access.ok_bind, Access.read_eq_ok sheet, Access.ok_bind,
    IngestedSheet.ofSheet!_eq_ok]
  rfl

theorem tasks!_gives (ctx : IndexedRunContext) (names : List String) :
    ∃ tasks, ctx.tasks! names = .ok tasks ∧
      tasks.map ctx.ingest! = ((ctx.context.sheetsOf names).map fun one =>
        ctx.context.ingestSheet one.1 one.2).map .ok := by
  let sheetsAt (workbook : Nat) : Access (List SheetTask) := do
    let book ← Access.read ctx.workbooks workbook
    return (List.range book.sheets.length).map (SheetTask.mk workbook)
  have parts : ∃ parts, (names.filterMap ctx.context.indexOf?).mapM sheetsAt = .ok parts ∧
      parts.flatten.map ctx.ingest! = ((ctx.context.sheetsOf names).map fun one =>
        ctx.context.ingestSheet one.1 one.2).map .ok := by
    -- A name that no workbook has gives neither tasks nor sheets.
    rw [RunContext.sheetsOf]
    induction names with
    | nil => exact ⟨[], rfl, rfl⟩
    | cons name names ih =>
      obtain ⟨later, listed, done⟩ := ih
      have known := ctx.workbook?_eq_bind name
      cases found : ctx.context.indexOf? name with
      | none =>
        rw [found, Option.bind_none] at known
        rw [List.filterMap_cons_none found, List.filterMap_cons_none known]
        exact ⟨later, listed, done⟩
      | some place =>
        have inside : place < ctx.workbooks.length := (List.findIdx?_eq_some_iff_getElem.1 found).1
        have here : ctx.workbooks[place]? = some ctx.workbooks[place] :=
          List.getElem?_eq_getElem inside
        have read : sheetsAt place = .ok ((List.range ctx.workbooks[place].sheets.length).map
            (SheetTask.mk place)) := by
          simp only [sheetsAt]
          rw [Access.read_eq_ok here]
          rfl
        rw [found, Option.bind_some, here] at known
        rw [List.filterMap_cons_some found, List.filterMap_cons_some known, List.mapM_cons, read,
          Access.ok_bind, listed, Access.ok_bind]
        refine ⟨_, rfl, ?_⟩
        rw [List.flatten_cons, List.map_append, map_ingest!_range here, done, List.flatMap_cons,
          List.map_append, List.map_append]
  obtain ⟨parts, listed, done⟩ := parts
  refine ⟨parts.flatten, ?_, done⟩
  rw [tasks!, listed]
  rfl

/-- Ingesting some workbooks finds every sheet at its position, and keeps all links inside. -/
theorem ingestRound!_gives (phase : Phase) (names : List String) (referenceOnly : Bool)
    (h : run.Represents state) :
    ∃ next, ctx.ingestRound! phase names referenceOnly run = .ok next ∧
      next.Represents (ctx.context.ingestRound names referenceOnly state) := by
  obtain ⟨tasks, listed, done⟩ := ctx.tasks!_gives names
  have ingested : (((ctx.context.sheetsOf names).map fun one =>
      ctx.context.ingestSheet one.1 one.2).filterMap id) = ctx.context.ingestedOf names := by
    rw [List.filterMap_map]
    rfl
  have marked : IndexedState.Represents
      ⟨(ctx.context.known names).foldl CompileState.markLoaded run.rest, run.enums⟩
      { state with loaded := state.loaded ++ ctx.context.known names } := by
    refine ⟨?_, h.enums, ⟨h.links.tables, h.links.mergeSheets, h.links.merges⟩⟩
    rw [IndexedState.state, CompileState.foldl_markLoaded, ← h.same]
    rfl
  rw [ingestRound!, listed, Access.guard_ok, Guarded.ok_bind, Pool.run!_eq_ok phase done,
    Guarded.ok_bind, ingested, RunContext.ingestRound_eq]
  have steps : ∀ (now : IndexedState) (state : CompileState), now.Represents state →
      ∀ sheet ∈ ctx.context.ingestedOf names, ∃ next,
        now.absorb! sheet referenceOnly = .ok next ∧
          next.Represents (state.absorb sheet referenceOnly) := by
    intro now state known sheet mem
    obtain ⟨one, -, read⟩ := List.mem_filterMap.1 mem
    have links := Header.linksInside_of_compile? (IngestedSheet.compile?_of_ofSheet? read)
    exact known.absorb!_gives links referenceOnly
  obtain ⟨next, absorbed, represents⟩ := Access.foldlM_gives steps marked
  rw [absorbed]
  exact ⟨next, rfl, represents⟩

theorem seek!_eq_ok (sound : ctx.catalog.IsSound) (state : CompileState) (schema : Schema) :
    ctx.seek! state schema =
      .ok (ctx.context.missingTargets state schema, ctx.context.unknownTargets state schema) := by
  have owners : ∀ table ∈ schema.needs.tables.filter (!state.hasTable ·), (do
      let owner ← ctx.catalog.workbookOfSheet! table
      return (table, owner)) =
      Except.ok (table, ctx.context.catalog.workbookOfSheet? table) := by
    intro table _
    rw [sound.workbookOfSheet!_eq_ok]
    rfl
  rw [seek!, Access.mapM_eq_ok fun group _ => sound.workbooksInGroup!_eq_ok group, Access.ok_bind,
    Access.mapM_eq_ok owners, Access.ok_bind, ← List.flatMap_def, List.filterMap_map,
    List.filter_map, List.map_map, List.filter_filter]
  refine congrArg Except.ok (Prod.ext rfl ?_)
  refine congrArg (List.map (RunContext.unknownTarget schema)) (List.filter_congr fun table _ => ?_)
  exact Bool.and_comm ..

theorem lookUp!_gives (sound : ctx.catalog.IsSound) (h : run.Represents state) :
    ∃ next, ctx.lookUp! run = .ok (next, (Run.lookUp ctx.context state).2) ∧
      next.Represents (Run.lookUp ctx.context state).1 := by
  obtain ⟨rfl, enums, links⟩ := h
  have sought := Access.mapM_eq_ok fun schema (_ : schema ∈ RunContext.schemasOf run.rest) =>
    seek!_eq_ok sound run.rest schema
  rw [lookUp!, sought, Access.ok_bind, List.flatMap_map, List.flatMap_map]
  exact ⟨_, rfl, rfl, enums, ⟨links.tables, links.mergeSheets, links.merges⟩⟩

end IndexedRunContext

/-- The stages of a run, each after one without problems. -/
theorem Run.ofContext_eq (ctx : RunContext) :
    ofContext ctx =
      ⟨ctx.firstRound,
        if ctx.firstRound.isClean then some (lookUp ctx ctx.firstRound) else none,
        if (lookUp ctx ctx.firstRound).1.isClean then some ctx.secondRound else none,
        if ctx.secondRound.isClean then some ctx.mergedState else none,
        if ctx.mergedState.isClean then some (Validated.ofState ctx.mergedState) else none⟩ := by
  have stage {α : Type} {reached : Option α} {given : α} {clean : Bool}
      (only : ∀ x, reached = some x ↔ clean = true ∧ x = given) :
      reached = if clean then some given else none := by
    refine Option.ext fun x => ?_
    rw [only, Option.ite_none_right_eq_some, Option.some.injEq, eq_comm (a := x)]
  have validated (x : Validated) : (ofContext ctx).validated = some x ↔
      ctx.mergedState.isClean = true ∧ x = Validated.ofState ctx.mergedState := by
    rw [validated_eq_some_iff, RunContext.isClean_mergedState_iff]
  rw [← stage fun _ => lookedUp_eq_some_iff, ← stage fun _ => referenced_eq_some_iff,
    ← stage fun _ => merged_eq_some_iff, ← stage validated]
  rfl

theorem Run.ofContext!_eq_ok {ctx : IndexedRunContext} (sound : ctx.catalog.IsSound) :
    ofContext! ctx = .ok (ofContext ctx.context, (ofContext ctx.context).files ctx.context) := by
  obtain ⟨ingested, first, begun⟩ := IndexedRunContext.ingestRound!_gives .ingest ctx.selected false
    IndexedState.represents_empty
  obtain ⟨lookedUp, sought, found⟩ := IndexedRunContext.lookUp!_gives sound begun
  obtain ⟨referenced, second, known⟩ := IndexedRunContext.ingestRound!_gives .references
    ctx.context.secondary true found
  obtain ⟨merged, built, unified⟩ := known.buildMerges!_gives
  have clean {run : IndexedState} {state : CompileState} (h : run.Represents state) :
      run.rest.isClean = state.isClean := by
    rw [← h.same]
    rfl
  change ingested.Represents ctx.context.firstRound at begun
  change lookedUp.Represents (lookUp ctx.context ctx.context.firstRound).1 at found
  change referenced.Represents ctx.context.secondRound at known
  change merged.Represents ctx.context.mergedState at unified
  change ctx.lookUp! ingested = .ok (lookedUp, ctx.context.secondary) at sought
  -- A run ends at the first state with problems; what it leaves out are the stages behind that.
  have early : (lookUp ctx.context ctx.context.firstRound).1.isClean = true →
      ctx.context.firstRound.isClean = true := fun h => (CompileState.isClean_report_iff.1 h).1
  have middle : ctx.context.secondRound.isClean = true →
      (lookUp ctx.context ctx.context.firstRound).1.isClean = true :=
    fun h => (RunContext.isClean_ingestRound_iff.1 h).1
  have late : ctx.context.mergedState.isClean = true → ctx.context.secondRound.isClean = true :=
    fun h => (CompileState.isClean_buildMerges_iff.1 h).1
  rw [ofContext!, first, Guarded.ok_bind, clean begun, begun.same, ofContext_eq]
  by_cases ingests : ctx.context.firstRound.isClean = true
  · rw [sought, Access.guard_ok, Guarded.ok_bind]
    dsimp only
    rw [clean found, found.same]
    by_cases finds : (lookUp ctx.context ctx.context.firstRound).1.isClean = true
    · rw [second, Guarded.ok_bind, clean known, known.same]
      by_cases refers : ctx.context.secondRound.isClean = true
      · rw [built, Access.guard_ok, Guarded.ok_bind, clean unified, unified.same]
        by_cases merges : ctx.context.mergedState.isClean = true
        · rw [unified.validate!_eq_ok, Guarded.ok_bind, Output.files!_eq_ok
            (fun table mem => unified.linksInside_of_mem_output mem), Access.guard_ok]
          have dry : ctx.context.dryRun = ctx.dryRun := rfl
          simp only [ingests, finds, refers, merges, files, dry, Bool.not_true, Bool.false_eq_true,
            if_false, if_true]
          by_cases writes :
              ((Validated.ofState ctx.context.mergedState).state.isClean && !ctx.dryRun) = true
          · rw [if_pos writes, if_pos writes]
            rfl
          · rw [if_neg writes, if_neg writes]
            rfl
        · simp only [ingests, finds, refers, merges]
          rfl
      · simp only [ingests, finds, refers, mt late refers]
        rfl
    · simp only [ingests, finds, mt middle finds, mt late (mt middle finds)]
      rfl
  · simp only [ingests, mt early ingests, mt middle (mt early ingests),
      mt late (mt middle (mt early ingests))]
    rfl

/-- Every slot that a header holds is that of a column, and merging keeps that. So no access to a
list at a position faults, neither while sheets are merged nor in any stage of a run, and no worker
fails. -/
theorem Run.never_faults (options : Options) (books : List Workbook) (selection : Selection)
    (dryRun : Bool) :
    (∀ sheet origin mergeGroups, ∀ schema ∈ Header.compile? sheet origin mergeGroups,
      schema.LinksInside) ∧
    (∀ group sheets referenceOnly, (∀ sheet ∈ sheets, sheet.schema.LinksInside) →
      MergeOutcome.ofSheets! group sheets referenceOnly =
          .ok (MergeOutcome.ofSheets? group sheets referenceOnly) ∧
        ∀ outcome ∈ MergeOutcome.ofSheets? group sheets referenceOnly,
          outcome.table.schema.LinksInside) ∧
    let ctx := RunContext.select options books selection dryRun
    ((IndexedRunContext.select! options books selection dryRun).guard >>= ofContext!) =
      .ok (ofContext ctx, (ofContext ctx).files ctx) := by
  refine ⟨fun sheet origin mergeGroups schema => Header.linksInside_of_compile?,
    fun group sheets referenceOnly links =>
      ⟨MergeOutcome.ofSheets!_eq_ok group links referenceOnly, fun outcome merged => ?_⟩, ?_⟩
  · obtain ⟨given, composed⟩ := MergeOutcome.exists_composed merged
    exact composed.links
  · obtain ⟨ctx, selected, sound, same⟩ :=
      IndexedRunContext.select!_gives options books selection dryRun
    dsimp only
    rw [selected, Access.guard_ok, Guarded.ok_bind, ofContext!_eq_ok sound, same]

open Library

/-- The columns that each column is linked to: the source of its values, the one its element count
is compared with, and the one that names its enumeration. -/
def Schema.links (schema : Schema) : List (Option Nat × Option Nat × Option Nat) :=
  schema.columns.map fun column => (column.change, column.arraySizeRef, column.enumGroupRef)

/-- Two sheets of a group with links among their columns, which stand in another order in each. -/
def linkedShares : List Sheet :=
  [shareSheet "a" [("id", "key,int"), ("n[]", "int"), ("x[]", "int,arraysizeref<n>"),
     ("sort", "string"), ("tone", "typeref<sort>"), ("copy", "string,change<sort>")]
     [["1", "7,8", "1,2", "color", "red", "?"]],
   shareSheet "b" [("tone", "typeref<sort>"), ("x[]", "int,arraysizeref<n>"), ("sort", "string"),
     ("n[]", "int"), ("id", "key,int")]
     [["blue", "5", "color", "3", "2"]]]

set_option maxRecDepth 100000 in
/-- Links lead to other slots in the second sheet than in the first and in the merged table. -/
theorem Run.never_faults_linked :
    let sheets := sharesOf linkedShares
    let books := [bookOf "M.xlsx" linkedShares, colorBook "1"]
    (sheets.map fun sheet => (sheet.schema.key, sheet.schema.links)) =
      [(some 0, [(none, none, none), (none, none, none), (none, some 1, none), (none, none, none),
        (none, none, some 3), (some 3, none, none)]),
       (some 4, [(none, none, some 2), (none, some 3, none), (none, none, none),
        (none, none, none), (none, none, none)])] ∧
    (∀ sheet ∈ sheets, sheet.schema.LinksInside) ∧
    (∃ outcome, MergeOutcome.ofSheets! "g" sheets false = .ok (some outcome) ∧
      outcome.table.schema.links =
        [(none, none, none), (none, none, none), (none, some 1, none), (none, none, none),
          (none, none, some 3), (some 3, none, none)] ∧
      outcome.table.schema.LinksInside) ∧
    (ofContext (runOver books)).stage = .emit ∧
    ((IndexedRunContext.select! Options.standard books .all false).guard >>= ofContext!) =
      .ok (ofContext (runOver books), (ofContext (runOver books)).files (runOver books)) := by
  intro sheets books
  obtain ⟨compiles, merges, runs⟩ := never_faults Options.standard books .all false
  have inside : ∀ sheet ∈ sheets, sheet.schema.LinksInside := by
    intro sheet mem
    obtain ⟨given, -, ingested⟩ := List.mem_filterMap.1 mem
    exact compiles given _ _ _ (IngestedSheet.compile?_of_ofSheet? ingested)
  have links : (MergeOutcome.ofSheets? "g" sheets false).map (·.table.schema.links) =
      some [(none, none, none), (none, none, none), (none, some 1, none), (none, none, none),
        (none, none, some 3), (some 3, none, none)] := by
    decide +kernel
  obtain ⟨outcome, merged, links⟩ := Option.map_eq_some_iff.1 links
  obtain ⟨safe, kept⟩ := merges "g" sheets false inside
  rw [merged] at safe
  exact ⟨by decide +kernel, inside, ⟨outcome, safe, links, kept outcome merged⟩, by decide +kernel,
    runs⟩

end DesignTables
