import DesignTables.Ingest.Sheet
import DesignTables.Merge.Table
import DesignTables.Registry.Filling

/-!
The tables and registries of a run, filled with ingested sheets one after the other.

Of two tables of one name the first is kept. Every registry and index keeps the first value it is
given.
-/
namespace DesignTables

/-- A table that is not merged. -/
structure LoadedTable where
  schema : Schema
  rows : List TableRow
  /-- The table serves look-ups only. -/
  referenceOnly : Bool
deriving DecidableEq, Repr

/-- A sheet that waits for the rest of its merge group. -/
structure MergeSheet where
  sheet : IngestedSheet
  /-- The sheet serves look-ups only. -/
  referenceOnly : Bool

/-- The merge group that a sheet names. -/
def MergeSheet.group? (pending : MergeSheet) : Option String :=
  pending.sheet.schema.merge.map (·.name)

/-- The state of a run. -/
structure CompileState where
  tables : List LoadedTable
  mergeSheets : List MergeSheet
  merges : List MergeTable
  enums : EnumRegistry
  localization : LocalizationRegistry
  references : ReferenceIndex
  sizes : SizeIndex
  diagnostics : List Diagnostic
  /-- The names of the tables. -/
  names : List String
  /-- The workbooks that were ingested. -/
  loaded : List String

namespace CompileState

/-- The state at the start of a run. -/
def empty : CompileState where
  tables := []
  mergeSheets := []
  merges := []
  enums := EnumRegistry.empty
  localization := LocalizationRegistry.empty
  references := ReferenceIndex.empty
  sizes := SizeIndex.empty
  diagnostics := []
  names := []
  loaded := []

/-- Notes that a workbook was ingested. -/
def markLoaded (state : CompileState) (workbook : String) : CompileState :=
  { state with loaded := state.loaded ++ [workbook] }

/-- Whether a workbook was ingested. -/
def isLoaded (state : CompileState) (workbook : String) : Bool := state.loaded.contains workbook

/-- Whether there is a table of a name. -/
def hasTable (state : CompileState) (name : String) : Bool := state.names.contains name

/-- Whether there is a table of a kind that is not merged. -/
def hasKind (state : CompileState) (kind : Kind) : Bool :=
  state.tables.any (·.schema.kind == kind)

/-- Whether there is a sheet of a merge group. -/
def hasMergeGroup (state : CompileState) (group : String) : Bool :=
  state.mergeSheets.any (·.group? == some group)

/-- Whether no problem was found so far. -/
def isClean (state : CompileState) : Bool := state.diagnostics.isEmpty

/-- Adds problems to those found so far. -/
def report (state : CompileState) (found : List Diagnostic) : CompileState :=
  { state with diagnostics := state.diagnostics ++ found }

/-- Puts the rows of a sheet with a clean header into the registry of its kind. -/
def register (state : CompileState) (schema : Schema) (rows : List TableRow) : CompileState :=
  if schema.isClean then
    match schema.kind with
    | .enumeration =>
      let (enums, found) := state.enums.registerSheet schema rows
      { state with enums := enums }.report found
    | .localization =>
      let (localization, found) := state.localization.registerSheet schema rows
      { state with localization := localization }.report found
    | .data | .merge => state
  else state

/-- Keeps a table that is not merged. -/
def keepTable (state : CompileState) (sheet : IngestedSheet) (referenceOnly : Bool) :
    CompileState :=
  let registered := state.register sheet.schema sheet.rows
  { registered with
    references := registered.references.absorb sheet.origins
    sizes := registered.sizes.absorb sheet.sizes
    tables := registered.tables ++ [⟨sheet.schema, sheet.rows, referenceOnly⟩] }

/-- Keeps a sheet of a merge group; its problems are already noted. -/
def keepMergeSheet (state : CompileState) (sheet : IngestedSheet) (referenceOnly : Bool) :
    CompileState :=
  { state with
    mergeSheets := state.mergeSheets ++ [⟨{ sheet with diagnostics := [] }, referenceOnly⟩] }

/-- Takes an ingested sheet, unless there is a table of its name. -/
def absorb (state : CompileState) (sheet : IngestedSheet) (referenceOnly : Bool) : CompileState :=
  if state.hasTable sheet.name then
    state.report [Diagnostic.of (.repeatedTableName sheet.name) sheet.schema.origin "" 0 0]
  else
    let noted :=
      { state with names := state.names ++ [sheet.name] }.report sheet.diagnostics
    if sheet.schema.kind = .merge then noted.keepMergeSheet sheet referenceOnly
    else noted.keepTable sheet referenceOnly

/-- The merge groups in the order of their first sheets. -/
def mergeGroups (state : CompileState) : List String :=
  (state.mergeSheets.filterMap (·.group?)).eraseDups

/-- The sheets of a merge group in the order of their discovery. -/
def sheetsOfGroup (state : CompileState) (group : String) : List MergeSheet :=
  state.mergeSheets.filter (·.group? == some group)

end CompileState

end DesignTables
