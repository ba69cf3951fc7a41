import DesignTables.Compile.Run
import DesignTables.Proofs.Compile.Merging
import DesignTables.Proofs.Indexing.Merging
import DesignTables.Proofs.Indexing.Registries

/-!
# The state of a run, filled by slots and positions

The state holds schemas that were compiled from sheets or merged from such schemas, so all of their
links are inside their columns. Of the enumerations it holds the groups with their positions.
-/
namespace DesignTables

/-- The registry without its positions. -/
def IndexedEnums.registry (enums : IndexedEnums) : EnumRegistry := ⟨enums.groups.map (·.group)⟩

/-- The state of a run whose enumerations are found by positions. -/
structure IndexedState where
  /-- Everything but the enumerations, of which it has none. -/
  rest : CompileState
  enums : IndexedEnums

namespace IndexedState

def empty : IndexedState := ⟨CompileState.empty, IndexedEnums.empty⟩

/-- The state without positions. -/
def state (run : IndexedState) : CompileState := { run.rest with enums := run.enums.registry }

def register! (run : IndexedState) (schema : Schema) (rows : List TableRow) :
    Access IndexedState :=
  if schema.isClean then
    match schema.kind with
    | .enumeration => do
      let (enums, found) ← run.enums.registerSheet! schema rows
      return ⟨run.rest.report found, enums⟩
    | .localization => do
      let (localization, found) ← run.rest.localization.registerSheet! schema rows
      return { run with rest := { run.rest with localization := localization }.report found }
    | .data | .merge => return run
  else return run

def keepTable! (run : IndexedState) (sheet : IngestedSheet) (referenceOnly : Bool) :
    Access IndexedState := do
  let registered ← run.register! sheet.schema sheet.rows
  return { registered with
    rest := { registered.rest with
      references := registered.rest.references.absorb sheet.origins
      sizes := registered.rest.sizes.absorb sheet.sizes
      tables := registered.rest.tables ++ [⟨sheet.schema, sheet.rows, referenceOnly⟩] } }

def absorb! (run : IndexedState) (sheet : IngestedSheet) (referenceOnly : Bool) :
    Access IndexedState :=
  if run.rest.hasTable sheet.name then
    return { run with
      rest := run.rest.report
        [Diagnostic.of (.repeatedTableName sheet.name) sheet.schema.origin "" 0 0] }
  else
    let noted := { run with
      rest := { run.rest with names := run.rest.names ++ [sheet.name] }.report sheet.diagnostics }
    if sheet.schema.kind = .merge then
      return { noted with rest := noted.rest.keepMergeSheet sheet referenceOnly }
    else noted.keepTable! sheet referenceOnly

def buildMerge! (run : IndexedState) (group : String) : Access IndexedState := do
  let pending := run.rest.sheetsOfGroup group
  match ← MergeOutcome.ofSheets! group (pending.map (·.sheet)) (pending.all (·.referenceOnly)) with
  | none => return run
  | some outcome =>
    let (table, found) := CompileState.shardMerge outcome.table
    return { run with
      rest := { run.rest with
        references := run.rest.references.absorb outcome.origins
        sizes := run.rest.sizes.absorb outcome.sizes
        merges := run.rest.merges ++ [table] }.report (outcome.diagnostics ++ found) }

def buildMerges! (run : IndexedState) : Access IndexedState :=
  run.rest.mergeGroups.foldlM buildMerge! run

end IndexedState

/-- Every slot that a schema of the state holds is that of a column. -/
structure CompileState.LinksInside (state : CompileState) : Prop where
  tables : ∀ table ∈ state.tables, table.schema.LinksInside
  mergeSheets : ∀ pending ∈ state.mergeSheets, pending.sheet.schema.LinksInside
  merges : ∀ table ∈ state.merges, table.schema.LinksInside

theorem IndexedEnums.Represents.registry_eq {enums : IndexedEnums} {registry : EnumRegistry}
    (h : enums.Represents registry) : enums.registry = registry :=
  congrArg EnumRegistry.mk h.groups

private theorem forall_mem_concat {α : Type} {P : α → Prop} {xs : List α} {x : α}
    (known : ∀ y ∈ xs, P y) (last : P x) : ∀ y ∈ xs ++ [x], P y := by
  intro y mem
  rcases List.mem_append.1 mem with older | own
  · exact known y older
  · exact List.mem_singleton.1 own ▸ last

namespace IndexedState

/-- What a state with positions is to the state without them. -/
structure Represents (run : IndexedState) (state : CompileState) : Prop where
  same : run.state = state
  enums : run.enums.Represents state.enums
  links : state.LinksInside

variable {run : IndexedState} {state : CompileState}

theorem represents_empty : empty.Represents CompileState.empty :=
  ⟨rfl, IndexedEnums.represents_empty, ⟨fun _ mem => absurd mem List.not_mem_nil,
    fun _ mem => absurd mem List.not_mem_nil, fun _ mem => absurd mem List.not_mem_nil⟩⟩

theorem Represents.register!_gives (h : run.Represents state) {schema : Schema}
    (links : schema.LinksInside) (rows : List TableRow) :
    ∃ next, run.register! schema rows = .ok next ∧
      next.Represents (state.register schema rows) := by
  obtain ⟨rfl, enums, inside⟩ := h
  rw [register!, CompileState.register]
  by_cases clean : schema.isClean = true
  · rw [if_pos clean, if_pos clean]
    cases schema.kind with
    | enumeration =>
      obtain ⟨next, registered, represents, found⟩ := enums.registerSheet!_gives schema rows
      dsimp only
      rw [registered, Access.ok_bind, found]
      refine ⟨_, rfl, ?_, represents, ⟨inside.tables, inside.mergeSheets, inside.merges⟩⟩
      rw [IndexedState.state, represents.registry_eq]
      rfl
    | localization =>
      dsimp only
      rw [LocalizationRegistry.registerSheet!_eq_ok _ links]
      exact ⟨_, rfl, rfl, enums, ⟨inside.tables, inside.mergeSheets, inside.merges⟩⟩
    | data => exact ⟨run, rfl, rfl, enums, inside⟩
    | merge => exact ⟨run, rfl, rfl, enums, inside⟩
  · rw [if_neg clean, if_neg clean]
    exact ⟨run, rfl, rfl, enums, inside⟩

/-- Taking a sheet whose links are inside its columns keeps all links of the state inside. -/
theorem Represents.absorb!_gives (h : run.Represents state) {sheet : IngestedSheet}
    (links : sheet.schema.LinksInside) (referenceOnly : Bool) :
    ∃ next, run.absorb! sheet referenceOnly = .ok next ∧
      next.Represents (state.absorb sheet referenceOnly) := by
  obtain ⟨rfl, enums, inside⟩ := h
  rw [absorb!, CompileState.absorb]
  by_cases known : run.rest.hasTable sheet.name = true
  · have same : run.state.hasTable sheet.name = true := known
    rw [if_pos known, if_pos same]
    exact ⟨_, rfl, rfl, enums, ⟨inside.tables, inside.mergeSheets, inside.merges⟩⟩
  · have same : ¬ run.state.hasTable sheet.name = true := known
    rw [if_neg known, if_neg same]
    dsimp only
    by_cases kind : sheet.schema.kind = .merge
    · rw [if_pos kind, if_pos kind]
      exact ⟨_, rfl, rfl, enums,
        ⟨inside.tables, forall_mem_concat inside.mergeSheets links, inside.merges⟩⟩
    · rw [if_neg kind, if_neg kind, keepTable!, CompileState.keepTable]
      have noted : Represents
          ⟨{ run.rest with names := run.rest.names ++ [sheet.name] }.report sheet.diagnostics,
            run.enums⟩
          ({ run.state with names := run.state.names ++ [sheet.name] }.report sheet.diagnostics) :=
        ⟨rfl, enums, ⟨inside.tables, inside.mergeSheets, inside.merges⟩⟩
      obtain ⟨next, registered, same, enums, inside⟩ := noted.register!_gives links sheet.rows
      rw [registered, Access.ok_bind, ← same] at *
      refine ⟨_, rfl, rfl, enums, ?_⟩
      exact ⟨forall_mem_concat inside.tables links, inside.mergeSheets, inside.merges⟩

theorem Represents.buildMerge!_gives (h : run.Represents state) (group : String) :
    ∃ next, run.buildMerge! group = .ok next ∧ next.Represents (state.buildMerge group) := by
  obtain ⟨rfl, enums, inside⟩ := h
  have links : ∀ sheet ∈ (run.rest.sheetsOfGroup group).map (·.sheet),
      sheet.schema.LinksInside := by
    intro sheet mem
    obtain ⟨pending, held, rfl⟩ := List.mem_map.1 mem
    exact inside.mergeSheets pending (List.mem_of_mem_filter held)
  have same : run.state.mergeOutcome? group =
      MergeOutcome.ofSheets? group ((run.rest.sheetsOfGroup group).map (·.sheet))
        ((run.rest.sheetsOfGroup group).all (·.referenceOnly)) := rfl
  rw [buildMerge!, MergeOutcome.ofSheets!_eq_ok group links, Access.ok_bind,
    CompileState.buildMerge, same]
  cases found : MergeOutcome.ofSheets? group ((run.rest.sheetsOfGroup group).map (·.sheet))
      ((run.rest.sheetsOfGroup group).all (·.referenceOnly)) with
  | none => exact ⟨run, rfl, rfl, enums, inside⟩
  | some outcome =>
    obtain ⟨given, composed⟩ := MergeOutcome.exists_composed found
    obtain ⟨shards, table⟩ := CompileState.shardMerge_table outcome.table
    have last : (CompileState.shardMerge outcome.table).1.schema.LinksInside := by
      rw [table]
      exact composed.links
    exact ⟨_, rfl, rfl, enums, ⟨inside.tables, inside.mergeSheets,
      forall_mem_concat inside.merges last⟩⟩

/-- Unifying the merge groups of a state keeps all of its links inside. -/
theorem Represents.buildMerges!_gives (h : run.Represents state) :
    ∃ next, run.buildMerges! = .ok next ∧ next.Represents state.buildMerges := by
  have groups : run.rest.mergeGroups = state.mergeGroups := by
    rw [← h.same]
    rfl
  rw [buildMerges!, CompileState.buildMerges, groups]
  exact Access.foldlM_gives (R := Represents) (fun now state known group _ =>
    known.buildMerge!_gives group) h

end IndexedState

end DesignTables
