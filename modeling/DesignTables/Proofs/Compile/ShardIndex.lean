import DesignTables.Proofs.Compile.EnumValues
import DesignTables.Proofs.Compile.Outcome
import DesignTables.Proofs.Compile.Rounds
import DesignTables.Proofs.Merge.Packing
import DesignTables.Proofs.Number.Digits
import DesignTables.Proofs.Output.Faithful
import DesignTables.Proofs.Output.ShardRecords

/-!
# The index of shards beside the records in them

A merge table is divided by the values that were read, and its index lists them. Records show what
validation leaves: a group field that takes the value of another column, or what a reference
resolves to, is shown as that. A group field of whole numbers that validation leaves alone is
written as the index writes its key.
-/
namespace DesignTables

/-- A number has a digit in it, and so it is no word. -/
theorem eqIgnoringCase_writeInt (n : Int) : Text.eqIgnoringCase (writeInt n) "null" = false := by
  have digits (m : Nat) : ∃ c ∈ (writeNat m).toList, isDigit c = true := by
    obtain ⟨c, mem⟩ := List.exists_mem_of_ne_nil _ (Decimal.digitsOf_ne_nil m)
    rw [writeNat, String.toList_ofList]
    exact ⟨c, mem, List.all_eq_true.1 (Decimal.all_isDigit_digitsOf m) c mem⟩
  have digit : ∃ c ∈ (writeInt n).toList, isDigit c = true := by
    cases n with
    | ofNat m => exact digits m
    | negSucc m =>
      obtain ⟨c, mem, own⟩ := digits (m + 1)
      rw [writeInt, String.toList_append]
      exact ⟨c, List.mem_append_right _ mem, own⟩
  obtain ⟨c, mem, own⟩ := digit
  rw [Text.eqIgnoringCase, beq_eq_false_iff_ne]
  intro same
  have kept : c ∈ (Text.asciiLower (writeInt n)).toList := by
    rw [Text.asciiLower, String.toList_ofList]
    exact List.mem_map.2 ⟨c, mem, toLower_of_isDigit own⟩
  have letters : ((Text.asciiLower "null").toList.all fun letter => !isDigit letter) = true := by
    decide
  rw [same] at kept
  have refused := List.all_eq_true.1 letters c kept
  rw [own] at refused
  cases refused

/-- The column holds whole numbers. -/
def Column.IsWhole (column : Column) : Prop :=
  column.dataType = some .int ∨ column.dataType = some .long

instance (column : Column) : Decidable column.IsWhole := inferInstanceAs (Decidable (_ ∨ _))

theorem Column.IsWhole.of_agrees {a b : Column} (h : a.IsWhole) (agrees : a.Agrees b) :
    b.IsWhole := by
  rw [IsWhole, ← agrees.dataType]
  exact h

namespace CellReading

variable {column : Column} {cell : Cell}

/-- A whole number that is read without a problem is stored as it is written. -/
theorem isCanonicalInt_value (clean : (ofCell column cell).problems = [])
    (scalar : column.isArray = false) (whole : column.IsWhole) :
    DataType.isCanonicalInt (ofCell column cell).value = true := by
  have fault := fault_eq_none clean scalar
  have type : typeOf column = .int ∨ typeOf column = .long := by
    rcases whole with type | type <;> rw [typeOf, type] <;> simp
  have own : typeOf column ≠ .bool := by
    rcases type with type | type <;> rw [type] <;> decide
  rw [value_eq, stored_of_ne_bool own]
  generalize decorated column (afterNull column (text column cell)) = value at *
  rw [DataType.fault] at fault
  rcases type with type | type <;> rw [type] at fault <;> split at fault <;>
    simp_all [DataType.emptyFault, DataType.formFault]

end CellReading

namespace MergeOutcome

variable {group : String} {sheets : List IngestedSheet} {referenceOnly : Bool}
  {outcome : MergeOutcome} {slot : Nat} {column : Column} {row : TableRow}

/-- A column of whole numbers that is scalar in every sheet holds numbers as they are written, also
where a sheet lacks the column. -/
theorem isCanonicalInt_merged (h : ofSheets? group sheets referenceOnly = some outcome)
    (clean : outcome.diagnostics = [])
    (reads : ∀ sheet ∈ sheets, sheet.schema.ReadsClean sheet.rows)
    (place : outcome.table.schema.column? slot = some column) (whole : column.IsWhole)
    (scalar : ∀ sheet ∈ sheets, ∀ given ∈ sheet.schema.columns, given.title = column.title →
      given.isArray = false)
    (stored : row ∈ outcome.table.rows) : DataType.isCanonicalInt (row.value slot) = true := by
  obtain ⟨given, composed⟩ := exists_composed h
  obtain ⟨collects, harmony⟩ := unifies_ofSheets? h
  obtain ⟨position, known⟩ := exists_mem_zipIdx stored
  obtain ⟨one, found, rfl⟩ := composed.mem_rows_iff.1 known
  have source := composed.isFrom one (List.mem_of_getElem? found)
  rw [Merge.SourceRow.value_merged place, Merge.SourceRow.cell,
    Merge.SourceRow.slotFor?_eq source collects.titles place]
  cases own : one.sheet.schema.slotOf? column.title with
  | none =>
    have zero : DataType.isCanonicalInt "0" = true := by decide
    rcases whole with type | type <;> rw [type] <;> exact zero
  | some slot =>
    obtain ⟨inside, titled, -⟩ := List.findIdx?_eq_some_iff_getElem.1 own
    rw [beq_iff_eq] at titled
    have mem : one.sheet.schema.columns[slot] ∈ one.sheet.schema.columns := List.getElem_mem inside
    have member : one.sheet ∈ sheets := List.mem_of_getElem? source.sheet
    obtain ⟨first, listed, core, mem', same⟩ :=
      core_of_mem_ofSheets? h (List.mem_of_getElem? place)
    have agrees : core.Agrees one.sheet.schema.columns[slot] :=
      harmony.1 clean core (List.mem_flatMap.2 ⟨first, listed, mem'⟩) _
        (List.mem_flatMap.2 ⟨one.sheet, member, mem⟩)
        ((Column.title_of_core same).trans titled.symm)
    obtain ⟨cell, read, value⟩ := reads one.sheet member one.row source.row
      (one.sheet.schema.columns[slot], slot) (Header.mem_slots_of_lt inside)
    dsimp only at value ⊢
    rw [← value]
    exact CellReading.isCanonicalInt_value read (scalar one.sheet member _ mem titled)
      ((whole.of_agrees (Column.agrees_of_core same).symm).of_agrees agrees)

end MergeOutcome

namespace ShardLayout

/-- The index maps a key to a file. -/
def MapsKey (layout : ShardLayout) (key : Int) (file : String) : Prop :=
  layout.entry key file ∈ layout.entries

variable {layout : ShardLayout} {shard : Shard} {key : Int} {file : String}

theorem mapsKey_of_mem (mem : shard ∈ layout.plan.shards) (own : key ∈ shard.keys) :
    layout.MapsKey key (shardFile layout.group shard.number) := by
  refine List.mem_map.2 ⟨(key, shard.number), ?_, rfl⟩
  exact List.mem_flatMap.2 ⟨shard, mem, List.mem_map.2 ⟨key, own, rfl⟩⟩

/-- The index maps no other keys than those of the shards. -/
theorem MapsKey.mem_keys (h : layout.MapsKey key file) :
    key ∈ layout.plan.shards.flatMap (·.keys) := by
  obtain ⟨⟨other, number⟩, listed, same⟩ := List.mem_map.1 h
  simp only [entry, Json.object.injEq, List.cons.injEq, Prod.mk.injEq, Json.literal.injEq,
    true_and] at same
  obtain rfl := writeInt_inj.1 same.1
  obtain ⟨shard, mem, own⟩ := List.mem_flatMap.1 listed
  obtain ⟨_, known, given⟩ := List.mem_map.1 own
  exact List.mem_flatMap.2 ⟨shard, mem, (Prod.mk.inj given).1 ▸ known⟩

end ShardLayout

namespace CompileState

/-- Validation and merging leave the group field of a merge table alone: no other table is written
under the name of the group, the field is no array in any of its sheets, and nothing is written in
its place. -/
structure KeepsGroupField (state : CompileState) (merge : MergeTable) (column : Column) : Prop where
  alone : ∀ target ∈ state.targets, target.schema.name = merge.name → target = .merged merge
  scalar : ∀ pending ∈ state.sheetsOfGroup merge.name,
    ∀ given ∈ pending.sheet.schema.columns, given.title = column.title → given.isArray = false
  unchanged : TableValidation.isChanged state.validationContext column = false

/-- No other table is in the way of a merge table that is the only one to be validated. -/
theorem keepsGroupField_of_only {state : CompileState} {merge : MergeTable} {column : Column}
    (mem : merge ∈ state.merges) (own : merge.referenceOnly = false)
    (only : state.targets.length = 1)
    (scalars : (state.mergeSheets.all fun pending =>
      pending.sheet.schema.columns.all fun given => !given.isArray) = true)
    (unchanged : TableValidation.isChanged state.validationContext column = false) :
    state.KeepsGroupField merge column where
  alone target known _ := by
    obtain ⟨one, same⟩ := List.length_eq_one_iff.1 only
    have self := merged_mem_targets mem own
    rw [same, List.mem_singleton] at known self
    rw [known, self]
  scalar pending known given listed _ := by
    have all := List.all_eq_true.1 scalars pending (List.mem_filter.1 known).1
    simpa using List.all_eq_true.1 all given listed
  unchanged := unchanged

end CompileState

theorem CompileState.mergeSheets_buildMerges (state : CompileState) :
    state.buildMerges.mergeSheets = state.mergeSheets := by
  rw [buildMerges_eq, withOutcomes]

namespace RunContext

variable {ctx : RunContext} {merge : MergeTable}

/-- A merge table of the run is what its group was merged to without a problem. -/
theorem exists_outcome_of_mem_merges (h : ctx.Reaches) (mem : merge ∈ ctx.mergedState.merges) :
    ∃ outcome, ctx.mergedState.mergeOutcome? merge.name = some outcome ∧
      merge = (CompileState.shardMerge outcome.table).1 ∧ outcome.diagnostics = [] := by
  rw [merges_mergedState h.toIngests, List.mem_map] at mem
  obtain ⟨outcome, known, rfl⟩ := mem
  have clean := (List.append_eq_nil_iff.1 (h.merges outcome known)).1
  have name := CompileState.name_of_mem_mergeOutcomes known
  obtain ⟨group, -, found⟩ := List.mem_filterMap.1 known
  refine ⟨outcome, ?_, rfl, clean⟩
  rw [name.1, (CompileState.name_of_mergeOutcome? found).2, mergedState,
    CompileState.buildMerges_eq, CompileState.mergeOutcome?_withOutcomes]
  exact found

/-- The rows of every sheet that was merged were read without a problem. -/
theorem readsClean_of_mem_mergeSheets (h : ctx.Ingests) {pending : MergeSheet}
    (mem : pending ∈ ctx.mergedState.mergeSheets) :
    pending.sheet.schema.ReadsClean pending.sheet.rows := by
  rw [mergedState, CompileState.mergeSheets_buildMerges, mergeSheets_secondRound h] at mem
  have sheets : ∃ sheet ∈ ctx.sheets, ∃ referenceOnly,
      sheet.asPending referenceOnly = pending := by
    rcases List.mem_append.1 mem with mem | mem
    · obtain ⟨sheet, known, same⟩ := List.mem_map.1 mem
      exact ⟨sheet, List.mem_append_left _ (List.mem_filter.1 known).1, false, same⟩
    · obtain ⟨sheet, known, same⟩ := List.mem_map.1 mem
      exact ⟨sheet, List.mem_append_right _ (List.mem_filter.1 known).1, true, same⟩
  obtain ⟨sheet, known, _, rfl⟩ := sheets
  obtain ⟨given, origin, ingested⟩ := mem_sheets known
  have reads := IngestedSheet.readsClean_ofSheet? ingested
    ((admitsAll_sheets h).isClean sheet known)
  exact reads

/-- The group field of a merge table holds whole numbers as they are written, where its sheets
declare it so. -/
theorem isCanonicalInt_of_mem_merges (h : ctx.Reaches) (mem : merge ∈ ctx.mergedState.merges)
    {slot : Nat} {column : Column} (place : merge.schema.column? slot = some column)
    (whole : column.IsWhole)
    (scalar : ∀ pending ∈ ctx.mergedState.sheetsOfGroup merge.name,
      ∀ given ∈ pending.sheet.schema.columns, given.title = column.title → given.isArray = false)
    {row : TableRow} (stored : row ∈ merge.rows) :
    DataType.isCanonicalInt (row.value slot) = true := by
  obtain ⟨outcome, found, same, clean⟩ := exists_outcome_of_mem_merges h mem
  obtain ⟨shards, table⟩ := CompileState.shardMerge_table outcome.table
  rw [table] at same
  rw [same] at place stored
  refine MergeOutcome.isCanonicalInt_merged found clean ?_ place whole ?_ stored
  · intro sheet member
    obtain ⟨pending, known, rfl⟩ := List.mem_map.1 member
    exact readsClean_of_mem_mergeSheets h.toIngests (List.mem_filter.1 known).1
  · intro sheet member given mem' titled
    obtain ⟨pending, known, rfl⟩ := List.mem_map.1 member
    exact scalar pending known given mem' titled

/-- A merge table with shards is divided by its group field. -/
theorem divides_of_mem_merges (h : ctx.Reaches) (mem : merge ∈ ctx.mergedState.merges)
    {plan : ShardPlan} (sharded : merge.shards = some plan) :
    ∃ slot column, merge.groupSlot? = some slot ∧ merge.schema.column? slot = some column ∧
      ∃ keys : List Int, merge.rows.map (fun row => readInt64? (row.value slot)) = keys.map some ∧
        plan.Divides (max merge.shardSize 1) keys := by
  obtain ⟨sourced, divided⟩ := partition_of_mem_merges h.toIngests mem sharded
  obtain ⟨slot, named⟩ := MergeTable.groupSlot?_of_partition divided
  have divides := MergeTable.divides_of_partition sourced named divided
  have inside := MergeTable.slot_lt_of_groupSlot? named
  exact ⟨slot, _, named, List.getElem?_eq_getElem inside, divides⟩

end RunContext

namespace Validated

variable {ctx : RunContext} {validated : Validated} {target : ValidationTarget}

theorem sheetsOfGroup_ofState (state : CompileState) (group : String) :
    (ofState state).state.sheetsOfGroup group = state.sheetsOfGroup group := rfl

/-- A table with a name of its own is written with its own slots. -/
theorem changedOf_of_namesOnce (h : (Run.ofContext ctx).validated = some validated)
    (mem : target ∈ validated.state.targets) (once : validated.NamesOnce target.schema.name) :
    validated.changedOf target.schema.name = (validated.resultOf target).changed := by
  obtain ⟨-, same⟩ := Run.validated_eq_some_iff.1 h
  obtain ⟨-, -, -, results, -⟩ := same ▸ ofState_parts ctx.mergedState
  have named : (validated.resultOf target).table = target.schema.name := rfl
  rw [changedOf]
  cases found : validated.results.reverse.find? (·.table == target.schema.name) with
  | none =>
    have absent := List.find?_eq_none.1 found (validated.resultOf target)
      (List.mem_reverse.2 (results ▸ List.mem_map_of_mem mem))
    rw [named, beq_self_eq_true] at absent
    exact absurd rfl absent
  | some result =>
    have known := List.mem_reverse.1 (List.mem_of_find?_eq_some found)
    rw [results] at known
    obtain ⟨other, mem', rfl⟩ := List.mem_map.1 known
    have bears := List.find?_some found
    have name : other.schema.name = target.schema.name := beq_iff_eq.1 bears
    rw [once other mem' target mem name rfl]
    rfl

/-- A column that validation does not substitute is written from the rows. -/
theorem unwritten_of_unchanged (h : (Run.ofContext ctx).validated = some validated)
    (mem : target ∈ validated.state.targets) (once : validated.NamesOnce target.schema.name)
    {row : TableRow} (stored : row ∈ target.rows) {column : Column} {slot : Nat}
    (place : target.schema.column? slot = some column)
    (unchanged : TableValidation.isChanged validated.state.validationContext column = false) :
    slot ∉ validated.changedOf target.schema.name ∧
      validated.overlay.get? target.schema.name row.row slot = none := by
  obtain ⟨reaches, -⟩ := Run.validated_eq_some_iff.1 h
  obtain ⟨position, stored⟩ := exists_mem_zipIdx stored
  have numbers : (target.rows.map (·.row)).Nodup :=
    RunContext.nodup_numbers reaches.toIngests (mem_loadedTargets h mem)
  have off : slot ∉
      TableValidation.changedSlots target.schema validated.state.validationContext := by
    intro on
    obtain ⟨⟨other, _⟩, listed, rfl⟩ := List.mem_map.1 on
    obtain ⟨listed, substituted⟩ := List.mem_filter.1 listed
    obtain rfl := Option.some.inj ((Header.column?_of_mem_slots listed).symm.trans place)
    exact absurd substituted (Bool.eq_false_iff.1 unchanged)
  have plain : column.change = none := by
    simp only [TableValidation.isChanged, Bool.or_eq_false_iff] at unchanged
    simpa using unchanged.1.2
  refine ⟨?_, ?_⟩
  · rw [changedOf_of_namesOnce h mem once]
    exact off
  · rw [get?_overlay h mem once, resultOf, TableValidation.get?_ofTarget_of_plain numbers stored
      place plain, ValidationTarget.outcome, List.contains_iff_mem.not.2 off |> Bool.eq_false_iff.2]
    exact CheckedCell.resolved_of_unchanged unchanged

end Validated

namespace OutputTable

variable {table : OutputTable} {overlay : Overlay} {row : TableRow} {column : Column} {slot : Nat}

/-- A whole number stands in the object of its row as it was read. -/
theorem mem_members_of_whole (place : (column, slot) ∈ table.schema.exported)
    (scalar : column.isArray = false) (whole : column.IsWhole) (unchanged : slot ∉ table.changed)
    (own : overlay.get? table.schema.name row.row slot = none) {key : Int}
    (stored : row.value slot = writeInt key)
    (spelled : Field.restoreCommas column (writeInt key) = writeInt key) :
    (column.title, .literal (writeInt key)) ∈
      (table.cells overlay row).map OutputCell.member := by
  have shown : table.valueOf overlay row slot = writeInt key := by
    rw [valueOf, own, ← stored]
    rfl
  have style : table.styleOf column slot = .typed column.dataType := by
    rw [styleOf, if_neg]
    rw [List.contains_iff_mem]
    exact unchanged
  have bare : (ValueStyle.typed column.dataType).json (writeInt key) =
      .literal (writeInt key) := by
    rcases whole with type | type <;> rw [type] <;> rfl
  have cell : (⟨column, slot, .typed column.dataType, writeInt key⟩ : OutputCell) ∈
      table.cells overlay row := by
    refine mem_cells_iff.2 ⟨(column, slot), place, ?_, ?_⟩
    · rw [shown]
      exact eqIgnoringCase_writeInt key
    · rw [shown, style]
  refine List.mem_map.2 ⟨_, cell, ?_⟩
  rw [OutputCell.member, OutputCell.json, scalar, spelled, bare]
  rfl

end OutputTable

/-- The files of a sharded merge table. -/
theorem Output.dataFiles_of_sharded {merge : MergeTable} {plan : ShardPlan}
    (sharded : merge.shards = some plan) {options : Options} {overlay : Overlay}
    {changed : List Nat} :
    let table := OutputTable.ofMerge merge changed
    dataFiles options overlay table =
      (plan.shards.map fun shard =>
        ⟨Path.join options.outputRoot (ShardLayout.shardFile merge.name shard.number), .shard,
          some merge.schema.name,
          table.renderRows overlay (ShardLayout.shardRows table shard)⟩) ++
      [⟨Path.join options.outputRoot (ShardLayout.indexFile merge.name), .shardIndex,
        some merge.schema.name,
        ShardLayout.renderIndex ⟨merge.name, merge.groupField, plan⟩⟩] := by
  intro table
  have shards : table.shards = some ⟨merge.name, merge.groupField, plan⟩ := by
    show merge.shards.map _ = some _
    rw [sharded]
    rfl
  rw [dataFiles, shards]
  dsimp only [ShardLayout.renderShards]
  rw [List.map_map]
  rfl

namespace Run

variable {ctx : RunContext}

/-- A clean run writes the files of its merge tables. -/
theorem mem_files_of_mem_dataFiles (clean : (ofContext ctx).finalState.diagnostics = [])
    (wet : ctx.dryRun = false) {validated : Validated}
    (h : (ofContext ctx).validated = some validated) {merge : MergeTable}
    (mem : merge ∈ validated.state.merges) (own : merge.referenceOnly = false) {file : OutputFile}
    (mem' : file ∈ Output.dataFiles ctx.options validated.overlay
      (OutputTable.ofMerge merge (validated.changedOf merge.name))) :
    file ∈ (ofContext ctx).files ctx := by
  have valid : validated.state.isClean = true := by
    rw [(validated_eq_some_iff.1 h).2]
    exact (stage_eq_emit_iff.1 (stage_of_clean clean)).2
  have output : OutputTable.ofMerge merge (validated.changedOf merge.name) ∈
      validated.output.tables := by
    refine List.mem_append_right _ (List.mem_map.2 ⟨merge, List.mem_filter.2 ⟨mem, ?_⟩, rfl⟩)
    rw [own]
    rfl
  refine (mem_files_iff h).2 ⟨⟨valid, wet⟩, ?_⟩
  rw [Output.files, List.append_assoc]
  refine List.mem_append_left _ (List.mem_flatMap.2 ⟨_, output, ?_⟩)
  exact List.mem_append_left _ mem'

section

variable {validated : Validated} {merge : MergeTable} {plan : ShardPlan}

/-- A clean run writes every shard of a merge table with shards. -/
theorem shard_mem_files (clean : (ofContext ctx).finalState.diagnostics = [])
    (wet : ctx.dryRun = false) (h : (ofContext ctx).validated = some validated)
    (mem : merge ∈ validated.state.merges) (own : merge.referenceOnly = false)
    (sharded : merge.shards = some plan) {shard : Shard} (mem' : shard ∈ plan.shards) :
    let table := OutputTable.ofMerge merge (validated.changedOf merge.name)
    ⟨Path.join ctx.options.outputRoot (ShardLayout.shardFile merge.name shard.number), .shard,
      some merge.schema.name,
      table.renderRows validated.overlay (ShardLayout.shardRows table shard)⟩ ∈
        (ofContext ctx).files ctx := by
  refine mem_files_of_mem_dataFiles clean wet h mem own ?_
  rw [Output.dataFiles_of_sharded sharded]
  exact List.mem_append_left _ (List.mem_map_of_mem mem')

/-- A clean run writes the index of a merge table with shards. -/
theorem index_mem_files (clean : (ofContext ctx).finalState.diagnostics = [])
    (wet : ctx.dryRun = false) (h : (ofContext ctx).validated = some validated)
    (mem : merge ∈ validated.state.merges) (own : merge.referenceOnly = false)
    (sharded : merge.shards = some plan) :
    ⟨Path.join ctx.options.outputRoot (ShardLayout.indexFile merge.name), .shardIndex,
      some merge.schema.name, ShardLayout.renderIndex ⟨merge.name, merge.groupField, plan⟩⟩ ∈
        (ofContext ctx).files ctx := by
  refine mem_files_of_mem_dataFiles clean wet h mem own ?_
  rw [Output.dataFiles_of_sharded sharded]
  exact List.mem_append_right _ (List.mem_singleton_self _)

end

/-- Validation keeps the merge tables. -/
theorem merges_of_validated {validated : Validated}
    (h : (ofContext ctx).validated = some validated) :
    validated.state.merges = ctx.mergedState.merges := by
  obtain ⟨-, rfl⟩ := validated_eq_some_iff.1 h
  exact (Validated.ofState_parts ctx.mergedState).2.1

/-- Where validation and merging leave a scalar group field of whole numbers alone, the record of a
row shows the key that the row was read with. -/
theorem shows_group_key {validated : Validated} (h : (ofContext ctx).validated = some validated)
    {merge : MergeTable} (mem : merge ∈ validated.state.merges) (own : merge.referenceOnly = false)
    {slot : Nat} {column : Column} (place : merge.schema.column? slot = some column)
    (plain : column.isExported = true ∧ column.isArray = false ∧ column.IsWhole ∧
      validated.state.KeepsGroupField merge column)
    {row : TableRow} (stored : row ∈ merge.rows) {key : Int}
    (read : readInt64? (row.value slot) = some key)
    (spelled : Field.restoreCommas column (writeInt key) = writeInt key) :
    (column.title, .literal (writeInt key)) ∈
      ((OutputTable.ofMerge merge (validated.changedOf merge.name)).cells validated.overlay
        row).map OutputCell.member := by
  obtain ⟨exported, scalar, whole, keeps⟩ := plain
  obtain ⟨reaches, same⟩ := validated_eq_some_iff.1 h
  have known : merge ∈ ctx.mergedState.merges := merges_of_validated h ▸ mem
  have canonical : DataType.isCanonicalInt (row.value slot) = true := by
    refine RunContext.isCanonicalInt_of_mem_merges reaches known place whole ?_ stored
    rw [← Validated.sheetsOfGroup_ofState, ← same]
    exact keeps.scalar
  obtain ⟨number, again, value⟩ := DataType.isCanonicalInt_iff.1 canonical
  obtain rfl : number = key := Option.some.inj (again.symm.trans read)
  have name : merge.schema.name = merge.name :=
    RunContext.name_of_mem_merges reaches.toIngests known
  have target : .merged merge ∈ validated.state.targets := CompileState.merged_mem_targets mem own
  have once : validated.NamesOnce (ValidationTarget.merged merge).schema.name := by
    intro one mem one' mem' bears bears'
    rw [keeps.alone one mem (bears.trans name), keeps.alone one' mem' (bears'.trans name)]
  obtain ⟨unchanged, unwritten⟩ :=
    Validated.unwritten_of_unchanged h target once stored place keeps.unchanged
  have unchanged : slot ∉ validated.changedOf merge.name := by
    rw [← name]
    exact unchanged
  exact OutputTable.mem_members_of_whole
    (List.mem_filter.2 ⟨List.mk_mem_zipIdx_iff_getElem?.2 place, exported⟩) scalar whole unchanged
    unwritten value.symm spelled

/-- In a run that writes, the shard files hold the objects of their rows and the index file its
entries, and the object of a row belongs to a key that the index maps to its file. Where validation
and merging leave a scalar group field of whole numbers alone, and no comma's stand-in is in the
key, the object shows the key as the index does. -/
theorem shards_agree_with_index (clean : (ofContext ctx).finalState.diagnostics = [])
    (wet : ctx.dryRun = false) {validated : Validated}
    (h : (ofContext ctx).validated = some validated) {merge : MergeTable}
    (mem : merge ∈ validated.state.merges) (own : merge.referenceOnly = false) {plan : ShardPlan}
    (sharded : merge.shards = some plan) :
    let table := OutputTable.ofMerge merge (validated.changedOf merge.name)
    let layout : ShardLayout := ⟨merge.name, merge.groupField, plan⟩
    let fileOf (shard : Shard) := ShardLayout.shardFile merge.name shard.number
    (∀ shard ∈ plan.shards, ∃ content : Rendered,
      ⟨Path.join ctx.options.outputRoot (fileOf shard), .shard, some merge.schema.name, content⟩ ∈
        (ofContext ctx).files ctx ∧
      content.HoldsList (table.objects validated.overlay (ShardLayout.shardRows table shard))) ∧
    (∃ content : Rendered,
      ⟨Path.join ctx.options.outputRoot (ShardLayout.indexFile merge.name), .shardIndex,
        some merge.schema.name, content⟩ ∈ (ofContext ctx).files ctx ∧
      content.HoldsList layout.entries) ∧
    ∃ slot column, merge.groupSlot? = some slot ∧ merge.schema.column? slot = some column ∧
      ∀ shard ∈ plan.shards,
        ∀ record ∈ table.objects validated.overlay (ShardLayout.shardRows table shard),
          ∃ row ∈ ShardLayout.shardRows table shard, ∃ members, record = .object members ∧
            members = (table.cells validated.overlay row).map OutputCell.member ∧
            ∃ key, layout.MapsKey key (fileOf shard) ∧ readInt64? (row.value slot) = some key ∧
              (column.isExported = true → column.isArray = false → column.IsWhole →
                validated.state.KeepsGroupField merge column →
                Field.restoreCommas column (writeInt key) = writeInt key →
                  (column.title, .literal (writeInt key)) ∈ members) := by
  intro table layout fileOf
  obtain ⟨reaches, -⟩ := validated_eq_some_iff.1 h
  have known : merge ∈ ctx.mergedState.merges := merges_of_validated h ▸ mem
  refine ⟨fun shard mem' => ?_, ?_, ?_⟩
  · exact ⟨_, shard_mem_files clean wet h mem own sharded mem',
      table.holdsList_renderRows validated.overlay _⟩
  · exact ⟨_, index_mem_files clean wet h mem own sharded, layout.holdsList_renderIndex⟩
  obtain ⟨slot, column, named, place, keys, integers, divides⟩ :=
    RunContext.divides_of_mem_merges reaches known sharded
  refine ⟨slot, column, named, place, fun shard mem' record listed => ?_⟩
  obtain ⟨row, member, -, rfl⟩ := OutputTable.mem_objects_iff.1 listed
  obtain ⟨position, inside, found⟩ := List.mem_filterMap.1 member
  obtain ⟨key, ownKey, counted⟩ := (divides.mem_rows shard mem' position).1 inside
  have read : readInt64? (row.value slot) = some key := by
    have both := congrArg (·[position]?) integers
    simp only [List.getElem?_map] at both
    change merge.rows[position]? = some row at found
    rw [found, counted] at both
    exact Option.some.inj both
  refine ⟨row, member, _, rfl, rfl, key, ShardLayout.mapsKey_of_mem mem' ownKey, read, ?_⟩
  intro exported scalar whole keeps spelled
  exact shows_group_key h mem own place ⟨exported, scalar, whole, keeps⟩
    (List.mem_of_getElem? found) read spelled

/-- The stages of a group of parts; a second sheet has none. -/
def stages : RunContext :=
  Library.runOver [Library.bookOf "parts.xlsx"
    [Library.sheetOf "first" "#merge" "parts,stage,1" [("id", "key,int"), ("stage", "int")]
      [["1", "7"], ["2", "5"], ["3", "7"]],
     Library.sheetOf "second" "#merge" "parts,stage,1" [("id", "key,int")] [["4"]]]]

/-- What is decided of a merge table in a run on a fixed input. -/
structure GroupSummary where
  /-- The names of the group and of its table. -/
  names : String × String
  field : String
  size : Nat
  written : Bool
  /-- The keys of the rows with their positions. -/
  keys : Option (List (Int × Nat))
deriving DecidableEq

/-- The merge tables of a run in summary. -/
def summaries (validated : Validated) : List GroupSummary :=
  validated.state.merges.map fun merge =>
    ⟨(merge.name, merge.schema.name), merge.groupField, max merge.shardSize 1,
      !merge.referenceOnly && merge.shards.isSome, merge.groupSlot?.map merge.keyedPositions⟩

/-- The columns that the groups of a run are divided by. -/
def groupColumns (validated : Validated) : List (Option Column) :=
  validated.state.merges.map fun merge => merge.groupSlot?.bind merge.schema.column?

/-- The one merge table of a run is divided by the keys that its summary lists. -/
theorem exists_merge_of_summaries {names : String × String} {field : String} {size : Nat}
    {keyed : List (Int × Nat)}
    (h : (ofContext ctx).validated.map summaries = some [⟨names, field, size, true, some keyed⟩]) :
    ∃ validated merge slot column, (ofContext ctx).validated = some validated ∧
      validated.state.merges = [merge] ∧ (merge.name, merge.schema.name) = names ∧
      merge.groupField = field ∧ merge.referenceOnly = false ∧
      merge.shards = some (MergeTable.planFor size keyed) ∧ merge.groupSlot? = some slot ∧
      merge.schema.column? slot = some column := by
  obtain ⟨validated, found, facts⟩ := Option.map_eq_some_iff.1 h
  obtain ⟨merge, one, facts⟩ := List.map_eq_singleton_iff.1 facts
  simp only [GroupSummary.mk.injEq, Bool.and_eq_true, Bool.not_eq_true'] at facts
  obtain ⟨bears, fields, sizes, ⟨own, isSome⟩, keys⟩ := facts
  obtain ⟨plan, sharded⟩ := Option.isSome_iff_exists.1 isSome
  obtain ⟨reaches, -⟩ := validated_eq_some_iff.1 found
  have mem : merge ∈ ctx.mergedState.merges := by
    rw [← merges_of_validated found, one]
    exact List.mem_singleton_self _
  obtain ⟨-, divided⟩ := RunContext.partition_of_mem_merges reaches.toIngests mem sharded
  obtain ⟨slot, named⟩ := MergeTable.groupSlot?_of_partition divided
  have planned := MergeTable.plan_eq_of_partition named divided
  rw [named, Option.map_some, Option.some.injEq] at keys
  rw [sizes, keys] at planned
  exact ⟨validated, merge, slot, _, found, one, bears, fields, own, planned ▸ sharded, named,
    List.getElem?_eq_getElem (MergeTable.slot_lt_of_groupSlot? named)⟩

/-- The columns of whole numbers that validation leaves alone. -/
def leavesAlone (validated : Validated) (column : Column) : Bool :=
  column.isExported && !column.isArray && decide column.IsWhole && column.commaStandIn.isNone &&
    !TableValidation.isChanged validated.state.validationContext column

/-- The index of the stages: the part without a stage has stage 0. -/
def stagesIndex : String :=
  "[\n\t\x7b\n\t\t\"stage\": 0,\n\t\t\"filename\": \"parts_00001.json\"\n\t\x7d," ++
  "\n\t\x7b\n\t\t\"stage\": 5,\n\t\t\"filename\": \"parts_00002.json\"\n\t\x7d," ++
  "\n\t\x7b\n\t\t\"stage\": 7,\n\t\t\"filename\": \"parts_00003.json\"\n\t\x7d\n]"

set_option maxRecDepth 100000 in
/-- Every record of the parts shows a stage that the index maps to its file. -/
theorem shards_agree_with_index_stages :
    ∃ validated merge plan, (ofContext stages).validated = some validated ∧
      merge ∈ validated.state.merges ∧ merge.shards = some plan ∧
      (⟨"output/parts_index.json", .shardIndex, some "parts", ⟨stagesIndex, 3⟩⟩ : OutputFile) ∈
        (ofContext stages).files stages ∧
      let table := OutputTable.ofMerge merge (validated.changedOf merge.name)
      let layout : ShardLayout := ⟨merge.name, merge.groupField, plan⟩
      ∃ slot column, merge.groupSlot? = some slot ∧ merge.schema.column? slot = some column ∧
        ∀ shard ∈ plan.shards,
          ∀ record ∈ table.objects validated.overlay (ShardLayout.shardRows table shard),
            ∃ members key, record = .object members ∧
              layout.MapsKey key (ShardLayout.shardFile merge.name shard.number) ∧
              (column.title, .literal (writeInt key)) ∈ members := by
  have clean : (ofContext stages).finalState.diagnostics = [] := by decide
  have run : (ofContext stages).validated.map summaries =
      some [⟨("parts", "parts"), "stage", 1, true, some [(7, 0), (5, 1), (7, 2), (0, 3)]⟩] := by
    decide
  have columns : ((ofContext stages).validated.map fun validated =>
      (groupColumns validated).map fun column => column.map (leavesAlone validated)) =
        some [some true] := by decide
  have scalars : ((ofContext stages).validated.map fun validated =>
      validated.state.mergeSheets.all fun pending =>
        pending.sheet.schema.columns.all fun column => !column.isArray) = some true := by
    decide
  have count : ((ofContext stages).validated.map fun validated =>
      validated.state.targets.length) = some 1 := by decide
  obtain ⟨validated, merge, slot, column, found, one, names, field, own, sharded, named, place⟩ :=
    exists_merge_of_summaries run
  rw [found, Option.map_some, Option.some.injEq] at columns scalars count
  obtain ⟨name, schema⟩ := Prod.mk.inj names
  have mem : merge ∈ validated.state.merges := one ▸ List.mem_singleton_self _
  -- the four parts are divided into one shard for each of the three stages
  have plan : MergeTable.planFor 1 [(7, 0), (5, 1), (7, 2), (0, 3)] =
      ⟨[⟨1, [0], [3]⟩, ⟨2, [5], [1]⟩, ⟨3, [7], [0, 2]⟩]⟩ := by
    rw [MergeTable.planFor_eq (by decide)]
    decide
  have index := index_mem_files clean rfl found mem own sharded
  rw [plan, name, schema, field] at index
  obtain ⟨-, -, slot', column', named', place', agree⟩ :=
    shards_agree_with_index clean rfl found mem own sharded
  obtain rfl := Option.some.inj (named'.symm.trans named)
  obtain rfl := Option.some.inj (place'.symm.trans place)
  refine ⟨validated, merge, _, found, mem, sharded, index, _, _, named, place, ?_⟩
  rw [groupColumns, one, List.map_singleton, named, Option.bind_some, place, List.map_singleton,
    Option.map_some, List.cons.injEq, Option.some.injEq] at columns
  simp only [leavesAlone, Bool.and_eq_true, Bool.not_eq_true', decide_eq_true_eq,
    Option.isNone_iff_eq_none] at columns
  obtain ⟨⟨⟨⟨⟨exported, scalar⟩, whole⟩, plain⟩, unchanged⟩, -⟩ := columns
  have keeps : validated.state.KeepsGroupField merge column' :=
    CompileState.keepsGroupField_of_only mem own count scalars unchanged
  intro shard known record listed
  obtain ⟨row, -, members, object, -, key, mapped, -, shown⟩ := agree shard known record listed
  refine ⟨members, key, object, mapped, shown exported scalar whole keeps ?_⟩
  rw [Field.restoreCommas, plain]

/-- A part whose stage is replaced by another number. -/
def changedStages : RunContext :=
  Library.runOver [Library.bookOf "parts.xlsx"
    [Library.sheetOf "first" "#merge" "parts,stage,1"
      [("id", "key,int"), ("stage", "int,change<shown>"), ("shown", "int")] [["1", "5", "9"]]]]

/-- The literals among the members of an object. -/
def literals (members : List (String × Json)) : List (String × String) :=
  members.filterMap fun member =>
    match member.2 with
    | .literal spelling => some (member.1, spelling)
    | _ => none

set_option maxRecDepth 100000 in
/-- The index maps the stage that was read, 5, and the record shows 9. -/
theorem not_shards_agree_with_index : ¬ ∀ (ctx : RunContext) (validated : Validated)
    (merge : MergeTable) (plan : ShardPlan) (slot : Nat) (column : Column),
    (ofContext ctx).finalState.diagnostics = [] → ctx.dryRun = false →
      (ofContext ctx).validated = some validated → merge ∈ validated.state.merges →
      merge.referenceOnly = false → merge.shards = some plan → merge.groupSlot? = some slot →
      merge.schema.column? slot = some column → column.isExported = true →
      column.isArray = false → column.IsWhole →
        let table := OutputTable.ofMerge merge (validated.changedOf merge.name)
        let layout : ShardLayout := ⟨merge.name, merge.groupField, plan⟩
        ∀ shard ∈ plan.shards,
          ∀ record ∈ table.objects validated.overlay (ShardLayout.shardRows table shard),
            ∃ members key, record = .object members ∧
              layout.MapsKey key (ShardLayout.shardFile merge.name shard.number) ∧
              (column.title, .literal (writeInt key)) ∈ members := by
  intro all
  have clean : (ofContext changedStages).finalState.diagnostics = [] := by decide
  have run : (ofContext changedStages).validated.map summaries =
      some [⟨("parts", "parts"), "stage", 1, true, some [(5, 0)]⟩] := by decide
  have columns : ((ofContext changedStages).validated.map fun validated =>
      (groupColumns validated).map fun column => column.map fun column =>
        (column.title, column.isExported, column.isArray, decide column.IsWhole)) =
        some [some ("stage", true, false, true)] := by decide
  have values : ((ofContext changedStages).validated.map fun validated =>
      validated.state.merges.map fun merge => merge.rows.map fun row =>
        literals (((OutputTable.ofMerge merge (validated.changedOf merge.name)).cells
          validated.overlay row).map OutputCell.member)) =
      some [[[("id", "1"), ("stage", "9"), ("shown", "9")]]] := by
    decide
  obtain ⟨validated, merge, slot, column, found, one, -, -, own, sharded, named, place⟩ :=
    exists_merge_of_summaries run
  rw [found, Option.map_some, Option.some.injEq] at columns values
  simp only [one, groupColumns, List.map_singleton, named, Option.bind_some, place,
    Option.map_some, List.cons.injEq, Prod.mk.injEq, and_true, Option.some.injEq,
    decide_eq_true_eq] at columns values
  obtain ⟨title, exported, scalar, whole⟩ := columns
  obtain ⟨row, single, shown⟩ := List.map_eq_singleton_iff.1 values
  have mem : merge ∈ validated.state.merges := one ▸ List.mem_singleton_self _
  -- the one shard has key 5 and the one row
  have plan : MergeTable.planFor 1 [(5, 0)] = ⟨[⟨1, [5], [0]⟩]⟩ := by
    rw [MergeTable.planFor_eq (by decide)]
    decide
  rw [plan] at sharded
  let table := OutputTable.ofMerge merge (validated.changedOf merge.name)
  have listed : .object ((table.cells validated.overlay row).map OutputCell.member) ∈
      table.objects validated.overlay (ShardLayout.shardRows table ⟨1, [5], [0]⟩) := by
    refine OutputTable.mem_objects_iff.2 ⟨row, ?_, ?_, rfl⟩
    · refine List.mem_filterMap.2 ⟨0, List.mem_singleton_self _, ?_⟩
      show merge.rows[0]? = some row
      rw [single]
      rfl
    · intro none
      rw [none] at shown
      cases shown
  obtain ⟨members, key, object, mapped, member⟩ := all _ validated merge _ slot column clean rfl
    found mem own sharded named place exported scalar whole _ (List.mem_singleton_self _) _ listed
  obtain rfl := Json.object.inj object
  have only : key = 5 := List.mem_singleton.1 mapped.mem_keys
  have five : ("stage", "5") ∈
      literals ((table.cells validated.overlay row).map OutputCell.member) := by
    rw [only, title] at member
    exact List.mem_filterMap.2 ⟨_, member, rfl⟩
  rw [shown] at five
  exact absurd five (by decide)

end Run

end DesignTables
