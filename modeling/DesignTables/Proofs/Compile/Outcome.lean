import DesignTables.Proofs.Compile.Contents
import DesignTables.Proofs.Merge.Division
import DesignTables.Proofs.Output.Emission

/-!
# A run is all or nothing

A run with a problem, or a dry one, leaves the files alone and lists none. A run without a problem
writes what its tables and registries call for, in a fixed order, into a cleared output root.
-/
namespace DesignTables

/-- A file as a run lists it. -/
structure ListedFile where
  path : String
  role : FileRole
  /-- The table that the file belongs to, unless it serves all. -/
  table : Option String
deriving DecidableEq, Repr

/-- A file without its content. -/
def OutputFile.listed (file : OutputFile) : ListedFile := ⟨file.path, file.role, file.table⟩

/-! ## The files that a state calls for -/

/-- The companion code of a table. -/
def Schema.listedCode (schema : Schema) (options : Options) : List ListedFile :=
  if schema.options.nocode = false ∧ (schema.kind = .data ∨ schema.kind = .merge) then
    [⟨Output.codePath options schema, .schemaCode, some schema.name⟩]
  else []

/-- The record file of a table. -/
def Schema.listedRecords (schema : Schema) (options : Options) : ListedFile :=
  ⟨Output.recordsPath options schema, .records, some schema.name⟩

/-- The shard files of a merge table by their numbers, then the index. -/
def MergeTable.listedShards (table : MergeTable) (options : Options) (count : Nat) :
    List ListedFile :=
  (List.range count).map (fun i =>
    ⟨Path.join options.outputRoot (ShardLayout.shardFile table.name (i + 1)), .shard,
      some table.name⟩) ++
  [⟨Path.join options.outputRoot (ShardLayout.indexFile table.name), .shardIndex,
    some table.name⟩]

/-- The files of a merge table: its shards if it has a plan for them, else its records, and its
companion code. -/
def MergeTable.listed (table : MergeTable) (options : Options) : List ListedFile :=
  (match table.shards with
    | some plan => table.listedShards options plan.shards.length
    | none => [table.schema.listedRecords options]) ++ table.schema.listedCode options

/-- The files that a state calls for when it is written. -/
def CompileState.listed (state : CompileState) (options : Options) : List ListedFile :=
  ((state.tables.filter fun table => !table.referenceOnly &&
      (table.schema.kind == .data || table.schema.kind == .enumeration)).flatMap fun table =>
    table.schema.listedRecords options :: table.schema.listedCode options) ++
  ((state.merges.filter (!·.referenceOnly)).flatMap fun table => table.listed options) ++
  (if state.enums.groups.any (!·.nocode) then
    [⟨Path.join options.codePath EnumCode.fileName, .enumCode, none⟩] else []) ++
  if state.localization.size = 0 then [] else
    state.localization.languages.map fun language =>
      ⟨Path.join options.outputRoot (LocalizationRegistry.fileName language), .localization, none⟩

namespace Output

theorem listed_codeFiles (options : Options) (table : OutputTable) :
    (codeFiles options table).map OutputFile.listed = table.schema.listedCode options := by
  rw [codeFiles, Schema.listedCode, OutputTable.wantsCode]
  simp only [Bool.and_eq_true, Bool.not_eq_true', Bool.or_eq_true, beq_iff_eq]
  split
  · rw [List.map_singleton, OutputFile.listed]
  · rfl

theorem listed_dataFiles_of_unsharded (options : Options) (overlay : Overlay)
    {table : OutputTable} (unsharded : table.shards = none) :
    (dataFiles options overlay table).map OutputFile.listed =
      [table.schema.listedRecords options] := by
  rw [dataFiles, unsharded, Schema.listedRecords]
  dsimp only
  rw [List.map_singleton, OutputFile.listed]

theorem listed_unsharded (options : Options) (overlay : Overlay) {table : OutputTable}
    (unsharded : table.shards = none) :
    (dataFiles options overlay table ++ codeFiles options table).map OutputFile.listed =
      table.schema.listedRecords options :: table.schema.listedCode options := by
  rw [List.map_append, listed_codeFiles, listed_dataFiles_of_unsharded options overlay unsharded,
    List.singleton_append]

/-- The shards of a table are listed by their numbers, since these run from one. -/
theorem listed_dataFiles_of_sharded (options : Options) (overlay : Overlay) (table : MergeTable)
    (changed : List Nat) (named : table.schema.name = table.name) {plan : ShardPlan}
    (sharded : table.shards = some plan)
    (numbers : plan.shards.map (·.number) = (List.range plan.shards.length).map (· + 1)) :
    (dataFiles options overlay (OutputTable.ofMerge table changed)).map OutputFile.listed =
      table.listedShards options plan.shards.length := by
  have files : (dataFiles options overlay (OutputTable.ofMerge table changed)).map
        OutputFile.listed =
      (plan.shards.map (·.number)).map (fun number =>
        ⟨Path.join options.outputRoot (ShardLayout.shardFile table.name number), .shard,
          some table.schema.name⟩) ++
      [⟨Path.join options.outputRoot (ShardLayout.indexFile table.name), .shardIndex,
        some table.schema.name⟩] := by
    rw [dataFiles, OutputTable.ofMerge, sharded]
    dsimp only [Option.map_some]
    rw [List.map_append, ShardLayout.renderShards, List.map_map, List.map_map, List.map_map]
    rfl
  rw [files, numbers, List.map_map, named]
  rfl

/-- Code of the enumerations is rendered when some group wants it. -/
theorem isSome_render?_iff (enums : EnumRegistry) (codeNamespace : String) :
    (EnumCode.render? enums codeNamespace).isSome ↔ enums.groups.any (!·.nocode) = true := by
  have wanted : (EnumCode.groupsOf enums).isEmpty = true ↔
      ¬ enums.groups.any (!·.nocode) = true := by
    rw [EnumCode.groupsOf, List.isEmpty_iff, List.filter_eq_nil_iff, List.any_eq_true]
    exact ⟨fun none ⟨group, mem, wants⟩ => none group mem wants,
      fun none group mem wants => none ⟨group, mem, wants⟩⟩
  rw [EnumCode.render?]
  dsimp only
  split
  next empty => exact iff_of_false Bool.false_ne_true (wanted.1 empty)
  next some =>
    refine iff_of_true ?_ (by_contra fun none => some (wanted.2 none))
    split <;> rfl

theorem listed_enumFiles (options : Options) (enums : EnumRegistry) :
    (enumFiles options enums).map OutputFile.listed =
      if enums.groups.any (!·.nocode) then
        [⟨Path.join options.codePath EnumCode.fileName, .enumCode, none⟩] else [] := by
  have wanted := isSome_render?_iff enums options.codeNamespace
  rw [enumFiles]
  split
  next text groups rendered =>
    rw [rendered] at wanted
    rw [if_pos (wanted.1 rfl)]
    rfl
  next absent =>
    rw [absent] at wanted
    rw [if_neg fun wants => Bool.false_ne_true (wanted.2 wants)]
    rfl

theorem listed_stringFiles (options : Options) (localization : LocalizationRegistry) :
    (stringFiles options localization).map OutputFile.listed =
      if localization.size = 0 then [] else localization.languages.map fun language =>
        ⟨Path.join options.outputRoot (LocalizationRegistry.fileName language), .localization,
          none⟩ := by
  rw [stringFiles, List.map_map]
  split
  next empty =>
    have none : localization.languages = [] := by
      rw [LocalizationRegistry.languages, List.eq_nil_of_length_eq_zero empty]
      rfl
    rw [none]
    rfl
  next => rfl

end Output

namespace MergeOutcome

variable {group : String} {sheets : List IngestedSheet} {referenceOnly : Bool}
variable {outcome : MergeOutcome}

theorem shards_ofSheets? (merged : ofSheets? group sheets referenceOnly = some outcome) :
    outcome.table.shards = none := by
  obtain ⟨first, -, merged⟩ := Option.bind_eq_some_iff.1 merged
  obtain ⟨header, -, merged⟩ := Option.bind_eq_some_iff.1 merged
  obtain rfl := Option.some.inj merged
  rfl

/-- A merge table has shards only by its division. -/
theorem partition_of_shardMerge (merged : ofSheets? group sheets referenceOnly = some outcome)
    {plan : ShardPlan}
    (sharded : (CompileState.shardMerge outcome.table).1.shards = some plan) :
    outcome.table.partition = .ok plan := by
  have before := shards_ofSheets? merged
  rw [CompileState.shardMerge] at sharded
  split at sharded
  next =>
    split at sharded
    next divided =>
      obtain rfl := Option.some.inj sharded
      exact divided
    next => cases before.symm.trans sharded
  next => cases before.symm.trans sharded

end MergeOutcome

namespace RunContext

variable {ctx : RunContext} {merge : MergeTable} {plan : ShardPlan}

/-- A merge table of a run that has shards is divided into them. -/
theorem partition_of_mem_merges (h : ctx.Ingests) (mem : merge ∈ ctx.mergedState.merges)
    (sharded : merge.shards = some plan) : merge.HasSources ∧ merge.partition = .ok plan := by
  rw [merges_mergedState h, List.mem_map] at mem
  obtain ⟨outcome, mem, rfl⟩ := mem
  obtain ⟨group, -, merged⟩ := List.mem_filterMap.1 mem
  have divided := MergeOutcome.partition_of_shardMerge merged sharded
  obtain ⟨shards, table⟩ := CompileState.shardMerge_table outcome.table
  rw [table]
  exact ⟨MergeOutcome.hasSources_ofSheets? merged, divided⟩

/-- The shards of a merge table are numbered from one. -/
theorem numbers_of_mem_merges (h : ctx.Ingests) (mem : merge ∈ ctx.mergedState.merges)
    (sharded : merge.shards = some plan) :
    plan.shards.map (·.number) = (List.range plan.shards.length).map (· + 1) := by
  obtain ⟨sourced, divided⟩ := partition_of_mem_merges h mem sharded
  obtain ⟨slot, named⟩ := MergeTable.groupSlot?_of_partition divided
  obtain ⟨keys, -, divides⟩ := MergeTable.divides_of_partition sourced named divided
  exact divides.numbers

end RunContext

namespace Validated

variable {ctx : RunContext} {validated : Validated}

theorem listed_merge (h : ctx.Ingests) {table : MergeTable}
    (mem : table ∈ ctx.mergedState.merges) (options : Options) (overlay : Overlay)
    (changed : List Nat) :
    (Output.dataFiles options overlay (OutputTable.ofMerge table changed) ++
      Output.codeFiles options (OutputTable.ofMerge table changed)).map OutputFile.listed =
        table.listed options := by
  rw [MergeTable.listed]
  split
  next plan sharded =>
    have code : (Output.codeFiles options (OutputTable.ofMerge table changed)).map
        OutputFile.listed = table.schema.listedCode options := Output.listed_codeFiles options _
    rw [List.map_append, code, Output.listed_dataFiles_of_sharded options overlay table changed
      (RunContext.name_of_mem_merges h mem) sharded
      (RunContext.numbers_of_mem_merges h mem sharded)]
  next unsharded =>
    have none : (OutputTable.ofMerge table changed).shards = none := by
      rw [OutputTable.ofMerge, unsharded]
      rfl
    exact Output.listed_unsharded options overlay none

/-- What a validated run writes is what its state calls for. -/
theorem listed_files (h : (Run.ofContext ctx).validated = some validated) (options : Options) :
    (validated.output.files options).map OutputFile.listed = validated.state.listed options := by
  obtain ⟨reaches, same⟩ := Run.validated_eq_some_iff.1 h
  obtain ⟨-, merges, -, -, -⟩ := same ▸ ofState_parts ctx.mergedState
  have own : ∀ tables : List LoadedTable,
      ((tables.map fun table => (⟨table.schema, table.rows,
        validated.changedOf table.schema.name, none⟩ : OutputTable)).flatMap fun table =>
          Output.dataFiles options validated.overlay table ++
            Output.codeFiles options table).map OutputFile.listed =
      tables.flatMap fun table =>
        table.schema.listedRecords options :: table.schema.listedCode options := by
    intro tables
    rw [List.flatMap_map, List.map_flatMap]
    exact List.flatMap_congr fun table _ => Output.listed_unsharded options _ rfl
  have merged : ∀ tables : List MergeTable, (∀ table ∈ tables, table ∈ ctx.mergedState.merges) →
      ((tables.map fun table =>
        OutputTable.ofMerge table (validated.changedOf table.name)).flatMap fun table =>
          Output.dataFiles options validated.overlay table ++
            Output.codeFiles options table).map OutputFile.listed =
      tables.flatMap fun table => table.listed options := by
    intro tables known
    rw [List.flatMap_map, List.map_flatMap]
    exact List.flatMap_congr fun table mem =>
      listed_merge reaches.toIngests (known table mem) options _ _
  rw [Output.files, List.map_append, List.map_append, Output.listed_enumFiles,
    Output.listed_stringFiles, CompileState.listed, output]
  dsimp only
  rw [List.flatMap_append, List.map_append, own, merged _ fun table mem => ?_]
  exact merges ▸ (List.mem_filter.1 mem).1

end Validated

/-- A run ends with writing exactly when it found no problem. -/
theorem Run.stage_eq_emit_iff_diagnostics (ctx : RunContext) :
    (ofContext ctx).stage = .emit ↔ (ofContext ctx).finalState.diagnostics = [] := by
  refine ⟨fun ends => ?_, stage_of_clean⟩
  rw [finalState_of_emit ends]
  exact CompileState.isClean_iff.1 (stage_eq_emit_iff.1 ends).2

/-- The files of a run that ends with writing and is not dry are what its state calls for. -/
theorem Run.listed_files {ctx : RunContext} (ends : (ofContext ctx).stage = .emit)
    (wet : ctx.dryRun = false) : ((ofContext ctx).files ctx).map OutputFile.listed =
      (ofContext ctx).finalState.listed ctx.options := by
  obtain ⟨reaches, clean⟩ := stage_eq_emit_iff.1 ends
  have found := validated_eq_some_iff.2 ⟨reaches, rfl⟩
  rw [files, found, finalState_of_emit ends]
  dsimp only
  rw [clean, wet]
  exact Validated.listed_files found ctx.options

namespace Compilation

variable {α : Type} {ofText : String → α} {tree : FileTree α} {ctx : RunContext}
variable {outcome : RunOutcome}

theorem ofRun_of_outcome (done : (compile ofText tree ctx).outcome = .ok outcome) :
    outcome.stage = (Run.ofContext ctx).stage ∧
      outcome.diagnostics = (Run.ofContext ctx).finalState.diagnostics := by
  have run : (compile ofText tree ctx).run = Run.ofContext ctx := by
    rw [compile]
    split <;> rfl
  rw [Compilation.outcome, run] at done
  split at done
  next =>
    split at done
    next => cases done
    next =>
      obtain rfl := Except.ok.inj done
      exact ⟨rfl, rfl⟩
  next =>
    obtain rfl := Except.ok.inj done
    exact ⟨rfl, rfl⟩

/-- A run that does not get to writing leaves the files as they are. -/
theorem of_idle (idle : writes (Run.ofContext ctx) ctx = false)
    (done : (compile ofText tree ctx).outcome = .ok outcome) :
    outcome.files = [] ∧ (compile ofText tree ctx).tree = tree := by
  rw [compile, idle] at done ⊢
  obtain rfl := Except.ok.inj done
  exact ⟨rfl, rfl⟩

/-- A run that gets to writing, and does not fail there, has written its files. -/
theorem completes_of_writes (busy : writes (Run.ofContext ctx) ctx = true)
    (done : (compile ofText tree ctx).outcome = .ok outcome) : ∃ emission : Emission α,
      outcome.files = emission.written ∧ (compile ofText tree ctx).tree = emission.tree ∧
        Emission.Completes ofText tree ctx.options.outputRoot ((Run.ofContext ctx).files ctx)
          emission := by
  let emission :=
    Emission.ofFiles ofText tree ctx.options.outputRoot ((Run.ofContext ctx).files ctx)
  have shape : compile ofText tree ctx =
      ⟨Run.ofContext ctx, some emission, emission.tree⟩ := by
    rw [compile]
    exact if_pos busy
  rw [shape, Compilation.outcome] at done
  dsimp only at done
  split at done
  next => cases done
  next healthy =>
    obtain rfl := Except.ok.inj done
    rw [shape]
    exact ⟨emission, rfl, rfl, Emission.completes_ofFiles healthy⟩

/-- A run without a problem that is not dry gets to writing. -/
theorem emits_of_clean (done : (compile ofText tree ctx).outcome = .ok outcome)
    (clean : outcome.diagnostics = []) (wet : ctx.dryRun = false) :
    (Run.ofContext ctx).stage = .emit ∧ writes (Run.ofContext ctx) ctx = true := by
  obtain ⟨-, diagnostics⟩ := ofRun_of_outcome done
  have emits := (Run.stage_eq_emit_iff_diagnostics ctx).2 (diagnostics.symm.trans clean)
  refine ⟨emits, ?_⟩
  rw [writes, emits, wet]
  rfl

/-- A run that does not fail ends with writing exactly when it found no problem. With a problem, and
when it is dry, it leaves the files as they are. Otherwise it clears the output root and writes
the files that its state calls for in their order; then every place holds what was written there
last, and apart from that what was left of the tree. No file is left below an output root whose
path has no step upwards. -/
theorem all_or_nothing (done : (compile ofText tree ctx).outcome = .ok outcome) :
    (outcome.stage = .emit ↔ outcome.diagnostics = []) ∧
    (outcome.diagnostics ≠ [] ∨ ctx.dryRun = true →
      outcome.files = [] ∧ (compile ofText tree ctx).tree = tree) ∧
    (outcome.diagnostics = [] → ctx.dryRun = false →
      outcome.files.map OutputFile.listed =
        (Run.ofContext ctx).finalState.listed ctx.options ∧
      ∃ cleared, tree.Cleared ctx.options.outputRoot cleared ∧
        (tree.Closed → ctx.options.outputRoot ≠ "" →
          ".." ∉ FileTree.piecesOf ctx.options.outputRoot →
          ∀ place, FileTree.placeFor ctx.options.outputRoot <+: place →
            cleared.content? place = none) ∧
        ∀ place, (compile ofText tree ctx).tree.content? place =
          ((Output.lastAt? outcome.files place).map fun file => ofText file.content.text).or
            (cleared.content? place)) := by
  obtain ⟨stage, diagnostics⟩ := ofRun_of_outcome done
  have ends := Run.stage_eq_emit_iff_diagnostics ctx
  refine ⟨by rw [stage, diagnostics, ends], fun idle => ?_, fun clean wet => ?_⟩
  · refine of_idle ?_ done
    rw [writes, Bool.and_eq_false_iff, Bool.not_eq_false', beq_eq_false_iff_ne]
    refine idle.imp_left fun problem emits => problem ?_
    exact diagnostics.trans (ends.1 emits)
  · obtain ⟨emits, busy⟩ := emits_of_clean done clean wet
    obtain ⟨emission, files, after, complete⟩ := completes_of_writes busy done
    obtain ⟨cleared, clears, content⟩ := complete.content
    rw [files, complete.written, after]
    refine ⟨Run.listed_files emits wet, cleared, clears, ?_, content⟩
    exact fun closed some plain place => clears.content?_eq_none closed plain some

/-- A table of goods, and texts in two languages. -/
def goodsAndTexts : List Workbook :=
  [⟨"goods.xlsx", "design/goods.xlsx", [⟨"goods", Grid.ofTexts
      [["", "", ""], ["#data", "id", "name"], ["", "key,int", "string"], ["", "data", "data"],
       ["", "7", "rope"]]⟩]⟩,
   ⟨"texts.xlsx", "design/texts.xlsx", [⟨"texts", Grid.ofTexts
      [["", "", "", ""], ["#localtext", "key", "en", "de"], ["", "key,string", "string", "string"],
       ["", "data", "data", "data"], ["", "rope", "Rope", "Seil"]]⟩]⟩]

set_option maxRecDepth 100000 in
theorem outcome_goodsAndTexts :
    let ctx := RunContext.select Options.standard goodsAndTexts .all false
    ∃ outcome, (compile id (FileTree.empty.add "output/stale.txt" "old") ctx).outcome =
        .ok outcome ∧ outcome.diagnostics = [] ∧
      outcome.files.map (·.listed.path) =
        ["output/tables/GoodsTable.json", "output/scripts/GoodsTable.cs", "output/string_en.json",
         "output/string_de.json"] := by
  intro ctx
  have run : ((compile id (FileTree.empty.add "output/stale.txt" "old") ctx).outcome.toOption.map
      fun outcome => (outcome.diagnostics.isEmpty, outcome.files.map (·.listed.path))) =
        some (true, ["output/tables/GoodsTable.json", "output/scripts/GoodsTable.cs",
          "output/string_en.json", "output/string_de.json"]) := by decide +kernel
  obtain ⟨outcome, found, same⟩ := Option.map_eq_some_iff.1 run
  obtain ⟨clean, paths⟩ := Prod.mk.inj same
  exact ⟨outcome, ok_of_toOption found, List.isEmpty_iff.1 clean, paths⟩

/-- The goods are written, then their code, then the texts of each language. -/
theorem all_or_nothing_goods :
    let ctx := RunContext.select Options.standard goodsAndTexts .all false
    let tree := FileTree.empty.add "output/stale.txt" "old"
    ∃ outcome, (compile id tree ctx).outcome = .ok outcome ∧ outcome.stage = .emit ∧
      outcome.files.map (·.listed.path) =
        ["output/tables/GoodsTable.json", "output/scripts/GoodsTable.cs", "output/string_en.json",
         "output/string_de.json"] ∧
      ∃ cleared, tree.Cleared "output" cleared ∧
        (tree.Closed → "output" ≠ "" → ".." ∉ FileTree.piecesOf "output" →
          ∀ place, FileTree.placeFor "output" <+: place → cleared.content? place = none) ∧
        ∀ place, (compile id tree ctx).tree.content? place =
          ((Output.lastAt? outcome.files place).map (·.content.text)).or
            (cleared.content? place) := by
  intro ctx tree
  obtain ⟨outcome, done, clean, paths⟩ := outcome_goodsAndTexts
  obtain ⟨stage, -, written⟩ := all_or_nothing done
  exact ⟨outcome, done, stage.2 clean, paths, (written clean rfl).2⟩

end Compilation

end DesignTables
