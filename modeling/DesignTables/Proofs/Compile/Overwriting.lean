import DesignTables.Proofs.Compile.Outcome
import DesignTables.Proofs.Output.Paths

/-!
# Which files of a run overwrite each other

Tables are told apart by their names as they stand, but their files by the Pascal-case form of these
and by folders. So a run without a problem may write several files under one path, and then the last
of them stands.
-/
namespace DesignTables

open FileTree

namespace Emission

variable {α : Type} {ofText : String → α} {tree : FileTree α} {root : String}
variable {files : List OutputFile} {emission : Emission α}

/-- After a successful emission every file reads back as it was rendered exactly when files that go
to one place are the same. -/
theorem Completes.reads_back_iff (complete : Completes ofText tree root files emission) :
    (∀ file ∈ files, emission.tree.read? file.path = some (ofText file.content.text)) ↔
      files.Pairwise fun a b => placeFor a.path = placeFor b.path →
        ofText a.content.text = ofText b.content.text := by
  obtain ⟨cleared, -, content⟩ := complete.content
  constructor
  · intro back
    refine List.pairwise_of_forall_mem_list fun a memA b memB same => ?_
    have first := back a memA
    have second := back b memB
    rw [complete.read a memA, same, ← complete.read b memB, second] at first
    exact (Option.some.inj first).symm
  · intro agree file mem
    have all := agree.forall_of_forall_of_flip (fun _ _ _ => rfl)
      (agree.imp fun same back => (same back.symm).symm)
    obtain ⟨last, memLast, found, there⟩ := Output.exists_lastAt? mem
    rw [complete.read file mem, content, found]
    exact congrArg some (all memLast mem there)

/-- Of two files at one place the later one stands. -/
example :
    let file : String → OutputFile := fun text => ⟨"output/a.json", .records, none, ⟨text, 1⟩⟩
    (ofFiles id FileTree.empty "output" [file "ant", file "bee"]).tree.read? "output/a.json" =
      some "bee" := by
  decide +kernel

end Emission

/-- A path of a run with the standard options that has no step upwards leads where its components
say. -/
theorem Output.placeFor_of_mem_files {output : Output} {file : OutputFile}
    (mem : file ∈ output.files Options.standard) (noStepUp : ".." ∉ piecesOf file.path) :
    placeFor file.path = Path.components file.path :=
  placeFor_eq_components noStepUp ((rooted_of_mem_files mem).head?_splitOn_ne_dot (by decide))

namespace Validated

variable {ctx : RunContext} {validated : Validated}

/-- Shards of a table of a run have different numbers. -/
theorem nodup_numbers (h : (Run.ofContext ctx).validated = some validated) {table : OutputTable}
    (mem : table ∈ validated.output.tables) {layout : ShardLayout}
    (sharded : table.shards = some layout) : (layout.plan.shards.map (·.number)).Nodup := by
  obtain ⟨reaches, same⟩ := Run.validated_eq_some_iff.1 h
  obtain ⟨-, merges, -, -, -⟩ := same ▸ ofState_parts ctx.mergedState
  rcases List.mem_append.1 mem with own | merged
  · obtain ⟨_, -, rfl⟩ := List.mem_map.1 own
    cases sharded
  · obtain ⟨merge, memMerge, rfl⟩ := List.mem_map.1 merged
    obtain ⟨plan, divided, rfl⟩ := Option.map_eq_some_iff.1 sharded
    have known : merge ∈ ctx.mergedState.merges := merges ▸ (List.mem_filter.1 memMerge).1
    dsimp only
    rw [RunContext.numbers_of_mem_merges reaches.toIngests known divided]
    exact List.nodup_range.map fun _ _ => Nat.succ.inj

end Validated

namespace Compilation

variable {α : Type} {ofText : String → α} {tree : FileTree α} {ctx : RunContext}
variable {outcome : RunOutcome}

/-- A run without a problem that is not dry has written the output of its validated tables. -/
theorem exists_completes (done : (compile ofText tree ctx).outcome = .ok outcome)
    (clean : outcome.diagnostics = []) (wet : ctx.dryRun = false) :
    ∃ validated, (Run.ofContext ctx).validated = some validated ∧
      outcome.files = validated.output.files ctx.options ∧
      ∃ emission : Emission α, (compile ofText tree ctx).tree = emission.tree ∧
        emission.Completes ofText tree ctx.options.outputRoot outcome.files := by
  obtain ⟨emits, busy⟩ := emits_of_clean done clean wet
  obtain ⟨reaches, cleanState⟩ := Run.stage_eq_emit_iff.1 emits
  have found := Run.validated_eq_some_iff.2 ⟨reaches, rfl⟩
  obtain ⟨emission, files, after, complete⟩ := completes_of_writes busy done
  have listed := files.trans complete.written
  refine ⟨_, found, ?_, emission, after, listed ▸ complete⟩
  rw [listed, Run.files, found]
  dsimp only
  rw [cleanState, wet]
  rfl

/-- A run without a problem that sets no options writes its files under different paths exactly when
its tables, its groups and its languages are apart; tables without slashes in their names are so
when these differ in Pascal case or the folders differ. Afterwards every file reads back as it was
rendered exactly when files that go to one place are the same, so in particular when the paths are
different and have no step upwards. -/
theorem keeps_files_iff (standard : ctx.options = Options.standard)
    (done : (compile ofText tree ctx).outcome = .ok outcome) (clean : outcome.diagnostics = [])
    (wet : ctx.dryRun = false) : ∃ validated, (Run.ofContext ctx).validated = some validated ∧
      ((outcome.files.map (Path.components ·.path)).Nodup ↔ validated.output.Apart ctx.options) ∧
      ((∀ table ∈ validated.output.tables, table.Plain) →
        (validated.output.tables.Pairwise (OutputTable.Apart ctx.options) ↔
          validated.output.tables.Pairwise OutputTable.NamedApart)) ∧
      ((∀ file ∈ outcome.files,
          (compile ofText tree ctx).tree.read? file.path = some (ofText file.content.text)) ↔
        outcome.files.Pairwise fun a b => placeFor a.path = placeFor b.path →
          ofText a.content.text = ofText b.content.text) ∧
      ((∀ file ∈ outcome.files, ".." ∉ piecesOf file.path) → validated.output.Apart ctx.options →
        ∀ file ∈ outcome.files,
          (compile ofText tree ctx).tree.read? file.path = some (ofText file.content.text)) := by
  obtain ⟨validated, found, listed, emission, after, complete⟩ := exists_completes done clean wet
  rw [standard] at listed ⊢
  rw [after, complete.reads_back_iff]
  have numbers : ∀ table ∈ validated.output.tables, ∀ layout, table.shards = some layout →
      (layout.plan.shards.map (·.number)).Nodup :=
    fun table mem layout sharded => Validated.nodup_numbers found mem sharded
  have paths := Output.nodup_components_iff numbers
  rw [← listed] at paths
  have named : (∀ table ∈ validated.output.tables, table.Plain) →
      (validated.output.tables.Pairwise (OutputTable.Apart Options.standard) ↔
        validated.output.tables.Pairwise OutputTable.NamedApart) :=
    fun plain => List.Pairwise.iff_of_mem fun memA memB => (plain _ memA).apart_iff (plain _ memB)
  refine ⟨validated, found, paths, named, Iff.rfl, fun noStepUp apart => ?_⟩
  have place : ∀ file ∈ outcome.files, placeFor file.path = Path.components file.path :=
    fun file mem => Output.placeFor_of_mem_files (listed ▸ mem) (noStepUp file mem)
  -- different components lead to different places, so nothing has to agree
  refine (List.pairwise_map.1 (paths.2 apart)).imp_of_mem fun memA memB ne same => absurd ?_ ne
  rw [← place _ memA, ← place _ memB, same]

/-- The goods and the texts keep their files. -/
theorem keeps_files_goods :
    let ctx := RunContext.select Options.standard goodsAndTexts .all false
    let compilation := compile id (FileTree.empty.add "output/stale.txt" "old") ctx
    ∃ outcome, compilation.outcome = .ok outcome ∧ outcome.diagnostics = [] ∧
      ∃ validated, (Run.ofContext ctx).validated = some validated ∧
        validated.output.Apart Options.standard ∧
        ∀ file ∈ outcome.files, compilation.tree.read? file.path = some file.content.text := by
  intro ctx compilation
  obtain ⟨outcome, done, clean, paths⟩ := outcome_goodsAndTexts
  obtain ⟨validated, found, nodup, -, -, back⟩ := keeps_files_iff rfl done clean rfl
  have components : (outcome.files.map (Path.components ·.path)).Nodup := by
    have same : outcome.files.map (Path.components ·.path) =
        (outcome.files.map (·.listed.path)).map Path.components := by
      rw [List.map_map]
      rfl
    rw [same, paths]
    decide
  have noStepUp : ∀ file ∈ outcome.files, ".." ∉ piecesOf file.path := by
    have all : ∀ path ∈ outcome.files.map (·.listed.path), ".." ∉ piecesOf path := by
      rw [paths]
      decide
    exact fun file mem => all _ (List.mem_map_of_mem mem)
  have apart := nodup.1 components
  exact ⟨outcome, done, clean, validated, found, apart, back noStepUp apart⟩

/-- Two tables in one workbook whose names have one Pascal-case form. -/
def fooBars : List Workbook :=
  [⟨"foo.xlsx", "design/foo.xlsx",
    [⟨"foo_bar", Grid.ofTexts
      [["", "", ""], ["#data", "id", "name"], ["", "key,int", "string"], ["", "data", "data"],
       ["", "1", "ant"]]⟩,
     ⟨"FooBar", Grid.ofTexts
      [["", "", ""], ["#data", "id", "name"], ["", "key,int", "string"], ["", "data", "data"],
       ["", "2", "bee"]]⟩]⟩]

set_option maxRecDepth 100000 in
/-- The records of the second table replace those of the first. -/
theorem not_keeps_files_fooBars :
    let ctx := RunContext.select Options.standard fooBars .all false
    let compilation := compile id FileTree.empty ctx
    ∃ outcome, compilation.outcome = .ok outcome ∧ outcome.diagnostics = [] ∧
      ¬ (outcome.files.map (·.path)).Nodup ∧
      ∃ file ∈ outcome.files, compilation.tree.read? file.path ≠ some file.content.text := by
  intro ctx compilation
  have run : (compilation.outcome.toOption.map fun outcome =>
      (outcome.diagnostics.isEmpty, outcome.files.map (·.path), outcome.files.all fun file =>
        decide (compilation.tree.read? file.path = some file.content.text))) =
      some (true, ["output/tables/FooBarTable.json", "output/scripts/FooBarTable.cs",
        "output/tables/FooBarTable.json", "output/scripts/FooBarTable.cs"], false) := by
    decide +kernel
  obtain ⟨outcome, found, same⟩ := Option.map_eq_some_iff.1 run
  obtain ⟨clean, same⟩ := Prod.mk.inj same
  obtain ⟨paths, back⟩ := Prod.mk.inj same
  refine ⟨outcome, ok_of_toOption found, List.isEmpty_iff.1 clean, ?_, ?_⟩
  · rw [paths]
    decide
  · obtain ⟨file, mem, lost⟩ := List.all_eq_false.1 back
    exact ⟨file, mem, fun kept => lost (decide_eq_true kept)⟩

end Compilation

end DesignTables
