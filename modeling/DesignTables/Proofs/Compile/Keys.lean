import DesignTables.Proofs.Compile.Loaded
import DesignTables.Proofs.Compile.Rounds
import DesignTables.Proofs.Merge.Keys
import DesignTables.Proofs.Validation.Uniqueness

/-!
# The keys of the tables that a run writes

Every header that a run gets past names a key that is unique, unless its table is a single record,
and so does every merge table. Validation tells where a unique column repeats a value: in a run that
writes, no two rows of a table share a key.
-/
namespace DesignTables

/-- No two rows share a value of the key, the word `null` apart. -/
def Schema.SeparatesRows (schema : Schema) (rows : List TableRow) : Prop :=
  ∀ slot ∈ schema.key, rows.Pairwise fun a b =>
    a.value slot ≠ "null" → b.value slot ≠ "null" → a.value slot ≠ b.value slot

open Library

namespace RunContext

variable {ctx : RunContext} {target : ValidationTarget}

/-- A table that is validated has a key, unless it is a single record. -/
theorem isSome_key_of_mem_targets (h : ctx.Ingests) (mem : target ∈ ctx.mergedState.targets)
    (keyed : target.schema.options.valueOnly = false) : target.schema.key.isSome := by
  rcases (mem_targets_iff h).1 mem with
    ⟨sheet, first, -, rfl⟩ | ⟨group, outcome, -, merges, rfl⟩
  · obtain ⟨_, _, compiled, clean⟩ := readFrom_of_sheet h (List.mem_append_left _ first)
    exact Header.isSome_key_of_compile? compiled clean keyed
  · rw [mergeOutcome?_secondRound h] at merges
    obtain ⟨shards, same⟩ := CompileState.shardMerge_table outcome.table
    rw [ValidationTarget.schema, same]
    refine MergeOutcome.isSome_key_ofSheets? merges fun sheet inside => ?_
    obtain ⟨known, grouped⟩ := List.mem_filter.1 inside
    obtain ⟨_, _, compiled, clean⟩ := readFrom_of_sheet h known
    have kind : sheet.schema.kind = .merge := by
      by_contra other
      rw [inGroup, IngestedSheet.group?, if_neg other] at grouped
      cases grouped
    have own := Header.isSome_key_of_compile? compiled clean
      (Header.valueOnly_of_compile? compiled (.inl kind))
    exact ⟨Header.nodup_titles_of_compile? compiled clean,
      Header.exists_isKey_of_compile? compiled own⟩

/-- The key of a table that is validated is unique. -/
theorem keyIsUnique_of_mem_targets (h : ctx.Ingests) (mem : target ∈ ctx.mergedState.targets) :
    target.schema.KeyIsUnique := by
  rcases (mem_targets_iff h).1 mem with
    ⟨sheet, first, -, rfl⟩ | ⟨group, outcome, -, merges, rfl⟩
  · obtain ⟨_, _, compiled, -⟩ := readFrom_of_sheet h (List.mem_append_left _ first)
    exact Header.keyIsUnique_of_compile? compiled
  · rw [mergeOutcome?_secondRound h] at merges
    obtain ⟨shards, same⟩ := CompileState.shardMerge_table outcome.table
    rw [ValidationTarget.schema, same]
    refine MergeOutcome.keyIsUnique_ofSheets? merges fun sheet inside => ?_
    obtain ⟨_, _, compiled, -⟩ := readFrom_of_sheet h (List.mem_filter.1 inside).1
    exact (Header.declares_of_compile? compiled).keys

end RunContext

/-- A table that is written and that is no enumeration was validated. -/
theorem Validated.exists_target_of_mem_output {validated : Validated} {table : OutputTable}
    (mem : table ∈ validated.output.tables) (kind : table.schema.kind ≠ .enumeration) :
    ∃ target ∈ validated.state.targets, target.schema = table.schema ∧
      target.rows = table.rows := by
  rcases List.mem_append.1 mem with mem | mem
  · obtain ⟨loaded, known, rfl⟩ := List.mem_map.1 mem
    obtain ⟨inside, own⟩ := List.mem_filter.1 known
    rw [Bool.and_eq_true, Bool.or_eq_true] at own
    obtain ⟨first, data | enumeration⟩ := own
    · refine ⟨.sheet loaded.schema loaded.rows, List.mem_append_left _ (List.mem_map.2
        ⟨loaded, List.mem_filter.2 ⟨inside, ?_⟩, rfl⟩), rfl, rfl⟩
      rw [first, data]
      rfl
    · exact absurd (eq_of_beq enumeration) kind
  · obtain ⟨merge, known, rfl⟩ := List.mem_map.1 mem
    exact ⟨.merged merge, List.mem_append_right _ (List.mem_map_of_mem known), rfl, rfl⟩

namespace Run

variable {ctx : RunContext}

/-- Of every table the cells are reported, in their order and each of them once, that stand in a
unique column and repeat a value of a row above, unless it is the word `null`. The key column of a
header is unique. In a run that writes, the tables other than enumerations have a key, if they are
no single records, and no two rows of them share it. -/
theorem reports_repeats :
    (∀ (target : ValidationTarget) (against : ValidationContext),
      (TableValidation.ofTarget target against).diagnostics.filter
          (·.code == .duplicateUniqueValue) = target.repeats.map target.repetition ∧
        target.repeats.Nodup ∧ target.repeats.Pairwise TargetCell.Before ∧
        ∀ cell : TargetCell, cell ∈ target.repeats ↔
          (target.rows[cell.position]? = some cell.row ∧
            target.schema.column? cell.slot = some cell.column) ∧
          (cell.column.isUnique = true ∧ cell.value ≠ "null") ∧
          ∃ row ∈ target.rows.take cell.position, row.value cell.slot = cell.value) ∧
    (∀ sheet origin mergeGroups schema,
      Header.compile? sheet origin mergeGroups = some schema → schema.KeyIsUnique) ∧
    ∀ ctx : RunContext, (ofContext ctx).stage = .emit →
      ∃ validated, (ofContext ctx).validated = some validated ∧
        ∀ table ∈ validated.output.tables, table.schema.kind ≠ .enumeration →
          (table.schema.options.valueOnly = false → table.schema.key.isSome) ∧
          table.schema.KeyIsUnique ∧ table.schema.SeparatesRows table.rows := by
  refine ⟨fun target against => ⟨TableValidation.filter_duplicates target against,
    target.nodup_cells.sublist target.repeats_sublist,
    target.pairwise_cells.sublist target.repeats_sublist, fun cell => ?_⟩,
    fun _ _ _ _ => Header.keyIsUnique_of_compile?, fun ctx emits => ?_⟩
  · rw [ValidationTarget.mem_repeats_iff, ValidationTarget.mem_cells_iff]
    rfl
  · obtain ⟨reaches, clean⟩ := stage_eq_emit_iff.1 emits
    refine ⟨_, validated_eq_some_iff.2 ⟨reaches, rfl⟩, fun table mem kind => ?_⟩
    obtain ⟨target, validated, schema, rows⟩ := Validated.exists_target_of_mem_output mem kind
    obtain ⟨-, -, targets, -, -⟩ := Validated.ofState_parts ctx.mergedState
    rw [targets] at validated
    have unique := RunContext.keyIsUnique_of_mem_targets reaches.toIngests validated
    rw [← schema, ← rows]
    refine ⟨RunContext.isSome_key_of_mem_targets reaches.toIngests validated, unique, ?_⟩
    intro slot key
    obtain ⟨column, place, -, own⟩ := unique slot key
    have none := (isClean_ofState_iff.1 clean).2 target validated
    refine (TableValidation.pairwise_of_clean none place own).imp fun apart _ filled => ?_
    exact apart filled

/-- Goods with names of their own, and crates from two sheets. -/
def goodsAndCrates : List Workbook :=
  let crateColumns := [("id", "key,int"), ("weight", "int")]
  [tableBook "goods" [("name", "string,unique"), ("maker", "string")]
    [["1", "rope", "x"], ["2", "lamp", "y"], ["3", "nail", "x"]],
   bookOf "crates.xlsx" [sheetOf "crate1" "#merge" "crates,id,0" crateColumns [["1", "7"]],
    sheetOf "crate2" "#merge" "crates,id,0" crateColumns [["2", "7"]]]]

set_option maxRecDepth 100000 in
/-- The goods and the crates are written with their keys. -/
theorem reports_repeats_goods : (ofContext (runOver goodsAndCrates)).stage = .emit ∧
    ∃ validated, (ofContext (runOver goodsAndCrates)).validated = some validated ∧
      validated.output.tables.map (fun table => (table.schema.name, table.rows.length)) =
        [("goods", 3), ("crates", 2)] ∧
      ∀ table ∈ validated.output.tables, table.schema.kind ≠ .enumeration →
        (table.schema.options.valueOnly = false → table.schema.key.isSome) ∧
        table.schema.KeyIsUnique ∧ table.schema.SeparatesRows table.rows := by
  have emits : (ofContext (runOver goodsAndCrates)).stage = .emit := by decide +kernel
  have tables : ∀ validated ∈ (ofContext (runOver goodsAndCrates)).validated,
      validated.output.tables.map (fun table => (table.schema.name, table.rows.length)) =
        [("goods", 3), ("crates", 2)] := by decide +kernel
  obtain ⟨validated, reached, separates⟩ := reports_repeats.2.2 _ emits
  exact ⟨emits, validated, reached, tables validated reached, separates⟩

end Run

end DesignTables
