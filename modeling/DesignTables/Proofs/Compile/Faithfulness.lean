import DesignTables.Proofs.Catalog.Library
import DesignTables.Proofs.Compile.Integrity
import DesignTables.Proofs.Compile.TableNames
import DesignTables.Proofs.Output.Settled
import DesignTables.Proofs.Output.Faithful
import DesignTables.Proofs.Output.Values

/-!
Which files of a clean run are JSON texts of what was ingested.
-/
namespace DesignTables

open Json

namespace OutputTable

variable {table : OutputTable} {overlay : Overlay} {options : Options}

theorem rows_subset {file : RowFile} (mem : file ∈ table.rowFiles options) : file.rows ⊆ table.rows := by
  unfold rowFiles at mem
  split at mem
  · next layout _ =>
    obtain ⟨shard, _, rfl⟩ := List.mem_map.1 mem
    intro row known
    obtain ⟨position, _, found⟩ := List.mem_filterMap.1 known
    exact List.mem_of_getElem? found
  · split at mem
    · obtain rfl := List.mem_singleton.1 mem
      exact List.Subset.refl _
    · obtain rfl := List.mem_singleton.1 mem
      change table.keyedRows ⊆ table.rows
      unfold keyedRows
      split
      · exact List.filter_sublist.subset
      · exact List.Subset.refl _

/-- The record and shard files of a table hold the contents of its files of rows. -/
theorem exists_rowFile {file : OutputFile} (mem : file ∈ Output.dataFiles options overlay table)
    (records : file.role = .records ∨ file.role = .shard) :
    ∃ rows ∈ table.rowFiles options,
      file.path = rows.path ∧ file.content = rows.content table overlay := by
  unfold Output.dataFiles at mem
  unfold rowFiles
  cases shards : table.shards with
  | some layout =>
    rw [shards] at mem
    rcases List.mem_append.1 mem with mem | mem
    · obtain ⟨⟨name, content⟩, known, rfl⟩ := List.mem_map.1 mem
      obtain ⟨shard, inside, same⟩ := List.mem_map.1 known
      obtain ⟨rfl, rfl⟩ := Prod.mk.inj same
      exact ⟨_, List.mem_map_of_mem inside, rfl, rfl⟩
    · obtain rfl := List.mem_singleton.1 mem
      rcases records with role | role <;> cases role
  | none =>
    rw [shards] at mem
    obtain rfl := List.mem_singleton.1 mem
    dsimp only
    rw [renderTable]
    split
    · exact ⟨_, List.mem_singleton_self _, rfl, rfl⟩
    · exact ⟨_, List.mem_singleton_self _, rfl, rfl⟩

end OutputTable

theorem RunContext.kind_of_mem_merges {ctx : RunContext} (h : ctx.Ingests) {table : MergeTable}
    (mem : table ∈ ctx.mergedState.merges) : table.schema.kind = .merge := by
  rw [merges_mergedState h, List.mem_map] at mem
  obtain ⟨outcome, mem, same⟩ := mem
  obtain ⟨group, _, found⟩ := List.mem_filterMap.1 mem
  obtain ⟨-, schema⟩ := CompileState.name_of_mem_mergeOutcomes mem
  rw [← same, schema]
  exact (MergeOutcome.ofSheets?_eq_some found).2.kind

/-- The rows of a table that is loaded without a problem were read without one. -/
theorem RunContext.readsClean_of_mem_tables {ctx : RunContext} (h : ctx.Ingests)
    {loaded : LoadedTable} (mem : loaded ∈ ctx.mergedState.tables) :
    loaded.schema.ReadsClean loaded.rows := by
  have readsClean : ∀ sheet ∈ ctx.sheets, sheet.schema.ReadsClean sheet.rows := by
    intro sheet known
    obtain ⟨given, origin, ingested⟩ := mem_sheets known
    refine IngestedSheet.readsClean_ofSheet? ingested ?_
    exact (List.mem_append.1 known).elim (h.first.isClean sheet) (h.second.isClean sheet)
  rw [tables_mergedState h] at mem
  rcases List.mem_append.1 mem with mem | mem
  · obtain ⟨sheet, inside, rfl⟩ := List.mem_map.1 mem
    exact readsClean sheet (List.mem_append_left _ (List.mem_filter.1 inside).1)
  · obtain ⟨sheet, inside, rfl⟩ := List.mem_map.1 mem
    exact readsClean sheet (List.mem_append_right _ (List.mem_filter.1 inside).1)

namespace Run

variable {ctx : RunContext} {validated : Validated}

/-- The rows of a written sheet were read without a problem. -/
theorem readsClean_of_mem_output (h : (ofContext ctx).validated = some validated)
    {table : OutputTable} (mem : table ∈ validated.output.tables)
    (sheet : table.schema.kind ≠ .merge) : table.schema.ReadsClean table.rows := by
  obtain ⟨reaches, same⟩ := validated_eq_some_iff.1 h
  obtain ⟨tables, merges, -, -, -⟩ := Validated.ofState_parts ctx.mergedState
  rw [← same] at tables merges
  rcases (Validated.mem_tables_output_iff h).1 mem with
    ⟨target, known, rfl⟩ | ⟨loaded, known, -, -, rfl⟩
  · rcases List.mem_append.1 known with known | known
    · obtain ⟨loaded, inside, rfl⟩ := List.mem_map.1 known
      have found := (List.mem_filter.1 inside).1
      rw [tables] at found
      exact RunContext.readsClean_of_mem_tables reaches.toIngests found
    · obtain ⟨merge, inside, rfl⟩ := List.mem_map.1 known
      have found := (List.mem_filter.1 inside).1
      rw [merges] at found
      exact absurd (RunContext.kind_of_mem_merges reaches.toIngests found) sheet
  · rw [tables] at known
    exact RunContext.readsClean_of_mem_tables reaches.toIngests known

/-- In a clean run each record and shard file is faithful to its rows exactly when what ingestion
does not settle is sound, and each file of strings exactly when its texts need no escape. -/
theorem faithful_files_iff (clean : (ofContext ctx).finalState.diagnostics = []) :
    ∃ validated, (ofContext ctx).validated = some validated ∧
      (∀ file ∈ (ofContext ctx).files ctx, file.role = .records ∨ file.role = .shard →
        ∃ table ∈ validated.output.tables, ∃ rows ∈ table.rowFiles ctx.options,
          (file.path = rows.path ∧ file.content = rows.content table validated.overlay) ∧
          (rows.Faithful table validated.overlay ↔ rows.Careful table validated.overlay)) ∧
      ∀ file ∈ (ofContext ctx).files ctx, file.role = .localization →
        ∃ language ∈ validated.state.localization.languages,
          file.content = validated.state.localization.render language ∧
          ((validated.state.localization.document language).IsReadFrom file.content.text ↔
            ∀ entry ∈ validated.state.localization.strings,
              ∀ titled ∈ LocalizationRegistry.titledTexts language entry,
                titled.2.toList.all isPlain = true) := by
  obtain ⟨reaches, -⟩ := stage_eq_emit_iff.1 (stage_of_clean clean)
  obtain ⟨validated, found⟩ : ∃ validated, (ofContext ctx).validated = some validated :=
    ⟨_, validated_eq_some_iff.2 ⟨reaches, rfl⟩⟩
  refine ⟨validated, found, fun file mem records => ?_, fun file mem strings => ?_⟩
  · have written := ((mem_files_iff found).1 mem).2
    obtain ⟨table, known, own⟩ := Output.mem_dataFiles_of_mem_files written records
    obtain ⟨rows, part, same⟩ := OutputTable.exists_rowFile own records
    exact ⟨table, known, rows, part, same,
      RowFile.faithful_iff_careful (readsClean_of_mem_output found known)
        (OutputTable.rows_subset part)⟩
  · have written := ((mem_files_iff found).1 mem).2
    obtain ⟨language, known, same⟩ := Output.exists_language written strings
    refine ⟨language, known, same, ?_⟩
    rw [same]
    exact LocalizationRegistry.isReadFrom_render_iff

/-- Nothing is escaped between the quotes. -/
example : ValueStyle.quoted.render "a\\q" = "\"a\\q\"" := by decide +kernel

open Library

/-- Goods with a list of tags, and localized strings. -/
def goods : RunContext :=
  let columns := [("id", "key,int"), ("name", "string"), ("tags[]", "string"), ("closed", "bool")]
  let rows := [["1", "rope", "thin,long", "TRUE"], ["2", "oil", "", "false"]]
  RunContext.select Options.standard
    [bookOf "goods.xlsx" [sheetOf "goods" "#data" "" columns rows],
      bookOf "texts.xlsx" [sheetOf "texts" "#localtext" "" [("key", "key,string"), ("en", "string")]
        [["hello", "Hello"]]]] .all false

set_option maxRecDepth 100000 in
theorem faithful_goods : (ofContext goods).finalState.diagnostics = [] ∧
    ((ofContext goods).files goods).map (·.role) =
      [.records, .schemaCode, .localization] ∧
    ∃ validated, (ofContext goods).validated = some validated ∧
      (∀ file ∈ (ofContext goods).files goods, file.role = .records ∨ file.role = .shard →
        ∃ table ∈ validated.output.tables, ∃ rows ∈ table.rowFiles goods.options,
          file.content = rows.content table validated.overlay ∧
            rows.Faithful table validated.overlay) ∧
      ∀ file ∈ (ofContext goods).files goods, file.role = .localization →
        ∃ language ∈ validated.state.localization.languages,
          (validated.state.localization.document language).IsReadFrom file.content.text := by
  have clean : (ofContext goods).finalState.diagnostics = [] := by decide +kernel
  have sound : ∀ validated ∈ (ofContext goods).validated, ∀ table ∈ validated.output.tables,
      ∀ rows ∈ table.rowFiles goods.options, rows.IsSound table validated.overlay := by
    decide +kernel
  have plain : ∀ validated ∈ (ofContext goods).validated,
      ∀ language ∈ validated.state.localization.languages,
      ∀ entry ∈ validated.state.localization.strings,
      ∀ titled ∈ LocalizationRegistry.titledTexts language entry,
        titled.2.toList.all isPlain = true := by
    decide +kernel
  obtain ⟨validated, found, records, strings⟩ := faithful_files_iff clean
  refine ⟨clean, by decide +kernel, validated, found, fun file mem role => ?_,
    fun file mem role => ?_⟩
  · obtain ⟨table, known, rows, part, ⟨-, same⟩, faithful⟩ := records file mem role
    exact ⟨table, known, rows, part, same,
      faithful.2 (sound validated found table known rows part).careful⟩
  · obtain ⟨language, known, -, read⟩ := strings file mem role
    exact ⟨language, known, read.2 (plain validated found language known)⟩

/-- A setting without its row of values. -/
def setting : RunContext :=
  RunContext.select Options.standard
    [bookOf "setting.xlsx" [sheetOf "setting" "#data" "valueonly" [("motto", "string")] []]]
    .all false

/-- A text with a backslash. -/
def paths : RunContext :=
  RunContext.select Options.standard
    [bookOf "paths.xlsx" [sheetOf "paths" "#data" "" [("id", "key,int"), ("folder", "string")]
      [["1", "a\\q"]]]] .all false

set_option maxRecDepth 100000 in
/-- Clean runs with a file of records that is no JSON text: nothing at all is written for the
setting, and the backslash is not escaped. -/
theorem not_isReadFrom_records :
    ((ofContext setting).finalState.diagnostics = [] ∧
      ∃ file ∈ (ofContext setting).files setting, (file.role = .records ∨ file.role = .shard) ∧
        ∀ document : Json, ¬ document.IsReadFrom file.content.text) ∧
    (ofContext paths).finalState.diagnostics = [] ∧
      ∃ file ∈ (ofContext paths).files paths, (file.role = .records ∨ file.role = .shard) ∧
        ∀ document : Json, ¬ document.IsReadFrom file.content.text := by
  have empty : ⟨"", 0⟩ ∈ recordsAt setting "output/tables/SettingTable.json" := by decide +kernel
  have raw : ⟨"[\n\t\x7b\n\t\t\"id\": 1,\n\t\t\"folder\": \"a\\q\"\n\t\x7d\n]", 1⟩ ∈
      recordsAt paths "output/tables/PathsTable.json" := by decide +kernel
  obtain ⟨file, wrote, -, records, content⟩ := mem_recordsAt_iff.1 empty
  obtain ⟨file', wrote', -, records', content'⟩ := mem_recordsAt_iff.1 raw
  refine ⟨⟨by decide +kernel, file, wrote, records, fun document read => ?_⟩,
    by decide +kernel, file', wrote', records', fun document read => ?_⟩
  · rw [content] at read
    exact read.ne_empty rfl
  · rw [content'] at read
    exact absurd read.escapesWell (by decide)

end Run

end DesignTables
