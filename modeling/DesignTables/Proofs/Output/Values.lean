import DesignTables.Output.Files
import Mathlib.Logic.Basic

/-!
The record and shard files of a table hold the values of its own cells and nothing else of an
overlay.
-/
namespace DesignTables

namespace OutputTable

variable {table : OutputTable} {a b : Overlay}

theorem records_congr (same : ∀ row slot, table.valueOf a row slot = table.valueOf b row slot) :
    table.records a = table.records b := by
  funext rows
  have fields : table.fields a = table.fields b := by
    funext row
    rw [fields, fields]
    simp only [same]
  rw [records, records, fields]

theorem renderRows_congr (same : ∀ row slot, table.valueOf a row slot = table.valueOf b row slot) :
    table.renderRows a = table.renderRows b := by
  funext rows
  rw [renderRows, renderRows, records_congr same]

theorem renderTable_congr (same : ∀ row slot, table.valueOf a row slot = table.valueOf b row slot) :
    table.renderTable a = table.renderTable b := by
  rw [renderTable, renderTable, renderSingle, renderSingle, records_congr same,
    renderRows_congr same]

end OutputTable

namespace Output

/-- Overlays that agree on the cells of a table give the same record and shard files. -/
theorem dataFiles_congr {table : OutputTable} {a b : Overlay}
    (same : ∀ row slot, table.valueOf a row slot = table.valueOf b row slot) (options : Options) :
    dataFiles options a table = dataFiles options b table := by
  rw [dataFiles, dataFiles]
  cases table.shards with
  | none => rw [OutputTable.renderTable_congr same]
  | some layout =>
    simp only [ShardLayout.renderShards, OutputTable.renderRows_congr same]

variable {output : Output} {options : Options} {overlay : Overlay} {table : OutputTable}
  {file : OutputFile}

theorem role_of_mem_dataFiles (mem : file ∈ dataFiles options overlay table) :
    file.role = .records ∨ file.role = .shard ∨ file.role = .shardIndex := by
  unfold dataFiles at mem
  cases shards : table.shards with
  | some layout =>
    rw [shards] at mem
    rcases List.mem_append.1 mem with mem | mem
    · obtain ⟨_, _, rfl⟩ := List.mem_map.1 mem
      exact .inr (.inl rfl)
    · obtain rfl := List.mem_singleton.1 mem
      exact .inr (.inr rfl)
  | none =>
    rw [shards] at mem
    obtain rfl := List.mem_singleton.1 mem
    exact .inl rfl

theorem role_of_mem_codeFiles (mem : file ∈ codeFiles options table) :
    file.role = .schemaCode := by
  rw [codeFiles] at mem
  split at mem
  · obtain rfl := List.mem_singleton.1 mem
    rfl
  · exact absurd mem List.not_mem_nil

theorem role_of_mem_enumFiles {enums : EnumRegistry} (mem : file ∈ enumFiles options enums) :
    file.role = .enumCode := by
  rw [enumFiles] at mem
  split at mem
  · obtain rfl := List.mem_singleton.1 mem
    rfl
  · exact absurd mem List.not_mem_nil

/-- A file belongs to a table, to the enumerations or to a language. -/
theorem mem_files_cases (mem : file ∈ output.files options) :
    (∃ table ∈ output.tables, file ∈ dataFiles options output.overlay table) ∨
      file.role = .schemaCode ∨ file.role = .enumCode ∨
      file ∈ stringFiles options output.localization := by
  rw [files, List.mem_append, List.mem_append, List.mem_flatMap] at mem
  rcases mem with (⟨table, known, mem⟩ | mem) | mem
  · rcases List.mem_append.1 mem with mem | mem
    · exact .inl ⟨table, known, mem⟩
    · exact .inr (.inl (role_of_mem_codeFiles mem))
  · exact .inr (.inr (.inl (role_of_mem_enumFiles mem)))
  · exact .inr (.inr (.inr mem))

/-- The files of strings are those of the languages. -/
theorem filter_localization_files :
    (output.files options).filter (·.role == .localization) =
      stringFiles options output.localization := by
  have tables : ∀ file ∈ output.tables.flatMap fun table =>
      dataFiles options output.overlay table ++ codeFiles options table,
        ¬ (file.role == .localization) = true := by
    intro file mem
    obtain ⟨table, -, mem⟩ := List.mem_flatMap.1 mem
    rcases List.mem_append.1 mem with mem | mem
    · rcases role_of_mem_dataFiles mem with role | role | role <;> rw [role] <;> decide
    · rw [role_of_mem_codeFiles mem]
      decide
  have enums : ∀ file ∈ enumFiles options output.enums, ¬ (file.role == .localization) = true := by
    intro file mem
    rw [role_of_mem_enumFiles mem]
    decide
  have strings : ∀ file ∈ stringFiles options output.localization,
      (file.role == .localization) = true := by
    intro file mem
    obtain ⟨language, -, rfl⟩ := List.mem_map.1 mem
    rfl
  rw [files, List.filter_append, List.filter_append, List.filter_eq_nil_iff.2 tables,
    List.filter_eq_nil_iff.2 enums, List.filter_eq_self.2 strings]
  rfl

/-- Record and shard files are written for tables only. -/
theorem mem_dataFiles_of_mem_files (mem : file ∈ output.files options)
    (records : file.role = .records ∨ file.role = .shard) :
    ∃ table ∈ output.tables, file ∈ dataFiles options output.overlay table := by
  rcases mem_files_cases mem with found | code | enums | strings
  · exact found
  · rcases records with role | role <;> rw [role] at code <;> cases code
  · rcases records with role | role <;> rw [role] at enums <;> cases enums
  · obtain ⟨language, _, rfl⟩ := List.mem_map.1 strings
    rcases records with role | role <;> cases role

/-- Files of strings are written for languages only. -/
theorem exists_language (mem : file ∈ output.files options) (strings : file.role = .localization) :
    ∃ language ∈ output.localization.languages,
      file.content = output.localization.render language := by
  rcases mem_files_cases mem with ⟨table, _, own⟩ | code | enums | found
  · rcases role_of_mem_dataFiles own with role | role | role <;> rw [role] at strings <;>
      cases strings
  · rw [strings] at code
    cases code
  · rw [strings] at enums
    cases enums
  · obtain ⟨language, known, rfl⟩ := List.mem_map.1 found
    exact ⟨language, known, rfl⟩

end Output

end DesignTables
