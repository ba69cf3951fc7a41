import DesignTables.Proofs.Compile.Faithfulness
import DesignTables.Proofs.Compile.Loaded
import DesignTables.Proofs.Validation.EnumCodes
import DesignTables.Proofs.Validation.Writing

/-!
# The texts of enumerations in the files of a clean run

The cells of an enumeration column are written with the codes of their elements joined by commas, by
the one validation that writes under the name of the table. The file shows these codes element by
element where the joined text is cut into them again and none of them looks like a comma's stand-in.
-/
namespace DesignTables

/-- Codes that stand in a file as they are: joined by commas they are read as the same list, which
is not taken for the empty one, and none holds the text that stands for a comma. -/
structure Column.WritesWhole (column : Column) (codes : List String) : Prop where
  list : column.isArray = true → codes ≠ [] →
    Field.isEmptyList (Text.joinWith "," codes) = false ∧
      Text.splitProtected ',' (Text.joinWith "," codes) = codes
  spelled : ∀ code ∈ codes, Field.restoreCommas column code = code

instance (column : Column) (codes : List String) : Decidable (column.WritesWhole codes) :=
  decidable_of_iff ((column.isArray = true → codes ≠ [] →
      Field.isEmptyList (Text.joinWith "," codes) = false ∧
        Text.splitProtected ',' (Text.joinWith "," codes) = codes) ∧
      ∀ code ∈ codes, Field.restoreCommas column code = code)
    ⟨fun ⟨list, spelled⟩ => ⟨list, spelled⟩, fun ⟨list, spelled⟩ => ⟨list, spelled⟩⟩

namespace OutputTable

/-- The cell of a row is written with the codes of its elements: joined by commas, and each as it is
where the codes stand in the file as they are and are not the word that leaves a field out. -/
def WritesCodes (table : OutputTable) (overlay : Overlay) (enums : EnumRegistry) (group : String)
    (row : TableRow) (column : Column) (slot : Nat) : Prop :=
  ∃ codes, (column.elements (row.value slot)).map (enums.code? group) = codes.map some ∧
    table.valueOf overlay row slot = Text.joinWith "," codes ∧
    (Text.eqIgnoringCase (Text.joinWith "," codes) "null" = false → column.WritesWhole codes →
      ∃ cell ∈ table.cells overlay row, cell.slot = slot ∧ cell.texts = codes)

end OutputTable

theorem OutputCell.texts_of_writesWhole {cell : OutputCell} {codes : List String}
    (whole : cell.column.WritesWhole codes) (value : cell.value = Text.joinWith "," codes)
    (one : cell.column.isArray = false → ∃ code, codes = [code]) : cell.texts = codes := by
  have spelled : codes.map (Field.restoreCommas cell.column) = codes := by
    rw [List.map_congr_left whole.spelled, List.map_id']
  rw [texts, value]
  cases list : cell.column.isArray with
  | false =>
    obtain ⟨code, rfl⟩ := one list
    exact spelled
  | true =>
    cases codes with
    | nil => rfl
    | cons code codes =>
      obtain ⟨filled, cut⟩ := whole.list list (List.cons_ne_nil _ _)
      rw [filled, cut]
      exact spelled

namespace Validated

variable {ctx : RunContext} {validated : Validated} {target : ValidationTarget}

/-- In a clean state no table was validated with a problem. -/
theorem diagnostics_resultOf {state : CompileState}
    (clean : (Validated.ofState state).state.isClean = true)
    (mem : target ∈ (Validated.ofState state).state.targets) :
    ((Validated.ofState state).resultOf target).diagnostics = [] :=
  (Run.isClean_ofState_iff.1 clean).2 target mem

/-- A table with a name of its own is written with the codes of its enumerations. -/
theorem writesCodes (h : (Run.ofContext ctx).validated = some validated)
    (clean : validated.state.isClean = true) (mem : target ∈ validated.state.targets)
    (once : validated.NamesOnce target.schema.name) {row : TableRow} (stored : row ∈ target.rows)
    {column : Column} {slot : Nat} (place : (column, slot) ∈ target.schema.exported)
    (plain : column.change = none) (unchecked : column.check = none) {group : String}
    (named : column.groupIn? row = some group) :
    (target.written (validated.changedOf target.schema.name)).WritesCodes validated.overlay
      validated.state.enums group row column slot := by
  obtain ⟨position, stored⟩ := exists_mem_zipIdx stored
  have known : (column, slot) ∈ target.schema.slots := (List.mem_filter.1 place).1
  have here : target.schema.column? slot = some column := Header.column?_of_mem_slots known
  obtain ⟨reaches, same⟩ := Run.validated_eq_some_iff.1 h
  have numbers : (target.rows.map (·.row)).Nodup :=
    RunContext.nodup_numbers reaches.toIngests (mem_loadedTargets h mem)
  have silent : (validated.resultOf target).diagnostics = [] := by
    rw [same] at clean mem ⊢
    exact diagnostics_resultOf clean mem
  have none := TableValidation.diagnostics_ofTarget_eq_nil_iff.1 silent row position stored column
    slot known
  obtain ⟨codes, encodes⟩ := CheckedCell.exists_encodes_of_checkEnum
    (CheckedCell.check_problems_eq_nil_iff.1 none).2.1 named
  have value : (target.written (validated.changedOf target.schema.name)).valueOf validated.overlay
      row slot = Text.joinWith "," codes := by
    rw [OutputTable.valueOf, name_written, get?_overlay h mem once, resultOf,
      TableValidation.get?_ofTarget_of_plain numbers stored here plain, ValidationTarget.outcome,
      CheckedCell.resolved_check unchecked]
    exact encodes.written
  refine ⟨codes, encodes.elements, value, fun filled whole => ?_⟩
  refine ⟨_, OutputTable.mem_cells_iff.2 ⟨(column, slot), ?_, ?_, rfl⟩, rfl, ?_⟩
  · rw [name_written]
    exact place
  · rw [value]
    exact filled
  · exact OutputCell.texts_of_writesWhole whole value encodes.single

end Validated

namespace Run

variable {ctx : RunContext}

/-- In a clean run each record and shard file of a validated table with a name of its own holds the
codes of its enumerations, where nothing else substitutes the column. -/
theorem writes_codes (clean : (ofContext ctx).finalState.diagnostics = []) :
    ∃ validated, (ofContext ctx).validated = some validated ∧
      ∀ file ∈ (ofContext ctx).files ctx, file.role = .records ∨ file.role = .shard →
        ∃ table ∈ validated.output.tables, ∃ rows ∈ table.rowFiles ctx.options,
          (file.path = rows.path ∧ file.content = rows.content table validated.overlay) ∧
          (table.schema.kind ≠ .enumeration → validated.NamesOnce table.schema.name →
            ∀ row ∈ rows.rows, ∀ column slot, (column, slot) ∈ table.schema.exported →
              column.change = none → column.check = none →
              ∀ group, column.groupIn? row = some group →
                table.WritesCodes validated.overlay validated.state.enums group row column slot) := by
  obtain ⟨reaches, -⟩ := stage_eq_emit_iff.1 (stage_of_clean clean)
  obtain ⟨validated, found⟩ : ∃ validated, (ofContext ctx).validated = some validated :=
    ⟨_, validated_eq_some_iff.2 ⟨reaches, rfl⟩⟩
  refine ⟨validated, found, fun file mem records => ?_⟩
  obtain ⟨⟨silent, -⟩, wrote⟩ := (mem_files_iff found).1 mem
  obtain ⟨table, known, own⟩ := Output.mem_dataFiles_of_mem_files wrote records
  obtain ⟨rows, part, same⟩ := OutputTable.exists_rowFile own records
  refine ⟨table, known, rows, part, same, ?_⟩
  intro kind once row stored column slot place plain unchecked group named
  rcases (Validated.mem_tables_output_iff found).1 known with
    ⟨target, inside, rfl⟩ | ⟨loaded, -, -, enumeration, rfl⟩
  · have stored := OutputTable.rows_subset part stored
    rw [Validated.name_written] at once place
    refine Validated.writesCodes found silent inside once ?_ place plain unchecked named
    cases target <;> exact stored
  · exact absurd enumeration kind

open Library

/-- Things whose row names the group of their marks. -/
def marked : RunContext :=
  runOver [colorBook "1", tableBook "thing" [("kind", "string"), ("marks[]", "typeref<kind>")]
    [["1", "none", "NONE"], ["2", "none", ""], ["3", "color", "red,BLUE"]]]

set_option maxRecDepth 100000 in
/-- The marks of the last thing are written with their codes. -/
theorem writes_codes_marked : (ofContext marked).finalState.diagnostics = [] ∧
    ∃ validated, (ofContext marked).validated = some validated ∧
      ∃ file ∈ (ofContext marked).files marked, file.path = "output/tables/ThingTable.json" ∧
        ∃ table ∈ validated.output.tables, ∃ rows ∈ table.rowFiles marked.options,
          file.content = rows.content table validated.overlay ∧
          ∃ row ∈ rows.rows, ∃ given ∈ table.schema.exported, row.value given.2 = "red,BLUE" ∧
            ∃ cell ∈ table.cells validated.overlay row, cell.slot = given.2 ∧
              cell.texts = ["1", "2"] := by
  have clean : (ofContext marked).finalState.diagnostics = [] := by decide +kernel
  have wrote : ∃ file ∈ (ofContext marked).files marked, file.role = .records ∧
      file.path = "output/tables/ThingTable.json" := by decide +kernel
  have things : ∀ validated ∈ (ofContext marked).validated, ∀ table ∈ validated.output.tables,
      ∀ rows ∈ table.rowFiles marked.options, rows.path = "output/tables/ThingTable.json" →
        (table.schema.kind ≠ .enumeration ∧ validated.NamesOnce table.schema.name) ∧
        ∃ row ∈ rows.rows, ∃ given ∈ table.schema.exported, row.value given.2 = "red,BLUE" ∧
          (given.1.change = none ∧ given.1.check = none) ∧
          given.1.groupIn? row = some "COLOR" ∧
          (given.1.elements (row.value given.2)).map (validated.state.enums.code? "COLOR") =
            ["1", "2"].map some ∧
          given.1.WritesWhole ["1", "2"] := by
    decide +kernel
  obtain ⟨validated, found, files⟩ := writes_codes clean
  obtain ⟨file, mem, records, path⟩ := wrote
  obtain ⟨table, known, rows, part, ⟨place, same⟩, codes⟩ := files file mem (.inl records)
  obtain ⟨⟨kind, once⟩, row, stored, ⟨column, slot⟩, exported, value, ⟨plain, unchecked⟩, named,
    elements, whole⟩ := things validated found table known rows part (place ▸ path)
  obtain ⟨own, encodes, -, cells⟩ :=
    codes kind once row stored column slot exported plain unchecked "COLOR" named
  obtain rfl : own = ["1", "2"] :=
    List.map_injective_iff.2 (fun _ _ => Option.some.inj) (encodes.symm.trans elements)
  exact ⟨clean, validated, found, file, mem, path, table, known, rows, part, same, row, stored,
    (column, slot), exported, value, cells (by decide) whole⟩

/-- What is written of some rows in enumeration columns without a `change` directive are the codes of
their elements. -/
def HoldsCodes (table : OutputTable) (overlay : Overlay) (enums : EnumRegistry)
    (rows : List TableRow) : Prop :=
  ∀ row ∈ rows, ∀ given ∈ table.schema.exported, given.1.change = none →
    ∀ group ∈ given.1.groupIn? row, ∀ cell ∈ table.cells overlay row, cell.slot = given.2 →
      (given.1.elements (row.value given.2)).map (enums.code? group) = cell.texts.map some

instance (table : OutputTable) (overlay : Overlay) (enums : EnumRegistry)
    (rows : List TableRow) : Decidable (HoldsCodes table overlay enums rows) := by
  unfold HoldsCodes
  infer_instance

/-- In a clean run each record and shard file holds the codes of its enumerations. -/
def WritesCodesOnly (ctx : RunContext) : Prop :=
  (ofContext ctx).finalState.diagnostics = [] → ∀ validated ∈ (ofContext ctx).validated,
    ∀ file ∈ (ofContext ctx).files ctx, file.role = .records ∨ file.role = .shard →
      ∃ table ∈ validated.output.tables, ∃ rows ∈ table.rowFiles ctx.options,
        (file.path = rows.path ∧ file.content = rows.content table validated.overlay) ∧
          HoldsCodes table validated.overlay validated.state.enums rows.rows

instance (ctx : RunContext) : Decidable (WritesCodesOnly ctx) := by
  unfold WritesCodesOnly
  infer_instance

/-- The run over the colors and a thing with a column of them. -/
def painted (red title directives value : String) : RunContext :=
  runOver [colorBook red, tableBook "thing" [(title, directives)] [["1", value]]]

set_option maxRecDepth 100000 in
/-- The files do not hold the codes of an enumeration table, of a column that is checked against
another one or takes its commas from a code, of codes with a comma, with a bracket or that are a pair
of quotes, and of a table that shares its name with another validated one. -/
theorem not_writesCodesOnly :
    ¬ WritesCodesOnly (runOver
      [bookOf "types.xlsx" [sheetOf "types" "#type" "" (codeColumns ++ [("shade", "type<color>")])
        [["1", "color", "red", "1", "x", "red"]]]]) ∧
    ¬ WritesCodesOnly (runOver [colorBook "1",
      tableBook "thing" [("color", "type<color>,check<paint/name>")] [["1", "red"]],
      bookOf "paint.xlsx" [sheetOf "paint" "#data" "" [("name", "key,string")] [["red"]]]]) ∧
    ¬ WritesCodesOnly (painted "1" "color" "type<color>,replacecomma<1>" "red") ∧
    ¬ WritesCodesOnly (painted "1,2" "colors[]" "type<color>" "red") ∧
    ¬ WritesCodesOnly (painted "<" "colors[]" "type<color>" "red,blue") ∧
    ¬ WritesCodesOnly (painted "\"\"" "colors[]" "type<color>" "red") ∧
    ¬ WritesCodesOnly (runOver [colorBook "1", tableBook "stage" [("color", "type<color>")]
        [["1", "red"]],
      bookOf "parts.xlsx" [sheetOf "parts" "#merge" "stage,id,0"
        [("id", "key,int"), ("color", "type<color>")]
        [["1", "blue"], ["2", "blue"], ["3", "blue"], ["4", "blue"]]]]) := by
  refine ⟨?_, ?_, ?_, ?_, ?_, ?_, ?_⟩ <;> decide +kernel

end Run

end DesignTables
