import DesignTables.Proofs.Merge.References

/-!
# The rows of a merge table and the sheets that they come from

The row at a position of the table is the row at that position of the group, where the sheets stand
one after the other. Cells, sources and element counts keep to this position and to the slot, so a
problem is always reported where its value was written.
-/
namespace DesignTables

namespace Merge

/-- A row of a group: the position of its sheet, the sheet, and the row. -/
structure GroupRow where
  source : Nat
  sheet : IngestedSheet
  row : TableRow

/-- The rows of a group, in the order of the sheets and then of their rows. -/
def groupRows (sheets : List IngestedSheet) : List GroupRow :=
  sheets.zipIdx.flatMap fun (sheet, source) => sheet.rows.map fun row => ⟨source, sheet, row⟩

/-- What is made of each row alone does not depend on the positions of the sheets. -/
theorem map_groupRows {α : Type} (f : IngestedSheet → TableRow → α) (sheets : List IngestedSheet) :
    (groupRows sheets).map (fun one => f one.sheet one.row) =
      sheets.flatMap fun sheet => sheet.rows.map (f sheet) := by
  have first : sheets = sheets.zipIdx.map Prod.fst := by rw [List.zipIdx_map_fst]
  conv_rhs => rw [first]
  rw [groupRows, List.map_flatMap, List.flatMap_map]
  simp only [List.map_map]
  rfl

theorem sheet_mem_of_groupRows {sheets : List IngestedSheet} {position : Nat} {one : GroupRow}
    (here : (groupRows sheets)[position]? = some one) : one.sheet ∈ sheets := by
  obtain ⟨⟨sheet, source⟩, mem, made⟩ := List.mem_flatMap.1 (List.mem_of_getElem? here)
  obtain ⟨row, -, rfl⟩ := List.mem_map.1 made
  exact List.mem_of_getElem? (List.mk_mem_zipIdx_iff_getElem?.1 mem)

/-- The row of the group that goes into the table. -/
def SourceRow.given (one : SourceRow) : GroupRow := ⟨one.source, one.sheet, one.row⟩

theorem map_given_sourceRows {sheets : List IngestedSheet} {mappings : List (List Nat)}
    (length : sheets.length = mappings.length) :
    (sourceRows sheets mappings).map SourceRow.given = groupRows sheets := by
  have pairs : sheets.zipIdx = (sheets.zip mappings).zipIdx.map (Prod.map Prod.fst id) := by
    rw [← List.zipIdx_map, List.map_fst_zip (Nat.le_of_eq length)]
  rw [groupRows, pairs, List.flatMap_map, sourceRows, List.map_flatMap]
  simp only [List.map_map]
  rfl

theorem groupRows_getElem?_iff {sheets : List IngestedSheet} {mappings : List (List Nat)}
    (length : sheets.length = mappings.length) {position : Nat} {one : GroupRow} :
    (groupRows sheets)[position]? = some one ↔
      ∃ taken, (sourceRows sheets mappings)[position]? = some taken ∧
        SourceRow.given taken = one := by
  rw [← map_given_sourceRows length, List.getElem?_map, Option.map_eq_some_iff]

/-- The slot of a merged column is taken from the sheet's own column of that title. -/
theorem SourceRow.slotFor?_of_own {one : SourceRow} {sheets : List IngestedSheet} {schema : Schema}
    (h : one.IsFrom sheets schema) (merged : schema.titles.Nodup)
    (nodup : one.sheet.schema.titles.Nodup) {m s : Nat} {column given : Column}
    (place : schema.column? m = some column) (own : one.sheet.schema.column? s = some given)
    (title : given.title = column.title) : one.slotFor? m = some s := by
  rw [slotFor?_eq h merged place]
  exact (Schema.slotOf?_eq_some_iff nodup own).2 title.symm

/-- A title that the sheet lacks is taken from nowhere. -/
theorem SourceRow.slotFor?_of_lacking {one : SourceRow} {sheets : List IngestedSheet}
    {schema : Schema} (h : one.IsFrom sheets schema) (merged : schema.titles.Nodup) {m : Nat}
    {column : Column} (place : schema.column? m = some column)
    (lacking : ∀ given ∈ one.sheet.schema.columns, given.title ≠ column.title) :
    one.slotFor? m = none := by
  rw [slotFor?_eq h merged place, Schema.slotOf?, List.findIdx?_eq_none_iff]
  exact fun given mem => beq_false_of_ne (lacking given mem)

end Merge

namespace MergeOutcome

variable {group : String} {sheets : List IngestedSheet} {referenceOnly : Bool}
  {outcome : MergeOutcome}

/-- A row of a merge table with the sources of its cells, as a row of the group gives them. -/
structure TakesRow (outcome : MergeOutcome) (group : String) (position : Nat)
    (one : Merge.GroupRow) (row : TableRow) (cells : List CellProvenance) : Prop where
  number : row.row = position + 1
  values : row.cells = cells.map (·.value)
  width : cells.length = outcome.table.schema.columns.length
  /-- A column of the sheet gives its value, its place and its element count. -/
  taken : ∀ m column, outcome.table.schema.column? m = some column →
    ∀ s given, one.sheet.schema.column? s = some given → given.title = column.title →
      cells[m]? = some ⟨one.source, one.row.row, some given.gridColumn, one.row.value s⟩ ∧
      outcome.sizes.get? group m (position + 1) =
        one.sheet.sizes.get? one.sheet.name s one.row.row
  /-- A column that the sheet lacks takes the default of its type, from no grid column. -/
  lacking : ∀ m column, outcome.table.schema.column? m = some column →
    (∀ given ∈ one.sheet.schema.columns, given.title ≠ column.title) →
      cells[m]? = some ⟨one.source, one.row.row, none,
        (column.dataType.map DataType.mergeDefault).getD ""⟩ ∧
      outcome.sizes.get? group m (position + 1) = none

/-- The table is made of the rows of the group, and tells of every cell where it comes from. -/
structure Traces (outcome : MergeOutcome) (group : String) (sheets : List IngestedSheet) :
    Prop where
  sources : outcome.table.sources = sheets.map (·.schema.origin)
  countRows : outcome.table.rows.length = (Merge.groupRows sheets).length
  countProvenance : outcome.table.provenance.length = (Merge.groupRows sheets).length
  rows : ∀ position one, (Merge.groupRows sheets)[position]? = some one →
    ∃ row cells, outcome.table.rows[position]? = some row ∧
      outcome.table.provenance[position]? = some cells ∧
      outcome.TakesRow group position one row cells
  /-- A problem is found at some cell of the table, and reported at the cell of the sheet that gave
  the value. -/
  located : ∀ ctx, ∀ d ∈ (TableValidation.ofTarget (.merged outcome.table) ctx).diagnostics,
    ∃ position one row m column, (Merge.groupRows sheets)[position]? = some one ∧
      outcome.table.rows[position]? = some row ∧
      outcome.table.schema.column? m = some column ∧
      d ∈ (ValidationTarget.merged outcome.table).cellDiagnostics ctx column m row position ∧
      ∀ s given, one.sheet.schema.column? s = some given → given.title = column.title →
        d.columnLabel = given.title ∧
        d.place = (one.sheet.schema.origin.directory, one.sheet.schema.origin.file,
          one.sheet.schema.origin.sheet, one.row.row + 1, given.gridColumn + 1)

namespace Composed

variable {given : List Merge.SourceRow} (h : outcome.Composed group sheets given)
include h

theorem takesRow (merged : outcome.table.schema.titles.Nodup)
    (shares : ∀ sheet ∈ sheets, sheet.ShareOf group) {position : Nat} {one : Merge.SourceRow}
    (here : given[position]? = some one) :
    outcome.TakesRow group position one.given (one.merged outcome.table.schema position)
      (one.cells outcome.table.schema) := by
  have isFrom := h.isFrom one (List.mem_of_getElem? here)
  have nodup := (shares one.sheet (List.mem_of_getElem? isFrom.sheet)).titles_nodup
  refine ⟨rfl, rfl, ?_, fun m column place s own owned title => ?_,
    fun m column place lacking => ?_⟩
  · rw [Merge.SourceRow.cells, List.length_map, Schema.slots, List.length_zipIdx]
  · have found := Merge.SourceRow.slotFor?_of_own isFrom merged nodup place owned title
    refine ⟨?_, ?_⟩
    · rw [Merge.SourceRow.cells_getElem? place,
        Merge.SourceRow.cell_of_slotFor? column found owned]
      rfl
    · rw [h.size_eq here (Schema.lt_of_column? place), Merge.SourceRow.size?, found]
      rfl
  · have absent := Merge.SourceRow.slotFor?_of_lacking isFrom merged place lacking
    refine ⟨?_, ?_⟩
    · rw [Merge.SourceRow.cells_getElem? place, Merge.SourceRow.cell, absent]
      rfl
    · rw [h.size_eq here (Schema.lt_of_column? place), Merge.SourceRow.size?, absent]
      rfl

/-- A problem of a cell that a sheet gave is reported at the sheet's own cell. -/
theorem place_of_mem_cellDiagnostics (merged : outcome.table.schema.titles.Nodup)
    (shares : ∀ sheet ∈ sheets, sheet.ShareOf group) {position m s : Nat} {one : Merge.SourceRow}
    (here : given[position]? = some one) {column own : Column}
    (place : outcome.table.schema.column? m = some column)
    (owned : one.sheet.schema.column? s = some own) (title : own.title = column.title)
    {ctx : ValidationContext} {row : TableRow} {d : Diagnostic}
    (found : d ∈ (ValidationTarget.merged outcome.table).cellDiagnostics ctx column m row
      position) :
    d.columnLabel = own.title ∧
      d.place = (one.sheet.schema.origin.directory, one.sheet.schema.origin.file,
        one.sheet.schema.origin.sheet, one.row.row + 1, own.gridColumn + 1) := by
  have isFrom := h.isFrom one (List.mem_of_getElem? here)
  have nodup := (shares one.sheet (List.mem_of_getElem? isFrom.sheet)).titles_nodup
  have slot := Merge.SourceRow.slotFor?_of_own isFrom merged nodup place owned title
  have provenance := h.provenanceAt?_eq here place
  rw [Merge.SourceRow.cell_of_slotFor? column slot owned] at provenance
  obtain ⟨problem, -, rfl⟩ := (mem_cellDiagnostics_merged_iff provenance).1 found
  exact ⟨title.symm, rfl⟩

end Composed

/-- The merge table of a group of clean sheets exists, and every cell of it is traced. -/
theorem exists_traces (shares : ∀ sheet ∈ sheets, sheet.ShareOf group) (nonempty : sheets ≠ [])
    (referenceOnly : Bool) :
    ∃ outcome, ofSheets? group sheets referenceOnly = some outcome ∧
      outcome.Traces group sheets := by
  obtain ⟨outcome, merges⟩ : ∃ outcome, ofSheets? group sheets referenceOnly = some outcome := by
    obtain ⟨first, rest, rfl⟩ := List.exists_cons_of_ne_nil nonempty
    obtain ⟨header, tuple, -⟩ := Option.map_eq_some_iff.1 (shares first List.mem_cons_self).group
    obtain ⟨outcome, merges, -⟩ := exists_ofSheets? (List.head?_cons (l := rest)) tuple group
      referenceOnly
    exact ⟨outcome, merges⟩
  have merged : outcome.table.schema.titles.Nodup := (unifies_ofSheets? merges).1.titles
  obtain ⟨mappings, length, composed⟩ := composed_sourceRows merges
  have count := congrArg List.length (Merge.map_given_sourceRows length)
  rw [List.length_map] at count
  refine ⟨outcome, merges, composed.sources, ?_, ?_, fun position one here => ?_,
    fun ctx d reported => ?_⟩
  · rw [composed.rows, List.length_map, List.length_zipIdx, count]
  · rw [composed.provenance, List.length_map, count]
  · obtain ⟨taken, place, rfl⟩ := (Merge.groupRows_getElem?_iff length).1 here
    refine ⟨_, _, List.mk_mem_zipIdx_iff_getElem?.1 (composed.mem_rows_iff.2 ⟨taken, place, rfl⟩),
      ?_, composed.takesRow merged shares place⟩
    rw [composed.provenance, List.getElem?_map, place]
    rfl
  · obtain ⟨row, position, stored, column, m, mem, found⟩ :=
      TableValidation.mem_diagnostics_ofTarget_iff.1 reported
    obtain ⟨taken, place, -⟩ := composed.mem_rows_iff.1 stored
    have column? := Header.column?_of_mem_slots mem
    refine ⟨position, taken.given, row, m, column, ?_, List.mk_mem_zipIdx_iff_getElem?.1 stored,
      column?, found, fun s own owned title =>
        composed.place_of_mem_cellDiagnostics merged shares place column? owned title found⟩
    exact (Merge.groupRows_getElem?_iff length).2 ⟨taken, place, rfl⟩

open Library

/-- Two sheets that share one title, in different slots. -/
def partlyShared : List IngestedSheet :=
  sharesOf [
    shareSheet "a" [("id", "key,int"), ("n[]", "int"), ("x[]", "int,arraysizeref<n>")]
      [["1", "5,6", "7,8"]],
    shareSheet "b" [("y", "string"), ("id", "key,int")] [["bee", "2"]]]

set_option maxRecDepth 100000 in
/-- The cells of the two sheets, with their sources and counts. -/
theorem exists_traces_partlyShared :
    ∃ outcome, ofSheets? "g" partlyShared false = some outcome ∧
      outcome.Traces "g" partlyShared ∧
      outcome.table.rows = [⟨1, ["1", "5,6", "7,8", ""]⟩, ⟨2, ["2", "0", "0", "bee"]⟩] ∧
      outcome.table.provenance = [
        [⟨0, 4, some 1, "1"⟩, ⟨0, 4, some 2, "5,6"⟩, ⟨0, 4, some 3, "7,8"⟩, ⟨0, 4, none, ""⟩],
        [⟨1, 4, some 2, "2"⟩, ⟨1, 4, none, "0"⟩, ⟨1, 4, none, "0"⟩, ⟨1, 4, some 1, "bee"⟩]] ∧
      outcome.sizes.get? "g" 2 1 = some 2 ∧ outcome.sizes.get? "g" 2 2 = none := by
  have run : (ofSheets? "g" partlyShared false).map (fun outcome =>
      (outcome.table.rows, outcome.table.provenance, outcome.sizes.get? "g" 2 1,
        outcome.sizes.get? "g" 2 2)) = some (
      [⟨1, ["1", "5,6", "7,8", ""]⟩, ⟨2, ["2", "0", "0", "bee"]⟩],
      [[⟨0, 4, some 1, "1"⟩, ⟨0, 4, some 2, "5,6"⟩, ⟨0, 4, some 3, "7,8"⟩, ⟨0, 4, none, ""⟩],
        [⟨1, 4, some 2, "2"⟩, ⟨1, 4, none, "0"⟩, ⟨1, 4, none, "0"⟩, ⟨1, 4, some 1, "bee"⟩]],
      some 2, none) := by
    decide +kernel
  have shares : ∀ sheet ∈ partlyShared, sheet.ShareOf "g" :=
    shareOf_of_mem_sharesOf (by decide +kernel)
  obtain ⟨outcome, merges, traces⟩ := exists_traces shares (by decide +kernel) false
  rw [merges, Option.map_some, Option.some.injEq] at run
  simp only [Prod.mk.injEq] at run
  exact ⟨outcome, merges, traces, run⟩

end MergeOutcome

end DesignTables
