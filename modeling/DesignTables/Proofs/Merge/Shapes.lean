import DesignTables.Proofs.Merge.Provenance
import DesignTables.Proofs.Output.Documents
import DesignTables.Proofs.Text.Pieces

/-!
# Which fields of a merge table are lists

The brackets behind a title tell whether its column is an array, and are no part of the title. So
the columns of one title can differ in it. Nothing compares them: the merged column is an array when
the first column of its title is one, and every row of the group is written that way.
-/
namespace DesignTables

namespace Header

/-- A column is read as an array when its title ends in brackets. -/
theorem isArray_iff_of_readColumn? {grid : Grid} {col : Nat} {column : Column}
    (h : readColumn? grid col = some column) : column.isArray = true ↔
      grid.text? titleRow column.gridColumn = some (column.title ++ "[]") := by
  obtain ⟨text, titled, h⟩ := Option.bind_eq_some_iff.1 h
  obtain ⟨directives, -, h⟩ := Option.bind_eq_some_iff.1 h
  obtain ⟨flag, -, h⟩ := Option.bind_eq_some_iff.1 h
  obtain ⟨mode, -, h⟩ := Option.bind_eq_some_iff.1 h
  obtain rfl := Option.some.inj h
  have place : grid.text? titleRow col = some text := titled
  dsimp only [Column.plain]
  rw [place, Option.some.injEq]
  cases brackets : Text.dropSuffix? "[]" text with
  | some title => exact iff_of_true rfl (Text.dropSuffix?_eq_some_iff.1 brackets)
  | none =>
    refine iff_of_false Bool.false_ne_true fun same => ?_
    rw [Text.dropSuffix?_eq_some_iff.2 same] at brackets
    cases brackets

end Header

/-- Of the columns of a sheet, the arrays are those whose titles end in brackets in its grid. -/
theorem IngestedSheet.isArray_iff_of_ofSheet? {given : Sheet} {origin : SheetOrigin}
    {mergeGroups : List String} {sheet : IngestedSheet}
    (h : ofSheet? given origin mergeGroups = some sheet) {column : Column}
    (mem : column ∈ sheet.schema.columns) : column.isArray = true ↔
      given.grid.text? Header.titleRow column.gridColumn = some (column.title ++ "[]") := by
  have compiled := compile?_of_ofSheet? h
  rw [Header.compile?_eq] at compiled
  obtain ⟨kind, -, own⟩ := Option.map_eq_some_iff.1 compiled
  rw [← own] at mem
  have shape : column.shape ∈ (Header.start given origin kind).shapes := by
    rw [← Header.shapes_compile mergeGroups]
    exact List.mem_map_of_mem mem
  obtain ⟨raw, read, same⟩ := List.mem_map.1 shape
  obtain ⟨col, -, read⟩ := List.mem_filterMap.1 read
  have array := Header.isArray_iff_of_readColumn? read
  simp only [Column.shape, Prod.mk.injEq] at same
  obtain ⟨gridColumn, title, -, isArray, -⟩ := same
  rwa [isArray, gridColumn, title] at array

namespace Field

/-- The field is written as a list. -/
def isList (field : Field) : Bool :=
  match field.value with
  | .scalar _ => false
  | .list _ => true

theorem isList_field (cell : OutputCell) : cell.field.isList = cell.column.isArray := by
  cases shape : cell.column.isArray with
  | false => rw [OutputCell.field_of_scalar shape, isList]
  | true => rw [OutputCell.field_of_array shape, isList]

end Field

/-- Columns of one title are arrays together. -/
def Column.SameShapes (columns : List Column) : Prop :=
  ∀ a ∈ columns, ∀ b ∈ columns, a.title = b.title → a.isArray = b.isArray

instance (columns : List Column) : Decidable (Column.SameShapes columns) :=
  inferInstanceAs (Decidable (∀ a ∈ columns, ∀ b ∈ columns, a.title = b.title →
    a.isArray = b.isArray))

namespace MergeOutcome

variable {group : String} {sheets : List IngestedSheet} {referenceOnly : Bool}
  {outcome : MergeOutcome}

/-- The merged columns have the shapes of the sheets' columns, and a field that a sheet gives is
written as a list exactly when the sheet's own title ends in brackets. -/
structure KeepsShapes (outcome : MergeOutcome) (sheets : List IngestedSheet) : Prop where
  columns : ∀ sheet ∈ sheets, ∀ column ∈ sheet.schema.columns, ∃ slot merged,
    outcome.table.schema.slotOf? column.title = some slot ∧
    outcome.table.schema.column? slot = some merged ∧ merged.isArray = column.isArray
  fields : ∀ (position : Nat) (one : Merge.GroupRow) (row : TableRow),
    (Merge.groupRows sheets)[position]? = some one →
    outcome.table.rows[position]? = some row → ∀ changed overlay,
      ∀ field ∈ (OutputTable.ofMerge outcome.table changed).fields overlay row,
        ∀ own ∈ one.sheet.schema.columns, own.title = field.title →
          ∀ given origin mergeGroups,
            IngestedSheet.ofSheet? given origin mergeGroups = some one.sheet →
              (field.isList = true ↔
                given.grid.text? Header.titleRow own.gridColumn = some (own.title ++ "[]"))

/-- The first column of a title settles the shape of the merged column. -/
theorem isArray_of_first (merges : ofSheets? group sheets referenceOnly = some outcome)
    {merged : Column} (mem : merged ∈ outcome.table.schema.columns) :
    ∃ first, (sheets.flatMap (·.schema.columns)).find? (·.title == merged.title) = some first ∧
      merged.isArray = first.isArray := by
  have collects := (unifies_ofSheets? merges).1
  have cores := collects.cores merged.title
  rw [find?_key collects.titles mem, Option.map_some] at cores
  obtain ⟨first, found, same⟩ := Option.map_eq_some_iff.1 cores.symm
  exact ⟨first, found, Column.isArray_of_core same.symm⟩

/-- Every field of a merge table is a list exactly when the first column of its title is an array,
whatever sheet its row is of. -/
theorem isList_of_first (merges : ofSheets? group sheets referenceOnly = some outcome)
    {changed : List Nat} {overlay : Overlay} {row : TableRow} {field : Field}
    (mem : field ∈ (OutputTable.ofMerge outcome.table changed).fields overlay row) :
    ∃ first, (sheets.flatMap (·.schema.columns)).find? (·.title == field.title) = some first ∧
      field.isList = first.isArray := by
  rw [OutputTable.fields_eq] at mem
  obtain ⟨cell, written, rfl⟩ := List.mem_map.1 mem
  obtain ⟨⟨column, slot⟩, exported, -, rfl⟩ := OutputTable.mem_cells_iff.1 written
  have known : column ∈ outcome.table.schema.columns :=
    List.mem_of_getElem? (Header.column?_of_mem_slots (List.mem_filter.1 exported).1)
  obtain ⟨first, found, shape⟩ := isArray_of_first merges known
  exact ⟨first, found, (Field.isList_field _).trans shape⟩

/-- Merging without a problem keeps the shapes exactly when the columns of one title are of one
shape. -/
theorem keepsShapes_iff (merges : ofSheets? group sheets referenceOnly = some outcome)
    (clean : outcome.diagnostics = []) :
    outcome.KeepsShapes sheets ↔ Column.SameShapes (sheets.flatMap (·.schema.columns)) := by
  constructor
  · intro kept a ha b hb same
    obtain ⟨sheet, known, ha⟩ := List.mem_flatMap.1 ha
    obtain ⟨sheet', known', hb⟩ := List.mem_flatMap.1 hb
    obtain ⟨slot, merged, place, here, shape⟩ := kept.columns sheet known a ha
    obtain ⟨slot', merged', place', here', shape'⟩ := kept.columns sheet' known' b hb
    rw [same, place', Option.some.injEq] at place
    rw [← place, here', Option.some.injEq] at here
    rw [← shape, ← here, shape']
  · intro same
    refine ⟨fun sheet known column mem => ?_,
      fun position one row here _ changed overlay field written own mem title given origin
        mergeGroups ingested => ?_⟩
    · obtain ⟨slot, merged, place, there, title, -⟩ := exists_merged_column merges clean known mem
      obtain ⟨first, found, shape⟩ := isArray_of_first merges (List.mem_of_getElem? there)
      have named : first.title = merged.title := by simpa using List.find?_some found
      refine ⟨slot, merged, place, there, shape.trans ?_⟩
      exact same first (List.mem_of_find?_eq_some found) column
        (List.mem_flatMap.2 ⟨sheet, known, mem⟩) (named.trans title)
    · obtain ⟨first, found, shape⟩ := isList_of_first merges written
      have named : first.title = field.title := by simpa using List.find?_some found
      have known : one.sheet ∈ sheets := Merge.sheet_mem_of_groupRows here
      rw [shape, same first (List.mem_of_find?_eq_some found) own
        (List.mem_flatMap.2 ⟨_, known, mem⟩) (named.trans title.symm)]
      exact IngestedSheet.isArray_iff_of_ofSheet? ingested mem

open Library

/-- Two sheets with an array of one title. -/
def arraysAlike : List IngestedSheet :=
  sharesOf [
    shareSheet "a" [("id", "key,int"), ("x[]", "int")] [["1", "7,8"]],
    shareSheet "b" [("x[]", "int"), ("id", "key,int")] [["9", "2"]]]

set_option maxRecDepth 100000 in
/-- The array is an array of the merge table. -/
theorem keepsShapes_arraysAlike : ∃ outcome, ofSheets? "g" arraysAlike false = some outcome ∧
    outcome.diagnostics = [] ∧ outcome.KeepsShapes arraysAlike := by
  have run : (ofSheets? "g" arraysAlike false).map (·.diagnostics) = some [] := by
    decide +kernel
  obtain ⟨outcome, merges, clean⟩ := Option.map_eq_some_iff.1 run
  exact ⟨outcome, merges, clean, (keepsShapes_iff merges clean).2 (by decide +kernel)⟩

/-- An array, and a single value of the same title. -/
def mixedShapes : List Sheet := [
  shareSheet "a" [("id", "key,int"), ("x[]", "int")] [["1", "7,8"]],
  shareSheet "b" [("id", "key,int"), ("x", "int")] [["2", "9"]]]

set_option maxRecDepth 100000 in
/-- Nothing is reported, and the single value is written as a list. -/
theorem not_keepsShapes_mixedShapes :
    ¬ ∀ (group : String) (sheets : List IngestedSheet) (referenceOnly : Bool)
        (outcome : MergeOutcome), (∀ sheet ∈ sheets, sheet.ShareOf group) →
      ofSheets? group sheets referenceOnly = some outcome → outcome.diagnostics = [] →
        outcome.KeepsShapes sheets := by
  intro all
  have run : (ofSheets? "g" (sharesOf mixedShapes) false).map (fun outcome =>
      (outcome.diagnostics, (outcome.table.rows[1]?).map
        ((OutputTable.ofMerge outcome.table []).fields Overlay.empty))) =
      some ([], some [⟨"id", .scalar "2"⟩, ⟨"x", .list ["9"]⟩]) := by
    decide +kernel
  obtain ⟨outcome, merges, same⟩ := Option.map_eq_some_iff.1 run
  obtain ⟨clean, emitted⟩ := Prod.mk.inj same
  obtain ⟨row, stored, fields⟩ := Option.map_eq_some_iff.1 emitted
  have second : ((Merge.groupRows (sharesOf mixedShapes))[1]?).map (fun one =>
      (one.sheet.name, (one.sheet.schema.column? 1).map fun column =>
        (column.title, column.gridColumn))) = some ("b", some ("x", 2)) := by
    decide +kernel
  obtain ⟨one, here, same⟩ := Option.map_eq_some_iff.1 second
  obtain ⟨name, same⟩ := Prod.mk.inj same
  obtain ⟨own, place, same⟩ := Option.map_eq_some_iff.1 same
  obtain ⟨title, gridColumn⟩ := Prod.mk.inj same
  obtain ⟨given, inside, ingested⟩ := List.mem_filterMap.1 (Merge.sheet_mem_of_groupRows here)
  have named : given.name = "b" := (IngestedSheet.readFrom_ofSheet? ingested).1.symm.trans name
  have kept := all "g" _ false outcome (shareOf_of_mem_sharesOf (by decide +kernel)) merges clean
  have shape := kept.fields 1 one row here stored [] Overlay.empty ⟨"x", .list ["9"]⟩
    (by rw [fields]; decide) own (List.mem_of_getElem? place) title given _ _ ingested
  rw [title, gridColumn] at shape
  have unbracketed : ∀ given ∈ mixedShapes, given.name = "b" →
      given.grid.text? Header.titleRow 2 ≠ some ("x" ++ "[]") := by
    decide +kernel
  exact unbracketed given inside named (shape.1 rfl)

end MergeOutcome

end DesignTables
