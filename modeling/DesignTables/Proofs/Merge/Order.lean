import DesignTables.Proofs.Merge.Division
import DesignTables.Proofs.Merge.Provenance
import Mathlib.Data.List.Perm.Basic

/-!
# The sheets of a group in another order

Slots, row numbers and positions follow the order of the sheets; a row read by its titles does not.
A merged row gives what its sheet has under a title, and the default of the title's type where the
sheet lacks it. The columns of a title agree, so the first of them has this type in any order. All
that is made of the rows, the group values and the shards, depends on these readings alone.
-/
namespace DesignTables

namespace Column

/-- What the columns of one title agree on. -/
def layout (column : Column) : Option DataType × ExportMode × Option String :=
  (column.dataType, column.mode, column.enumGroup)

theorem Agrees.layout_eq {a b : Column} (h : a.Agrees b) : a.layout = b.layout := by
  rw [layout, layout, h.dataType, h.mode, h.enumGroup]

theorem Harmonious.perm {columns others : List Column} (h : Harmonious columns)
    (perm : columns.Perm others) : Harmonious others :=
  fun a ha b hb => h a (perm.mem_iff.2 ha) b (perm.mem_iff.2 hb)

theorem harmonious_perm_iff {columns others : List Column} (perm : columns.Perm others) :
    Harmonious columns ↔ Harmonious others :=
  ⟨fun h => h.perm perm, fun h => h.perm perm.symm⟩

/-- Columns that agree have one layout for each title, whichever column comes first. -/
theorem Harmonious.layout_eq {columns others : List Column} (h : Harmonious columns)
    (perm : columns.Perm others) (title : String) :
    (columns.find? (·.title == title)).map layout =
      (others.find? (·.title == title)).map layout := by
  have known : (columns.find? (·.title == title)).isSome =
      (others.find? (·.title == title)).isSome := by
    rw [Bool.eq_iff_iff, List.find?_isSome, List.find?_isSome]
    exact exists_congr fun column => and_congr_left fun _ => perm.mem_iff
  cases first : columns.find? (·.title == title) with
  | none =>
    rw [first, Option.isSome_none, eq_comm, Option.isSome_eq_false_iff, Option.isNone_iff_eq_none]
      at known
    rw [known]
  | some a =>
    rw [first, Option.isSome_some, eq_comm, Option.isSome_iff_exists] at known
    obtain ⟨b, other⟩ := known
    have titleA : a.title = title := by simpa using List.find?_some first
    have titleB : b.title = title := by simpa using List.find?_some other
    have agrees := h a (List.mem_of_find?_eq_some first) b
      (perm.mem_iff.2 (List.mem_of_find?_eq_some other)) (titleA.trans titleB.symm)
    rw [other, Option.map_some, Option.map_some, agrees.layout_eq]

end Column

namespace Schema

/-- The layout of the column of a title. -/
def layout (schema : Schema) (title : String) :
    Option (Option DataType × ExportMode × Option String) :=
  (schema.columns.find? (·.title == title)).map Column.layout

/-- A row as a map from titles to values. -/
def reading (schema : Schema) (row : TableRow) (title : String) : Option String :=
  (schema.slotOf? title).map row.value

theorem value_eq_reading {schema : Schema} {title : String} {slot : Nat}
    (place : schema.slotOf? title = some slot) (row : TableRow) :
    schema.reading row title = some (row.value slot) := by
  rw [reading, place]
  rfl

theorem mem_titles_iff {schema : Schema} {title : String} :
    title ∈ schema.titles ↔ (schema.layout title).isSome = true := by
  rw [layout, Option.isSome_map, List.find?_isSome, titles, List.mem_map]
  exact exists_congr fun column => and_congr_right fun _ => beq_iff_eq.symm

theorem exists_slotOf? {schema : Schema} {title : String} (known : title ∈ schema.titles) :
    ∃ slot, schema.slotOf? title = some slot := by
  rw [slotOf?_eq, ← Option.isSome_iff_exists, List.findIdx?_isSome, List.any_eq_true]
  exact ⟨title, known, beq_self_eq_true title⟩

end Schema

/-- Lists that match one by one to the same results give the same results together. -/
theorem flatMap_eq_of_forall₂ {α β γ : Type} {f : α → List γ} {g : β → List γ} {xs : List α}
    {ys : List β} (h : List.Forall₂ (fun x y => f x = g y) xs ys) :
    xs.flatMap f = ys.flatMap g := by
  induction h with
  | nil => rfl
  | cons same _ ih => rw [List.flatMap_cons, List.flatMap_cons, same, ih]

namespace MergeTable

variable {table : MergeTable} {slot : Nat}

/-- The rows of the table as maps from titles to values. -/
def readings (table : MergeTable) : List (String → Option String) :=
  table.rows.map table.schema.reading

/-- The rows of a shard as maps from titles to values. -/
def readingsOf (table : MergeTable) (shard : Shard) : List (String → Option String) :=
  (shard.rows.filterMap fun position => table.rows[position]?).map table.schema.reading

/-- The tables hold the same, but for the order of columns and rows. -/
structure SameUpToOrder (a b : MergeTable) : Prop where
  titles : a.schema.titles.Perm b.schema.titles
  layout : a.schema.layout = b.schema.layout
  rows : a.readings.Perm b.readings
  groupIds : a.groupIds = b.groupIds
  partition : (∃ plan, a.partition = .ok plan) ↔ ∃ plan, b.partition = .ok plan
  indexEntries : ∀ plan plan', a.partition = .ok plan → b.partition = .ok plan' →
    plan.indexEntries = plan'.indexEntries
  shards : ∀ plan plan', a.partition = .ok plan → b.partition = .ok plan' →
    List.Forall₂ (fun shard shard' => shard.number = shard'.number ∧ shard.keys = shard'.keys ∧
      (a.readingsOf shard).Perm (b.readingsOf shard')) plan.shards plan'.shards

/-- The group value of a row that is read by titles, as an integer. -/
def keyIn (field : String) (reading : String → Option String) : Option Int :=
  (reading field).bind readInt64?

/-- The rows in another order have the same group values in ascending order. -/
theorem ascending_perm {texts others : List String} (perm : texts.Perm others) :
    texts.eraseDups.mergeSort (fun a b => decide (a ≤ b)) =
      others.eraseDups.mergeSort fun a b => decide (a ≤ b) := by
  have sorted (given : List String) :
      (given.eraseDups.mergeSort fun a b => decide (a ≤ b)).Pairwise (· ≤ ·) := by
    refine (List.pairwise_mergeSort ?_ ?_ _).imp of_decide_eq_true
    · intro a b c hab hbc
      exact decide_eq_true (String.le_trans (of_decide_eq_true hab) (of_decide_eq_true hbc))
    · intro a b
      simpa using String.le_total a b
  have same : texts.eraseDups.Perm others.eraseDups := by
    rw [List.perm_ext_iff_of_nodup (nodup_eraseDups _) (nodup_eraseDups _)]
    intro text
    rw [List.mem_eraseDups, List.mem_eraseDups, perm.mem_iff]
  refine List.Perm.eq_of_pairwise (fun a b _ _ => String.le_antisymm) (sorted texts)
    (sorted others) ?_
  exact (List.mergeSort_perm _ _).trans (same.trans (List.mergeSort_perm _ _).symm)

/-- The rows in another order have the same keys. -/
theorem sortedKeys_perm {keyed others : List (Int × Nat)}
    (perm : (keyed.map (·.1)).Perm (others.map (·.1))) : sortedKeys keyed = sortedKeys others := by
  apply sortedKeys_eq (ascending_sortedKeys others)
  intro key
  rw [mem_sortedKeys, perm.mem_iff]

theorem map_fst_keyedPositions (table : MergeTable) (slot : Nat) :
    (table.keyedPositions slot).map (·.1) =
      table.rows.filterMap fun row => readInt64? (row.value slot) := by
  have rows : table.rows = table.rows.zipIdx.map Prod.fst := by rw [List.zipIdx_map_fst]
  conv_rhs => rw [rows]
  rw [keyedPositions, List.map_filterMap, List.filterMap_map]
  refine List.filterMap_congr fun entry _ => ?_
  rw [Option.map_map]
  exact Option.map_id'

/-- The positions of a key are those of the rows with the key, in their order. -/
theorem filterMap_positionsOf (table : MergeTable) (slot : Nat) (key : Int) :
    (positionsOf (table.keyedPositions slot) key).filterMap (fun position => table.rows[position]?) =
      table.rows.filter fun row => readInt64? (row.value slot) == some key := by
  have rows : table.rows = table.rows.zipIdx.map Prod.fst := by rw [List.zipIdx_map_fst]
  conv_rhs => rw [rows]
  rw [positionsOf, keyedPositions, List.filter_filterMap, List.map_filterMap,
    List.filterMap_filterMap, List.filter_map, ← List.filterMap_eq_filter, List.map_filterMap]
  refine List.filterMap_congr fun entry mem => ?_
  obtain ⟨row, position⟩ := entry
  have place := List.mk_mem_zipIdx_iff_getElem?.1 mem
  obtain found | ⟨own, found⟩ := Option.eq_none_or_eq_some (readInt64? (row.value slot))
  · simp [found, Option.guard]
  · by_cases same : own = key <;> simp [found, Option.guard, Option.filter, same, place]

section

variable (named : table.schema.slotOf? table.groupField = some slot)
include named

theorem groupSlot?_of_slotOf? : table.groupSlot? = some slot := by
  rw [groupSlot?, Schema.findSlot?, named]
  rfl

theorem keyIn_reading (row : TableRow) :
    keyIn table.groupField (table.schema.reading row) = readInt64? (row.value slot) := by
  rw [keyIn, Schema.value_eq_reading named]
  rfl

theorem keyIn_comp_reading : keyIn table.groupField ∘ table.schema.reading =
    fun row => readInt64? (row.value slot) :=
  funext (keyIn_reading named)

/-- The group values are those that the rows have under the title of the group field. -/
theorem groupIds_eq : table.groupIds =
    (table.readings.filterMap (· table.groupField)).eraseDups.mergeSort
      fun a b => decide (a ≤ b) := by
  have values : table.readings.filterMap (· table.groupField) =
      table.rows.map (·.value slot) := by
    rw [readings, List.filterMap_map, ← List.filterMap_eq_map]
    exact List.filterMap_congr fun row _ => Schema.value_eq_reading named row
  rw [groupIds, groupSlot?_of_slotOf? named, values]

theorem exists_partition_iff (sourced : table.HasSources) :
    (∃ plan, table.partition = .ok plan) ↔
      ∀ reading ∈ table.readings, (keyIn table.groupField reading).isSome := by
  rw [(partition_divides sourced (groupSlot?_of_slotOf? named)).1, readings, List.forall_mem_map]
  simp only [keyIn_reading named]

theorem keys_eq : (table.keyedPositions slot).map (·.1) =
    table.readings.filterMap (keyIn table.groupField) := by
  rw [map_fst_keyedPositions, readings, List.filterMap_map, keyIn_comp_reading named]

/-- A shard has the rows of each of its keys. -/
theorem readingsOf_shardOfKeys (number : Nat) (keys : List Int) :
    table.readingsOf (shardOfKeys (table.keyedPositions slot) number keys) =
      keys.flatMap fun key => table.readings.filter (keyIn table.groupField · == some key) := by
  rw [readingsOf, shardOfKeys, List.filterMap_flatMap, List.map_flatMap]
  refine congrArg (keys.flatMap ·) (funext fun key => ?_)
  rw [filterMap_positionsOf, readings, List.filter_map]
  congr 2
  funext row
  rw [Function.comp_apply, keyIn_reading named]

end

/-- Tables with the same columns and rows, in any order, have the same group values and shards. -/
theorem sameUpToOrder {a b : MergeTable} (titles : a.schema.titles.Perm b.schema.titles)
    (layout : a.schema.layout = b.schema.layout) (rows : a.readings.Perm b.readings)
    (field : a.groupField = b.groupField) (size : a.shardSize = b.shardSize)
    (known : a.groupField ∈ a.schema.titles) (sourced : a.HasSources) (sourced' : b.HasSources) :
    a.SameUpToOrder b := by
  obtain ⟨slot, named⟩ := Schema.exists_slotOf? known
  obtain ⟨slot', named'⟩ := Schema.exists_slotOf? (field ▸ titles.mem_iff.1 known)
  have keys : sortedKeys (a.keyedPositions slot) = sortedKeys (b.keyedPositions slot') := by
    refine sortedKeys_perm ?_
    rw [keys_eq named, keys_eq named', field]
    exact rows.filterMap _
  have pieces : List.Forall₂ (fun shard shard' =>
        Shard.number shard = Shard.number shard' ∧ shard.keys = shard'.keys ∧
          (a.readingsOf shard).Perm (b.readingsOf shard'))
      (planFor (max a.shardSize 1) (a.keyedPositions slot)).shards
      (planFor (max b.shardSize 1) (b.keyedPositions slot')).shards := by
    rw [shards_planFor, shards_planFor, keys, size, List.forall₂_map_left_iff,
      List.forall₂_map_right_iff, List.forall₂_same]
    refine fun i _ => ⟨rfl, rfl, ?_⟩
    rw [readingsOf_shardOfKeys named, readingsOf_shardOfKeys named', field]
    exact List.Perm.flatMap_left _ fun key _ => rows.filter _
  refine ⟨titles, layout, rows, ?_, ?_, fun plan plan' divided divided' => ?_,
    fun plan plan' divided divided' => ?_⟩
  · rw [groupIds_eq named, groupIds_eq named', field]
    exact ascending_perm (rows.filterMap _)
  · rw [exists_partition_iff named sourced, exists_partition_iff named' sourced', field]
    exact forall_congr' fun reading => imp_congr_left rows.mem_iff
  · rw [plan_eq_of_partition (groupSlot?_of_slotOf? named) divided,
      plan_eq_of_partition (groupSlot?_of_slotOf? named') divided', ShardPlan.indexEntries,
      ShardPlan.indexEntries]
    exact flatMap_eq_of_forall₂ (pieces.imp fun _ _ same => by rw [same.1, same.2.1])
  · rw [plan_eq_of_partition (groupSlot?_of_slotOf? named) divided,
      plan_eq_of_partition (groupSlot?_of_slotOf? named') divided']
    exact pieces

end MergeTable

namespace Merge

variable {schema : Schema} {seen : List Column}

theorem Collects.layout_eq (h : Collects seen schema) (title : String) :
    schema.layout title = (seen.find? (·.title == title)).map Column.layout := by
  have view : Column.layout = (fun core => (core.2.2.1, core.2.1, core.2.2.2.1)) ∘ Column.core := rfl
  rw [Schema.layout, view, ← Option.map_map, h.cores, Option.map_map]

/-- A row of a sheet as it is read among some columns: a title that the sheet lacks has the default
of the column's type. -/
def readingAmong (columns : List Column) (sheet : IngestedSheet) (row : TableRow) (title : String) :
    Option String :=
  ((columns.find? (·.title == title)).map Column.layout).map fun layout =>
    (sheet.schema.reading row title).getD ((layout.1.map DataType.mergeDefault).getD "")

/-- A merged row reads like the row of its sheet. -/
theorem reading_merged {one : SourceRow} {sheets : List IngestedSheet} (h : one.IsFrom sheets schema)
    (collects : Collects seen schema) (position : Nat) :
    schema.reading (one.merged schema position) = readingAmong seen one.sheet one.row := by
  funext title
  rw [readingAmong, ← collects.layout_eq]
  cases place : schema.slotOf? title with
  | none => rw [Schema.reading, place, Schema.layout, (collects.find?_eq_none place).1]; rfl
  | some slot =>
    obtain ⟨merged, first, known, -, -⟩ := collects.first place
    have title? : merged.title = title :=
      ((Schema.slotOf?_eq_some_iff collects.titles known).1 place).symm
    have found : schema.columns.find? (·.title == title) = some merged := by
      rw [← schema.slotOf?_bind_column?, place, Option.bind_some, known]
    rw [Schema.value_eq_reading place, SourceRow.value_merged known, Schema.layout, found,
      SourceRow.cell, SourceRow.slotFor?_eq h collects.titles known, title?, Schema.reading]
    cases one.sheet.schema.slotOf? title <;> rfl

/-- Columns that agree read alike in any order. -/
theorem readingAmong_perm {columns others : List Column} (harmony : Column.Harmonious columns)
    (perm : columns.Perm others) : readingAmong columns = readingAmong others := by
  funext sheet row title
  rw [readingAmong, readingAmong, harmony.layout_eq perm]

end Merge

namespace MergeOutcome

variable {group : String} {sheets others : List IngestedSheet} {referenceOnly : Bool}
  {outcome : MergeOutcome}

/-- The rows of a merge table read like the rows that they are made of. -/
theorem Composed.readings_eq {given : List Merge.SourceRow} (h : outcome.Composed group sheets given)
    {seen : List Column} (collects : Merge.Collects seen outcome.table.schema) :
    outcome.table.readings = given.map fun one => Merge.readingAmong seen one.sheet one.row := by
  calc outcome.table.readings
    _ = given.zipIdx.map fun entry =>
          outcome.table.schema.reading (entry.1.merged outcome.table.schema entry.2) := by
      rw [MergeTable.readings, h.rows, List.map_map]
      rfl
    _ = given.zipIdx.map fun entry => Merge.readingAmong seen entry.1.sheet entry.1.row :=
      List.map_congr_left fun entry mem =>
        Merge.reading_merged (h.isFrom entry.1 (List.fst_mem_of_mem_zipIdx mem)) collects entry.2
    _ = (given.zipIdx.map Prod.fst).map fun one => Merge.readingAmong seen one.sheet one.row := by
      rw [List.map_map]
      rfl
    _ = given.map fun one => Merge.readingAmong seen one.sheet one.row := by
      rw [List.zipIdx_map_fst]

/-- The rows of a merge table read like those of the sheets, one sheet after the other. -/
theorem readings_ofSheets? (h : ofSheets? group sheets referenceOnly = some outcome) :
    outcome.table.readings = sheets.flatMap fun sheet =>
      sheet.rows.map (Merge.readingAmong (sheets.flatMap (·.schema.columns)) sheet) := by
  obtain ⟨mappings, length, composed⟩ := composed_sourceRows h
  rw [composed.readings_eq (unifies_ofSheets? h).1, ← Merge.map_groupRows,
    ← Merge.map_given_sourceRows length, List.map_map]
  rfl

/-- The titles of the sheets are those of the table. -/
theorem mem_titles_ofSheets? (h : ofSheets? group sheets referenceOnly = some outcome)
    {title : String} : title ∈ outcome.table.schema.titles ↔
      ∃ column ∈ sheets.flatMap (·.schema.columns), column.title = title := by
  rw [Schema.mem_titles_iff, (unifies_ofSheets? h).1.layout_eq, Option.isSome_map,
    List.find?_isSome]
  exact exists_congr fun column => and_congr_right fun _ => beq_iff_eq

/-- The sheets of a group in another order give the same table, or both orders give problems. -/
theorem sameUpToOrder_of_perm {header : MergeHeader} (group : String) (referenceOnly : Bool)
    (tuples : ∀ sheet ∈ sheets, sheet.schema.merge = some header)
    (named : ∃ sheet ∈ sheets, ∃ column ∈ sheet.schema.columns, column.title = header.groupField)
    (perm : sheets.Perm others) :
    ∃ outcome other, ofSheets? group sheets referenceOnly = some outcome ∧
      ofSheets? group others referenceOnly = some other ∧
      (outcome.diagnostics = [] ↔ other.diagnostics = []) ∧
      (outcome.diagnostics = [] → outcome.table.SameUpToOrder other.table) := by
  have merges : ∀ given : List IngestedSheet, given.Perm sheets → ∃ outcome,
      ofSheets? group given referenceOnly = some outcome ∧
        outcome.table.groupField = header.groupField ∧
        outcome.table.shardSize = header.shardSize := by
    intro given same
    obtain ⟨sheet, known, -⟩ := named
    obtain ⟨first, rest, rfl⟩ := List.exists_cons_of_ne_nil
      (List.ne_nil_of_mem (same.mem_iff.2 known))
    exact exists_ofSheets? List.head?_cons (tuples first (same.mem_iff.1 List.mem_cons_self)) group
      referenceOnly
  obtain ⟨outcome, here, field, size⟩ := merges sheets (.refl _)
  obtain ⟨other, there, field', size'⟩ := merges others perm.symm
  have columns : (sheets.flatMap (·.schema.columns)).Perm (others.flatMap (·.schema.columns)) :=
    perm.flatMap_right _
  have clean := diagnostics_ofSheets?_eq_nil_iff here
  refine ⟨outcome, other, here, there, ?_, fun none => ?_⟩
  · rw [clean, diagnostics_ofSheets?_eq_nil_iff there, Column.harmonious_perm_iff columns]
  · have harmony := clean.1 none
    have collects := (unifies_ofSheets? here).1
    have collects' := (unifies_ofSheets? there).1
    refine MergeTable.sameUpToOrder ?_ ?_ ?_ (field.trans field'.symm) (size.trans size'.symm) ?_
      (hasSources_ofSheets? here) (hasSources_ofSheets? there)
    · refine (List.perm_ext_iff_of_nodup collects.titles collects'.titles).2 fun title => ?_
      rw [← Schema.titles, ← Schema.titles, mem_titles_ofSheets? here, mem_titles_ofSheets? there]
      exact exists_congr fun column => and_congr_left fun _ => columns.mem_iff
    · funext title
      rw [collects.layout_eq, collects'.layout_eq, harmony.layout_eq columns]
    · rw [readings_ofSheets? here, readings_ofSheets? there,
        Merge.readingAmong_perm harmony columns]
      exact perm.flatMap_right _
    · obtain ⟨sheet, known, column, mem, title⟩ := named
      rw [field, mem_titles_ofSheets? here]
      exact ⟨column, List.mem_flatMap.2 ⟨sheet, known, mem⟩, title⟩

open Library

/-- Two sheets of a group that is divided by chapters, each with a column of its own. -/
def stageSheets : List IngestedSheet :=
  [sheetOf "stage_a" "#merge" "stage,chapter,2"
    [("id", "key,int"), ("chapter", "int"), ("x", "int")] [["1", "1", "10"], ["2", "3", "20"]],
   sheetOf "stage_b" "#merge" "stage,chapter,2"
    [("id", "key,int"), ("y", "type<grade>"), ("chapter", "int")]
    [["3", "COMMON", "2"], ["4", "RARE", "5"]]].filterMap
    fun sheet => IngestedSheet.ofSheet? sheet ⟨"design", "stage.xlsx", sheet.name⟩ ["stage"]

set_option maxRecDepth 100000 in
/-- The two sheets, and the same sheets the other way round. -/
theorem sameUpToOrder_stageSheets : ∃ outcome other,
    ofSheets? "stage" stageSheets false = some outcome ∧
      ofSheets? "stage" stageSheets.reverse false = some other ∧ outcome.diagnostics = [] ∧
      outcome.table.schema.titles = ["id", "chapter", "x", "y"] ∧
      other.table.schema.titles = ["id", "y", "chapter", "x"] ∧
      outcome.table.partition.toOption.isSome = true ∧
      outcome.table.SameUpToOrder other.table := by
  have run : ((ofSheets? "stage" stageSheets false).map fun outcome => (outcome.diagnostics,
      outcome.table.schema.titles, outcome.table.partition.toOption.isSome)) =
        some ([], ["id", "chapter", "x", "y"], true) := by
    decide +kernel
  have reversed : ((ofSheets? "stage" stageSheets.reverse false).map fun outcome =>
      outcome.table.schema.titles) = some ["id", "y", "chapter", "x"] := by
    decide +kernel
  have tuples : ∀ sheet ∈ stageSheets, sheet.schema.merge = some ⟨"stage", "chapter", 2⟩ := by
    decide +kernel
  have named : ∃ sheet ∈ stageSheets, ∃ column ∈ sheet.schema.columns,
      column.title = "chapter" := by
    decide +kernel
  obtain ⟨outcome, other, here, there, -, same⟩ := sameUpToOrder_of_perm "stage" false tuples named
    (List.reverse_perm stageSheets).symm
  rw [here, Option.map_some, Option.some.injEq] at run
  rw [there, Option.map_some, Option.some.injEq] at reversed
  simp only [Prod.mk.injEq] at run
  exact ⟨outcome, other, here, there, run.1, run.2.1, reversed, run.2.2, same run.1⟩

end MergeOutcome

end DesignTables
