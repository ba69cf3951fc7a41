import DesignTables.Output.Records
import DesignTables.Proofs.Merge.Columns
import DesignTables.Proofs.Merge.Division

/-!
# The records of shard files beside those of one record file

A record file of a keyed table leaves out the rows whose key is empty, shard files do not. Apart
from these rows the shards of a merge table hold the records of its record file, each as often.
-/
namespace DesignTables

/-- A list of records as a file holds it. -/
def Rendered.ofRecords (records : List (List Field)) : Rendered :=
  ⟨"[" ++ renderRecords records ++ "\n]", records.length⟩

namespace OutputTable

/-- The rows that a record file leaves out: those of a keyed table whose key is empty. -/
def keylessRows (table : OutputTable) : List TableRow :=
  match table.schema.key with
  | some slot => table.rows.filter fun row => (row.value slot).isEmpty
  | none => []

theorem keyedRows_append_keylessRows_perm (table : OutputTable) :
    (table.keyedRows ++ table.keylessRows).Perm table.rows := by
  rw [keyedRows, keylessRows]
  cases table.schema.key with
  | none => rw [List.append_nil]
  | some slot =>
    dsimp only
    have perm := List.filter_append_perm (fun row => !(row.value slot).isEmpty) table.rows
    simpa only [Bool.not_not] using perm

variable {table : OutputTable} {overlay : Overlay}

theorem records_append (rows others : List TableRow) : table.records overlay (rows ++ others) =
    table.records overlay rows ++ table.records overlay others := by
  rw [records, List.map_append, List.filter_append]
  rfl

theorem records_perm {rows others : List TableRow} (h : rows.Perm others) :
    (table.records overlay rows).Perm (table.records overlay others) :=
  (h.map _).filter _

theorem records_flatMap {α : Type} (xs : List α) (rows : α → List TableRow) :
    table.records overlay (xs.flatMap rows) =
      xs.flatMap fun x => table.records overlay (rows x) := by
  rw [records, List.map_flatMap, List.filter_flatMap]
  rfl

end OutputTable

namespace ShardLayout

/-- The records of each shard. -/
def shardRecords (layout : ShardLayout) (table : OutputTable) (overlay : Overlay) :
    List (List (List Field)) :=
  layout.plan.shards.map fun shard => table.records overlay (shardRows table shard)

theorem map_renderShards (layout : ShardLayout) (table : OutputTable) (overlay : Overlay) :
    (layout.renderShards table overlay).map (·.2) =
      (layout.shardRecords table overlay).map Rendered.ofRecords := by
  rw [renderShards, shardRecords, List.map_map, List.map_map]
  rfl

/-- Positions that are those of all rows in some order give all rows in some order. -/
theorem filterMap_getElem?_perm {α : Type} {positions : List Nat} {rows : List α}
    (h : positions.Perm (List.range rows.length)) :
    (positions.filterMap fun position => rows[position]?).Perm rows := by
  have all : (List.range rows.length).filterMap (fun position => rows[position]?) = rows := by
    have each : (List.range rows.length).map (fun position => rows[position]?) =
        rows.map some := by
      refine List.ext_getElem (by simp) fun i h h' => ?_
      simp only [List.length_map, List.length_range] at h
      simp [List.getElem?_eq_getElem h]
    have view := congrArg (List.filterMap id) each
    rw [List.filterMap_map, List.filterMap_map] at view
    simpa using view
  rw [← all]
  simpa only [all] using h.filterMap fun position => rows[position]?

/-- A division gives the records of all rows to the shards. -/
theorem flatten_shardRecords_perm {layout : ShardLayout} {table : OutputTable} {size : Nat}
    {keys : List Int} (divides : layout.plan.Divides size keys)
    (count : keys.length = table.rows.length) (overlay : Overlay) :
    (layout.shardRecords table overlay).flatten.Perm (table.records overlay table.rows) := by
  have rows : (layout.plan.shards.flatMap (shardRows table)).Perm table.rows := by
    have view : layout.plan.shards.flatMap (shardRows table) =
        (layout.plan.shards.flatMap (·.rows)).filterMap fun position => table.rows[position]? := by
      rw [List.filterMap_flatMap]
      rfl
    rw [view]
    exact filterMap_getElem?_perm (count ▸ divides.rows)
  have records : (table.records overlay (layout.plan.shards.flatMap (shardRows table))).Perm
      (table.records overlay table.rows) := OutputTable.records_perm rows
  rwa [OutputTable.records_flatMap, List.flatMap_def] at records

end ShardLayout

namespace MergeOutcome

variable {group : String} {sheets : List IngestedSheet} {referenceOnly : Bool}
variable {outcome : MergeOutcome}

theorem valueOnly_ofSheets? (merged : ofSheets? group sheets referenceOnly = some outcome) :
    outcome.table.schema.options.valueOnly = false := by
  obtain ⟨first, -, merged⟩ := Option.bind_eq_some_iff.1 merged
  obtain ⟨header, -, merged⟩ := Option.bind_eq_some_iff.1 merged
  obtain rfl := Option.some.inj merged
  dsimp only
  rw [Merge.options_addSheets]
  rfl

variable {plan : ShardPlan}

/-- The shards of a merge table hold the records of the rows with a key and of those without. -/
theorem flatten_shardRecords_perm (merged : ofSheets? group sheets referenceOnly = some outcome)
    (divided : outcome.table.partition = .ok plan) (changed : List Nat) (overlay : Overlay) :
    let table := OutputTable.ofMerge outcome.table changed
    let layout : ShardLayout := ⟨outcome.table.name, outcome.table.groupField, plan⟩
    (layout.shardRecords table overlay).flatten.Perm
      (table.records overlay table.keyedRows ++ table.records overlay table.keylessRows) := by
  intro table layout
  obtain ⟨slot, named⟩ := MergeTable.groupSlot?_of_partition divided
  obtain ⟨keys, same, divides⟩ :=
    MergeTable.divides_of_partition (hasSources_ofSheets? merged) named divided
  have count : keys.length = outcome.table.rows.length := by
    simpa using (congrArg List.length same).symm
  refine (ShardLayout.flatten_shardRecords_perm divides count overlay).trans ?_
  rw [← OutputTable.records_append]
  exact OutputTable.records_perm table.keyedRows_append_keylessRows_perm.symm

/-- The shards of a merge table hold the records of its record file, each as often, and besides
those of the rows whose key is empty. So they hold the same records exactly when no such row has
a record. -/
theorem shardRecords_perm_iff (merged : ofSheets? group sheets referenceOnly = some outcome)
    (divided : outcome.table.partition = .ok plan) (changed : List Nat) (overlay : Overlay) :
    let whole := OutputTable.ofMerge outcome.table changed
    let sharded := OutputTable.ofMerge { outcome.table with shards := some plan } changed
    let layout : ShardLayout := ⟨outcome.table.name, outcome.table.groupField, plan⟩
    let shards := layout.shardRecords sharded overlay
    let records := whole.records overlay whole.keyedRows
    let keyless := whole.records overlay whole.keylessRows
    sharded.shards = some layout ∧
      (layout.renderShards sharded overlay).map (·.2) = shards.map Rendered.ofRecords ∧
      whole.renderTable overlay = Rendered.ofRecords records ∧
      shards.flatten.Perm (records ++ keyless) ∧
      ((shards.flatten.map renderRecord).Perm (records.map renderRecord) ↔ keyless = []) := by
  intro whole sharded layout shards records keyless
  have options : whole.schema.options.valueOnly = false := valueOnly_ofSheets? merged
  have listed : whole.renderTable overlay = Rendered.ofRecords records := by
    rw [OutputTable.renderTable, options]
    rfl
  have all : shards.flatten.Perm (records ++ keyless) :=
    flatten_shardRecords_perm merged divided changed overlay
  refine ⟨rfl, ShardLayout.map_renderShards layout sharded overlay, listed, all, ?_⟩
  constructor
  · intro perm
    have lengths := all.length_eq
    have equal := perm.length_eq
    rw [List.length_append] at lengths
    rw [List.length_map, List.length_map] at equal
    exact List.eq_nil_of_length_eq_zero (by omega)
  · intro none
    rw [none, List.append_nil] at all
    exact all.map renderRecord

/-- The sheets of a group, one row each, whose keys bear the title `id` and another one. -/
def partsKeyedBy (key : String) : List IngestedSheet :=
  [("first", "id", ["", "ant", "1"]), ("second", key, ["", "bee", "2"])].filterMap
    fun (sheet, title, row) =>
      IngestedSheet.ofSheet?
        ⟨sheet, Grid.ofTexts [["", "", ""], ["#merge", title, "stage"],
          ["parts,stage,1", "key,string", "int"], ["", "data", "data"], row]⟩
        ⟨"design", "parts.xlsx", sheet⟩ []

/-- The table of some sheets, if it can be divided into shards, with the number of records that it
has of rows with a key and of rows without. -/
def recordCounts? (group : String) (sheets : List IngestedSheet) :
    Option (MergeOutcome × ShardPlan × Nat × Nat) := do
  let outcome ← ofSheets? group sheets false
  let plan ← outcome.table.partition.toOption
  let table := OutputTable.ofMerge outcome.table []
  return (outcome, plan, (table.records Overlay.empty table.keyedRows).length,
    (table.records Overlay.empty table.keylessRows).length)

theorem exists_of_recordCounts? {keyed keyless : Nat}
    (h : (recordCounts? group sheets).map (·.2.2) = some (keyed, keyless)) :
    ∃ outcome plan, ofSheets? group sheets false = some outcome ∧
      outcome.table.partition = .ok plan ∧
      let table := OutputTable.ofMerge outcome.table []
      (table.records Overlay.empty table.keyedRows).length = keyed ∧
        (table.records Overlay.empty table.keylessRows).length = keyless := by
  obtain ⟨found, counted, same⟩ := Option.map_eq_some_iff.1 h
  obtain ⟨outcome, merged, counted⟩ := Option.bind_eq_some_iff.1 counted
  obtain ⟨plan, divided, counted⟩ := Option.bind_eq_some_iff.1 counted
  obtain rfl := Option.some.inj counted
  exact ⟨outcome, plan, merged, ok_of_toOption divided, Prod.mk.inj same⟩

set_option maxRecDepth 100000 in
/-- With one key the shards hold the records of the record file. -/
theorem shardRecords_perm_parts : ∃ outcome plan,
    ofSheets? "parts" (partsKeyedBy "id") false = some outcome ∧
      outcome.table.partition = .ok plan ∧
      let table := OutputTable.ofMerge outcome.table []
      let layout : ShardLayout := ⟨outcome.table.name, outcome.table.groupField, plan⟩
      ((layout.shardRecords table Overlay.empty).flatten.map renderRecord).Perm
        ((table.records Overlay.empty table.keyedRows).map renderRecord) := by
  have counts : (recordCounts? "parts" (partsKeyedBy "id")).map (·.2.2) = some (2, 0) := by
    decide
  obtain ⟨outcome, plan, merged, divided, -, none⟩ := exists_of_recordCounts? counts
  obtain ⟨-, -, -, -, same⟩ := shardRecords_perm_iff merged divided [] Overlay.empty
  exact ⟨outcome, plan, merged, divided, same.2 (List.eq_nil_of_length_eq_zero none)⟩

set_option maxRecDepth 100000 in
/-- A row of a sheet without the key of the group is in a shard and not in the record file. -/
theorem not_shardRecords_perm : ¬ ∀ (group : String) (sheets : List IngestedSheet)
    (referenceOnly : Bool) (outcome : MergeOutcome) (plan : ShardPlan) (changed : List Nat)
    (overlay : Overlay), ofSheets? group sheets referenceOnly = some outcome →
      outcome.table.partition = .ok plan →
        let whole := OutputTable.ofMerge outcome.table changed
        let sharded := OutputTable.ofMerge { outcome.table with shards := some plan } changed
        let layout : ShardLayout := ⟨outcome.table.name, outcome.table.groupField, plan⟩
        ((layout.shardRecords sharded overlay).flatten.map renderRecord).Perm
          ((whole.records overlay whole.keyedRows).map renderRecord) := by
  intro all
  have counts : (recordCounts? "parts" (partsKeyedBy "code")).map (·.2.2) = some (1, 1) := by
    decide
  obtain ⟨outcome, plan, merged, divided, keyed, keyless⟩ := exists_of_recordCounts? counts
  have claimed := (all _ _ _ outcome plan [] Overlay.empty merged divided).length_eq
  have held := (flatten_shardRecords_perm merged divided [] Overlay.empty).length_eq
  rw [List.length_map, List.length_map] at claimed
  rw [List.length_append, keyed, keyless] at held
  exact absurd (held.symm.trans (claimed.trans keyed)) (by decide)

end MergeOutcome

end DesignTables
