import DesignTables.Merge.Table

/-!
The division of a merge table into shards by its group field.

Each shard takes the next keys in ascending order, as many as the table's shard size says, with all
of their rows. Every key must be an integer.
-/
namespace DesignTables.MergeTable

/-- The rows whose group field is an integer: its value and the position of the row. -/
def keyedPositions (table : MergeTable) (slot : Nat) : List (Int × Nat) :=
  table.rows.zipIdx.filterMap fun (row, position) =>
    (readInt64? (row.value slot)).map fun key => (key, position)

/-- The rows whose group field is no integer, reported where their cells came from. -/
def shardKeyProblems (table : MergeTable) (slot : Nat) : List Diagnostic :=
  table.rows.zipIdx.filterMap fun (row, position) =>
    match readInt64? (row.value slot) with
    | some _ => none
    | none => (table.provenanceAt? position slot).map fun (origin, cell) =>
      Diagnostic.of (.shardKeyNotInteger (row.value slot)) origin table.groupField cell.row
        (cell.column.getD 0)

/-- The distinct keys in ascending order. -/
def sortedKeys (keyed : List (Int × Nat)) : List Int :=
  ((keyed.map (·.1)).mergeSort fun a b => decide (a ≤ b)).eraseDups

/-- The positions of the rows of a key. -/
def positionsOf (keyed : List (Int × Nat)) (key : Int) : List Nat :=
  (keyed.filter (·.1 == key)).map (·.2)

/-- The shard of some keys. -/
def shardOfKeys (keyed : List (Int × Nat)) (number : Nat) (keys : List Int) : Shard :=
  ⟨number, keys, keys.flatMap (positionsOf keyed)⟩

/-- Shards of a size for some rows. -/
def planFor (size : Nat) (keyed : List (Int × Nat)) : ShardPlan :=
  let keys := sortedKeys keyed
  let count := (keys.length + size - 1) / size
  ⟨(List.range count).map fun i =>
    shardOfKeys keyed (i + 1) ((keys.drop (i * size)).take size)⟩

/-- Divides a table into shards, or reports why that is impossible. -/
def partition (table : MergeTable) : Except (List Diagnostic) ShardPlan :=
  match table.groupSlot? with
  | none =>
    .error [Diagnostic.of (.missingShardColumn table.name table.groupField) table.schema.origin
      table.groupField Header.directiveRow 0]
  | some slot =>
    let problems := table.shardKeyProblems slot
    if problems.isEmpty then .ok (planFor (max table.shardSize 1) (table.keyedPositions slot))
    else .error problems

end DesignTables.MergeTable
