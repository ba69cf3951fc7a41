import DesignTables.Table.Schema

/-!
Merge tables: the sheets of a group as one table, with the source of every cell, and the shards
that such a table is written in.
-/
namespace DesignTables

/-- Where the value of a merged cell came from. -/
structure CellProvenance where
  /-- The position of the sheet among the sources of the table. -/
  source : Nat
  /-- The grid row in that sheet, counted from zero. -/
  row : Nat
  /-- The grid column in that sheet; absent for a value that the sheet lacks. -/
  column : Option Nat
  value : String
deriving DecidableEq, Repr

/-- The rows of one shard file. -/
structure Shard where
  /-- The number of the shard, counted from one. -/
  number : Nat
  /-- The keys whose rows are in the shard, in ascending order. -/
  keys : List Int
  /-- The positions of those rows in the table. -/
  rows : List Nat
deriving DecidableEq, Repr

/-- The division of a merge table into shards. -/
structure ShardPlan where
  shards : List Shard
deriving DecidableEq, Repr

namespace ShardPlan

/-- Every key with the number of its shard. -/
def indexEntries (plan : ShardPlan) : List (Int × Nat) :=
  plan.shards.flatMap fun shard => shard.keys.map fun key => (key, shard.number)

/-- The shard of a key. -/
def shardOf? (plan : ShardPlan) (key : Int) : Option Nat :=
  (plan.shards.find? (·.keys.contains key)).map (·.number)

end ShardPlan

/-- The sheets of a merge group as one table. -/
structure MergeTable where
  name : String
  groupField : String
  shardSize : Nat
  /-- The contributing sheets in the order of their discovery. -/
  sources : List SheetOrigin
  schema : Schema
  rows : List TableRow
  /-- The source of every cell, by row and slot. -/
  provenance : List (List CellProvenance)
  shards : Option ShardPlan
  /-- The table serves look-ups only; it is neither validated nor written. -/
  referenceOnly : Bool
deriving DecidableEq, Repr

namespace MergeTable

/-- The slot of the group field. -/
def groupSlot? (table : MergeTable) : Option Nat := table.schema.findSlot? table.groupField

/-- The values of the group field, each once and in ascending order. -/
def groupIds (table : MergeTable) : List String :=
  match table.groupSlot? with
  | none => []
  | some slot =>
    (table.rows.map (·.value slot)).eraseDups.mergeSort fun a b => decide (a ≤ b)

/-- The source sheet of a cell, and where it stands there. -/
def provenanceAt? (table : MergeTable) (position slot : Nat) :
    Option (SheetOrigin × CellProvenance) := do
  let cells ← table.provenance[position]?
  let cell ← cells[slot]?
  let origin ← table.sources[cell.source]?
  return (origin, cell)

end MergeTable

end DesignTables
