import DesignTables.Index.KeyTable

/-!
The element counts of cells, by table, slot and row. The first recording of a cell stands.
-/
namespace DesignTables

/-- The recorded element counts. -/
structure SizeIndex where
  sizes : KeyTable (String × Nat × Nat) Nat

namespace SizeIndex

/-- The index without counts. -/
def empty : SizeIndex := ⟨KeyTable.empty⟩

/-- Records the element count of a cell. -/
def record (index : SizeIndex) (table : String) (slot row size : Nat) : SizeIndex :=
  ⟨index.sizes.record (table, slot, row) size⟩

/-- The element count of a cell. -/
def get? (index : SizeIndex) (table : String) (slot row : Nat) : Option Nat :=
  index.sizes.get? (table, slot, row)

/-- Records everything another index holds. -/
def absorb (index other : SizeIndex) : SizeIndex := ⟨index.sizes.absorb other.sizes⟩

/-- The number of recorded counts. -/
def count (index : SizeIndex) : Nat := index.sizes.size

theorem get?_record (index : SizeIndex) (table : String) (slot row size : Nat)
    (table' : String) (slot' row' : Nat) :
    (index.record table slot row size).get? table' slot' row' =
      if (table', slot', row') = (table, slot, row) then (index.get? table slot row).or (some size)
      else index.get? table' slot' row' :=
  KeyTable.get?_record ..

theorem get?_absorb (index other : SizeIndex) (table : String) (slot row : Nat) :
    (index.absorb other).get? table slot row =
      (index.get? table slot row).or (other.get? table slot row) :=
  KeyTable.get?_absorb ..

end SizeIndex

end DesignTables
