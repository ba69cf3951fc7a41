import DesignTables.Index.KeyTable

/-!
The values that are written in place of ingested ones, by table, row and slot.

Ingested values never change; what is written reads the overlay first. Within one table a later
value of a cell replaces an earlier one; of two overlays that are put together the first stands.
-/
namespace DesignTables

/-- Values to write in place of ingested ones. -/
structure Overlay where
  values : KeyTable (String × Nat × Nat) String

namespace Overlay

/-- The overlay without values. -/
def empty : Overlay := ⟨KeyTable.empty⟩

/-- Sets the value of a cell. -/
def set (overlay : Overlay) (table : String) (row slot : Nat) (value : String) : Overlay :=
  ⟨overlay.values.set (table, row, slot) value⟩

/-- The value of a cell, if it has one. -/
def get? (overlay : Overlay) (table : String) (row slot : Nat) : Option String :=
  overlay.values.get? (table, row, slot)

/-- Takes the values of another overlay for the cells that have none. -/
def absorb (overlay other : Overlay) : Overlay := ⟨overlay.values.absorb other.values⟩

/-- The number of values. -/
def size (overlay : Overlay) : Nat := overlay.values.size

theorem get?_set (overlay : Overlay) (table : String) (row slot : Nat) (value : String)
    (table' : String) (row' slot' : Nat) :
    (overlay.set table row slot value).get? table' row' slot' =
      if (table', row', slot') = (table, row, slot) then some value
      else overlay.get? table' row' slot' :=
  KeyTable.get?_set ..

theorem get?_absorb (overlay other : Overlay) (table : String) (row slot : Nat) :
    (overlay.absorb other).get? table row slot =
      (overlay.get? table row slot).or (other.get? table row slot) :=
  KeyTable.get?_absorb ..

end Overlay

end DesignTables
