import DesignTables.Index.KeyTable
import DesignTables.Text.Case

/-!
The values of origin columns, for look-ups from other tables.

An origin is a column under its lower-case name `table/title`. Each of its raw values resolves to
itself or to the value linked to it; the first recording of a raw value stands.
-/
namespace DesignTables

/-- What raw values resolve to, by the name of their origin. -/
structure ReferenceIndex where
  resolved : KeyTable (String × String) String

namespace ReferenceIndex

/-- The index without origins. -/
def empty : ReferenceIndex := ⟨KeyTable.empty⟩

/-- Records a raw value of an origin; an empty link leaves it resolved to itself. -/
def record (index : ReferenceIndex) (origin raw linked : String) : ReferenceIndex :=
  ⟨index.resolved.record (Text.lower origin, raw) (if linked.isEmpty then raw else linked)⟩

/-- Records everything another index holds. -/
def absorb (index other : ReferenceIndex) : ReferenceIndex :=
  ⟨index.resolved.absorb other.resolved⟩

/-- The names of the origins. -/
def origins (index : ReferenceIndex) : List String := (index.resolved.keys.map (·.1)).eraseDups

/-- Whether an origin has any value. -/
def hasOrigin (index : ReferenceIndex) (origin : String) : Bool :=
  index.resolved.entries.any (·.1.1 == origin)

/-- What a raw value of an origin resolves to. -/
def resolve? (index : ReferenceIndex) (origin raw : String) : Option String :=
  index.resolved.get? (origin, raw)

/-- The raw values of an origin with what they resolve to. -/
def valuesOf (index : ReferenceIndex) (origin : String) : List (String × String) :=
  (index.resolved.entries.filter (·.1.1 == origin)).map fun ((_, raw), value) => (raw, value)

/-- Whether some value of an origin resolves to something other than itself. -/
def substitutes (index : ReferenceIndex) (origin : String) : Bool :=
  (index.valuesOf origin).any fun (raw, value) => raw ≠ value

theorem resolve?_record (index : ReferenceIndex) (origin raw linked origin' raw' : String) :
    (index.record origin raw linked).resolve? origin' raw' =
      if (origin', raw') = (Text.lower origin, raw) then
        (index.resolve? (Text.lower origin) raw).or
          (some (if linked.isEmpty then raw else linked))
      else index.resolve? origin' raw' :=
  KeyTable.get?_record ..

theorem resolve?_absorb (index other : ReferenceIndex) (origin raw : String) :
    (index.absorb other).resolve? origin raw =
      (index.resolve? origin raw).or (other.resolve? origin raw) :=
  KeyTable.get?_absorb ..

end ReferenceIndex

end DesignTables
