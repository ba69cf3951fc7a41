import DesignTables.Merge.Unify
import DesignTables.Proofs.Ingest.Rows

/-!
# Where the values of an index of origins come from

Only an origin column is indexed, under its name in small letters, and only values of rows that are
stored. This holds for the rows of a sheet and for those of a merge table.
-/
namespace DesignTables

/-- Some row has a value in a column that is indexed under an origin. -/
def Schema.HoldsOrigin (schema : Schema) (rows : List TableRow) (origin raw : String) : Prop :=
  ∃ column slot, (column, slot) ∈ schema.slots ∧
    (∃ name, column.origin = some name ∧ Text.lower name = origin) ∧
    ∃ row ∈ rows, row.value slot = raw

/-- What resolves in the index is a value of an origin column in some row. -/
def ReferenceIndex.TracesTo (index : ReferenceIndex) (schema : Schema) (rows : List TableRow) :
    Prop :=
  ∀ origin raw, (index.resolve? origin raw).isSome → schema.HoldsOrigin rows origin raw

namespace ReferenceIndex

variable {schema : Schema} {rows : List TableRow} {index : ReferenceIndex}

theorem tracesTo_empty (schema : Schema) (rows : List TableRow) : empty.TracesTo schema rows := by
  intro origin raw found
  rw [resolve?_empty] at found
  cases found

theorem TracesTo.record (h : index.TracesTo schema rows) {name raw linked : String}
    (held : schema.HoldsOrigin rows (Text.lower name) raw) :
    (index.record name raw linked).TracesTo schema rows := by
  intro origin' raw' found
  rw [resolve?_record] at found
  split at found
  next same =>
    obtain ⟨rfl, rfl⟩ := Prod.mk.inj same
    exact held
  next => exact h origin' raw' found

end ReferenceIndex

/-- What the rows of a table index are values of theirs. -/
theorem RowIngest.tracesTo_originsOf (schema : Schema) (rows : List TableRow) :
    (originsOf schema rows).TracesTo schema rows := by
  refine originsOf_induction (P := fun now => now.TracesTo schema rows)
    (ReferenceIndex.tracesTo_empty _ _) ?_
  intro now traces row stored column slot place name named
  exact traces.record ⟨column, slot, place, ⟨name, named, rfl⟩, row, stored, rfl⟩

/-- What a sheet indexes are values of its rows. -/
theorem IngestedSheet.tracesTo_ofSheet? {sheet : Sheet} {origin : SheetOrigin}
    {mergeGroups : List String} {ingested : IngestedSheet}
    (h : ofSheet? sheet origin mergeGroups = some ingested) :
    ingested.origins.TracesTo ingested.schema ingested.rows := by
  rw [origins_ofSheet? h]
  exact RowIngest.tracesTo_originsOf _ _

namespace MergeOutcome

variable {group : String} {sheets : List IngestedSheet} {referenceOnly : Bool}
  {outcome : MergeOutcome}

/-- A merge group indexes the rows of its table. -/
theorem origins_ofSheets? (h : ofSheets? group sheets referenceOnly = some outcome) :
    outcome.origins = RowIngest.originsOf outcome.table.schema outcome.table.rows := by
  obtain ⟨first, _, h⟩ := Option.bind_eq_some_iff.1 h
  obtain ⟨header, _, h⟩ := Option.bind_eq_some_iff.1 h
  obtain rfl := Option.some.inj h
  rfl

/-- What a merge group indexes are values of the rows of its table. -/
theorem tracesTo_ofSheets? (h : ofSheets? group sheets referenceOnly = some outcome) :
    outcome.origins.TracesTo outcome.table.schema outcome.table.rows := by
  rw [origins_ofSheets? h]
  exact RowIngest.tracesTo_originsOf _ _

end MergeOutcome

end DesignTables
