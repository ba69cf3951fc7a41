import DesignTables.Merge.Unify
import DesignTables.Proofs.Ingest.Rows

/-!
Whose element counts a table records: a sheet counts its own cells, and a merge group those of its
merge table, both under their own name.
-/
namespace DesignTables

/-- All element counts are those of one table. -/
def SizeIndex.BelongsTo (index : SizeIndex) (table : String) : Prop :=
  ∀ name slot row, (index.get? name slot row).isSome → name = table

namespace SizeIndex

variable {index : SizeIndex} {table : String}

theorem belongsTo_empty (table : String) : empty.BelongsTo table := by
  intro name slot row found
  cases found

theorem BelongsTo.record (h : index.BelongsTo table) (slot row size : Nat) :
    (index.record table slot row size).BelongsTo table := by
  intro name slot' row' found
  rw [get?_record] at found
  split at found
  next same => exact congrArg (·.1) same
  next => exact h name slot' row' found

theorem BelongsTo.get?_eq_none (h : index.BelongsTo table) {name : String} (apart : name ≠ table)
    (slot row : Nat) : index.get? name slot row = none := by
  rw [← Option.not_isSome_iff_eq_none]
  exact fun found => apart (h name slot row found)

end SizeIndex

theorem RowIngest.belongsTo_ofGrid (schema : Schema) (grid : Grid) :
    (ofGrid schema grid).sizes.BelongsTo schema.name := by
  refine ofGrid_induction (P := fun now => now.sizes.BelongsTo schema.name)
    (SizeIndex.belongsTo_empty _) ?_ fun _ _ _ own => own
  intro now row own _
  exact sizes_store_induction (P := fun sizes => sizes.BelongsTo schema.name) own
    fun _ own _ _ _ _ => own.record _ _ _

theorem IngestedSheet.belongsTo_ofSheet? {sheet : Sheet} {origin : SheetOrigin}
    {mergeGroups : List String} {ingested : IngestedSheet}
    (h : ofSheet? sheet origin mergeGroups = some ingested) :
    ingested.sizes.BelongsTo ingested.name := by
  obtain ⟨schema, _, rfl⟩ := Option.map_eq_some_iff.1 h
  dsimp only
  split
  · exact RowIngest.belongsTo_ofGrid _ _
  · exact SizeIndex.belongsTo_empty _

namespace Merge

theorem belongsTo_mergedSizes (group : String) (schema : Schema) (rows : List SourceRow) :
    (mergedSizes group schema rows).BelongsTo group := by
  rw [mergedSizes]
  refine List.foldlRecOn (motive := fun now : SizeIndex => now.BelongsTo group) rows.zipIdx _
    (SizeIndex.belongsTo_empty _) ?_
  rintro now own ⟨row, position⟩ _
  refine List.foldlRecOn (motive := fun now : SizeIndex => now.BelongsTo group) schema.slots _
    own ?_
  rintro now own ⟨column, slot⟩ _
  dsimp only
  split
  · exact own.record _ _ _
  · exact own

end Merge

theorem MergeOutcome.belongsTo_ofSheets? {group : String} {sheets : List IngestedSheet}
    {referenceOnly : Bool} {outcome : MergeOutcome}
    (h : ofSheets? group sheets referenceOnly = some outcome) :
    outcome.sizes.BelongsTo group := by
  obtain ⟨first, _, h⟩ := Option.bind_eq_some_iff.1 h
  obtain ⟨header, _, h⟩ := Option.bind_eq_some_iff.1 h
  obtain rfl := Option.some.inj h
  exact Merge.belongsTo_mergedSizes _ _ _

end DesignTables
