import DesignTables.Proofs.Header.Steps
import DesignTables.Proofs.Merge.Placement

/-!
# The key of a merge table

A column becomes the key of the table when it is the first with its title and the key of its sheet,
and it stays as unique as it was. No two columns of the first sheet share a title, so each of them
gets a column of its own: the table has a key when that sheet has one.
-/
namespace DesignTables

namespace Merge

variable {group : String} {source schema : Schema} {unified : Unified} {column : Column}

/-- Placing a column keeps the key unique, if the column is unique where it is the key. -/
theorem keyIsUnique_placeColumn (h : unified.schema.KeyIsUnique) (apart : column.KeyIsApart) :
    (placeColumn group source unified column).schema.KeyIsUnique := by
  have grown {added : Schema} {renamed : Column}
      (columns : added.columns = unified.schema.columns ++ [renamed]) {slot : Nat}
      (key : slot ∈ unified.schema.key) : ∃ c, added.column? slot = some c ∧
        c.isKey = true ∧ c.isUnique = true := by
    obtain ⟨c, place, flags⟩ := h slot key
    refine ⟨c, ?_, flags⟩
    rw [Schema.column?, columns, List.getElem?_append_left (Schema.lt_of_column? place)]
    exact place
  rw [placeColumn]
  split
  · exact h
  · intro slot key
    dsimp only at key
    split at key
    next flagged =>
      rcases Option.or_eq_some_iff.1 key with held | ⟨-, taken⟩
      · exact grown rfl held
      · obtain rfl := Option.some.inj taken
        refine ⟨_, List.getElem?_concat_length, flagged, ?_⟩
        exact (apart flagged).1
    next => exact grown rfl key

theorem keyIsUnique_linkColumn (h : schema.KeyIsUnique) (placements : List Placement)
    (isNew : Bool) (column : Column) (place : Nat) :
    (schema.modifyColumn place (linkColumn placements isNew column)).KeyIsUnique := by
  intro slot key
  obtain ⟨c, stands, isKey, isUnique⟩ := h slot key
  rw [Schema.column?_modifyColumn, stands]
  refine ⟨_, rfl, ?_⟩
  split
  · cases isNew <;> exact ⟨isKey, isUnique⟩
  · exact ⟨isKey, isUnique⟩

/-- A table that has a key keeps it, and a new column that is the key of its sheet gives one. -/
theorem isSome_key_placeColumn
    (h : unified.schema.key.isSome ∨
      column.isKey = true ∧ unified.schema.slotOf? column.title = none) :
    (placeColumn group source unified column).schema.key.isSome := by
  rw [placeColumn]
  split
  next known =>
    refine h.resolve_right ?_
    rintro ⟨-, new⟩
    rw [known] at new
    cases new
  · dsimp only
    split
    next flagged => simp
    next plain => exact h.resolve_right fun own => plain own.1

theorem isSome_key_placeColumns (h : unified.schema.key.isSome) (columns : List Column) :
    (columns.foldl (placeColumn group source) unified).schema.key.isSome :=
  List.foldlRecOn (motive := fun now : Unified => now.schema.key.isSome) columns _ h
    fun _ keyed _ _ => isSome_key_placeColumn (.inl keyed)

/-- Columns with titles that are new give the table a key, if one of them is the key of its sheet. -/
theorem isSome_key_of_new {columns : List Column}
    (titles : (unified.schema.titles ++ columns.map (·.title)).Nodup) (mem : column ∈ columns)
    (flagged : column.isKey = true) :
    (columns.foldl (placeColumn group source) unified).schema.key.isSome := by
  induction columns generalizing unified with
  | nil => exact absurd mem List.not_mem_nil
  | cons first rest ih =>
    rw [List.map_cons] at titles
    have new : unified.schema.slotOf? first.title = none := by
      have apart := (List.nodup_middle.1 titles).notMem
      rw [Schema.slotOf?_eq, List.findIdx?_eq_none_iff]
      intro title known
      rw [beq_eq_false_iff_ne]
      rintro rfl
      exact apart (List.mem_append_left _ known)
    rw [List.foldl_cons]
    rcases List.mem_cons.1 mem with rfl | later
    · exact isSome_key_placeColumns (isSome_key_placeColumn (.inr ⟨flagged, new⟩)) rest
    · refine ih ?_ later
      obtain ⟨added, renamed, result, columns, same, -⟩ := placeColumn_of_new group source new
      have grown : added.titles = unified.schema.titles ++ [first.title] := by
        rw [Schema.titles, columns, List.map_append, Schema.titles, ← same]
        rfl
      rw [result, grown, List.append_assoc, List.singleton_append]
      exact titles

theorem isSome_key_addSheet {merged : Structure} (h : merged.schema.key.isSome)
    (sheet : IngestedSheet) : (addSheet group merged sheet).schema.key.isSome := by
  rw [addSheet, key_linkColumns]
  exact isSome_key_placeColumns h _

end Merge

namespace MergeOutcome

variable {group : String} {sheets : List IngestedSheet} {referenceOnly : Bool}
  {outcome : MergeOutcome}

/-- The key of a merge table is unique, if those of its sheets are. -/
theorem keyIsUnique_ofSheets? (h : ofSheets? group sheets referenceOnly = some outcome)
    (apart : ∀ sheet ∈ sheets, ∀ c ∈ sheet.schema.columns, c.KeyIsApart) :
    outcome.table.schema.KeyIsUnique := by
  obtain ⟨first, -, h⟩ := Option.bind_eq_some_iff.1 h
  obtain ⟨header, -, h⟩ := Option.bind_eq_some_iff.1 h
  obtain rfl := Option.some.inj h
  refine Merge.addSheets_induction (P := Schema.KeyIsUnique) ?_
    (fun _ unique sheet mem c inside => Merge.keyIsUnique_placeColumn unique (apart sheet mem c inside))
    fun _ unique => Merge.keyIsUnique_linkColumn unique
  intro slot key
  cases key

/-- A merge table has a key, if its first sheet has one and uses no title twice. -/
theorem isSome_key_ofSheets? (h : ofSheets? group sheets referenceOnly = some outcome)
    (keyed : ∀ sheet ∈ sheets, sheet.schema.titles.Nodup ∧
      ∃ column ∈ sheet.schema.columns, column.isKey = true) :
    outcome.table.schema.key.isSome := by
  obtain ⟨first, head, h⟩ := Option.bind_eq_some_iff.1 h
  obtain ⟨header, -, h⟩ := Option.bind_eq_some_iff.1 h
  obtain rfl := Option.some.inj h
  obtain ⟨rest, rfl⟩ := List.head?_eq_some_iff.1 head
  obtain ⟨titles, column, mem, flagged⟩ := keyed first List.mem_cons_self
  refine List.foldlRecOn (motive := fun now : Merge.Structure => now.schema.key.isSome) rest _ ?_
    fun _ kept sheet _ => Merge.isSome_key_addSheet kept sheet
  rw [Merge.addSheet, Merge.key_linkColumns]
  exact Merge.isSome_key_of_new titles mem flagged

end MergeOutcome

end DesignTables
