import DesignTables.Ingest.Sheet
import DesignTables.Proofs.Header.Columns
import DesignTables.Proofs.Index.Unions
import DesignTables.Proofs.Lists

/-!
# The rows of a table, and what they put into the index of origins

A row is stored, refused or passed over, so what storing and refusing keep holds of all rows of a
sheet. Stored rows have different numbers. The index of a table is that of its rows one after the
other, so a value of an origin resolves as the first row that has it says.
-/
namespace DesignTables

theorem ReferenceIndex.resolve?_empty (origin raw : String) : empty.resolve? origin raw = none := rfl

namespace RowIngest

variable {schema : Schema} {grid : Grid} {ingest : RowIngest}

/-- What holds of nothing, and is kept where a data row is stored and where it is refused, holds of the
rows of a grid. -/
theorem ofGrid_induction {P : RowIngest → Prop} (begun : P empty)
    (stored : ∀ now row, P now → row ∈ dataRows grid → P (store schema grid now row))
    (refused : ∀ now row key, P now → P (refuse schema now row key)) : P (ofGrid schema grid) := by
  rw [ofGrid]
  split
  · exact List.foldlRecOn (motive := P) ((dataRows grid).take 1) _ begun
      fun now known row mem => stored now row known (List.mem_of_mem_take mem)
  · refine List.foldlRecOn (motive := fun now : RowIngest × List String => P now.1) (dataRows grid) _
      begun fun now known row mem => ?_
    simp only [takeRow]
    split
    · exact known
    · split
      · exact refused _ _ _ known
      · exact stored _ _ known mem

/-- What is kept where the element count of a cell is recorded is kept where a row is stored. -/
theorem sizes_store_induction {P : SizeIndex → Prop} {row : Nat} (begun : P ingest.sizes)
    (recorded : ∀ now, P now → ∀ column slot size, (column, slot) ∈ schema.slots →
      P (now.record schema.name slot row size)) : P (store schema grid ingest row).sizes := by
  rw [store]
  refine List.foldlRecOn (motive := P) (readings schema grid row) _ begun ?_
  rintro now known ⟨column, slot, reading⟩ mem
  obtain ⟨given, place, same⟩ := List.mem_map.1 mem
  obtain ⟨rfl, rest⟩ := Prod.mk.inj same
  obtain ⟨rfl, -⟩ := Prod.mk.inj rest
  dsimp only
  split
  · exact recorded now known given.1 given.2 _ place
  · exact known

/-- The origin columns of some rows, indexed row by row. -/
def originsOf (schema : Schema) (rows : List TableRow) : ReferenceIndex :=
  rows.foldl (fun origins row => recordOrigins schema row origins) ReferenceIndex.empty

/-- What holds of an empty index and is kept where a value of an origin column is recorded holds of the
index of a table. -/
theorem originsOf_induction {P : ReferenceIndex → Prop} {rows : List TableRow}
    (begun : P ReferenceIndex.empty)
    (recorded : ∀ now, P now → ∀ row ∈ rows, ∀ column slot, (column, slot) ∈ schema.slots →
      ∀ name, column.origin = some name →
        P (now.record name (row.value slot) ((column.change.map row.value).getD ""))) :
    P (originsOf schema rows) := by
  rw [originsOf]
  refine List.foldlRecOn (motive := P) rows _ begun fun now known row stored => ?_
  rw [recordOrigins]
  refine List.foldlRecOn (motive := P) schema.slots _ known ?_
  rintro now known ⟨column, slot⟩ place
  dsimp only
  split
  next name named => exact recorded now known row stored column slot place name named
  next => exact known

/-- What is known of rows that are stored: their numbers are among those met, in their order, and
the index is theirs. -/
structure Stores (schema : Schema) (met : List Nat) (ingest : RowIngest) : Prop where
  numbers : (ingest.rows.map (·.row)).Sublist met
  origins : ingest.origins = originsOf schema ingest.rows

theorem Stores.store {met : List Nat} {ingest : RowIngest} (h : Stores schema met ingest)
    (grid : Grid) (row : Nat) : Stores schema (met ++ [row]) (RowIngest.store schema grid ingest row) := by
  refine ⟨?_, ?_⟩
  · change ((ingest.rows ++ [_]).map fun stored : TableRow => stored.row).Sublist _
    rw [List.map_append]
    exact h.numbers.append (List.Sublist.refl _)
  · change recordOrigins schema _ ingest.origins = originsOf schema (ingest.rows ++ [_])
    rw [h.origins, originsOf, originsOf, List.foldl_append]
    rfl

theorem Stores.takeRow {met : List Nat} {state : RowIngest × List String}
    (h : Stores schema met state.1) (grid : Grid) (row : Nat) :
    Stores schema (met ++ [row]) (RowIngest.takeRow schema grid state row).1 := by
  have skipped : Stores schema (met ++ [row]) state.1 :=
    ⟨h.numbers.trans (List.sublist_append_left _ _), h.origins⟩
  simp only [RowIngest.takeRow]
  split
  · exact skipped
  · split
    · exact ⟨skipped.numbers, skipped.origins⟩
    · exact h.store grid row

theorem stores_empty (schema : Schema) : Stores schema [] empty := ⟨List.Sublist.refl _, rfl⟩

theorem stores_ofGrid (schema : Schema) (grid : Grid) :
    Stores schema (dataRows grid) (ofGrid schema grid) := by
  rw [ofGrid]
  split
  · have stored : Stores schema ((dataRows grid).take 1)
        (((dataRows grid).take 1).foldl (store schema grid) empty) :=
      foldl_passes (stores_empty schema) fun _ row _ _ _ known => known.store grid row
    exact ⟨stored.numbers.trans (List.take_sublist _ _), stored.origins⟩
  · exact foldl_passes (P := fun met (now : RowIngest × List String) => Stores schema met now.1)
      (stores_empty schema) fun _ row _ _ _ known => known.takeRow grid row

/-- No two rows of a sheet have one number. -/
theorem nodup_numbers_ofGrid (schema : Schema) (grid : Grid) :
    ((ofGrid schema grid).rows.map (·.row)).Nodup := by
  have met : (dataRows grid).Nodup := List.nodup_range.sublist (List.drop_sublist _ _)
  exact met.sublist (stores_ofGrid schema grid).numbers

/-- What a value of a column is indexed to: the value that its `change` directive names in the row,
or itself where that one is empty. -/
def indexedValue (column : Column) (row : TableRow) (raw : String) : String :=
  let linked := (column.change.map row.value).getD ""
  if linked.isEmpty then raw else linked

/-- One step of indexing a row: the value of a column that has an origin. -/
def recordOrigin (row : TableRow) (origins : ReferenceIndex) (given : Column × Nat) :
    ReferenceIndex :=
  match given.1.origin with
  | some origin =>
    origins.record origin (row.value given.2) ((given.1.change.map row.value).getD "")
  | none => origins

theorem recordOrigins_eq (row : TableRow) (origins : ReferenceIndex) :
    recordOrigins schema row origins = schema.slots.foldl (recordOrigin row) origins := rfl

/-- What a row adds to the values of an origin that it has in one column alone. -/
theorem resolve?_recordOrigins {column : Column} {slot : Nat} (mem : (column, slot) ∈ schema.slots)
    {origin : String} (declared : column.origin.map Text.lower = some origin)
    (only : ∀ given ∈ schema.slots, given.1.origin.map Text.lower = some origin → given.2 = slot)
    (row : TableRow) (index : ReferenceIndex) (raw : String) :
    (recordOrigins schema row index).resolve? origin raw =
      (index.resolve? origin raw).or
        (if row.value slot = raw then some (indexedValue column row raw) else none) := by
  let answer (given : Column × Nat) : Option String :=
    if given.1.origin.map Text.lower = some origin ∧ row.value given.2 = raw then
      some (indexedValue given.1 row raw) else none
  have first : ∀ (now : ReferenceIndex) (given : Column × Nat),
      (recordOrigin row now given).resolve? origin raw =
        (now.resolve? origin raw).or (answer given) := by
    rintro now ⟨given, slot'⟩
    dsimp only [answer, recordOrigin]
    cases given.origin with
    | none => exact (Option.or_none).symm
    | some name =>
      dsimp only
      rw [ReferenceIndex.resolve?_record]
      simp only [Option.map_some, Option.some.injEq]
      by_cases same : Text.lower name = origin ∧ row.value slot' = raw
      · rw [if_pos same, if_pos (Prod.ext same.1.symm same.2.symm), same.1, same.2]
        rfl
      · rw [if_neg same, if_neg, Option.or_none]
        exact fun equal => same ⟨(Prod.mk.inj equal).1.symm, (Prod.mk.inj equal).2.symm⟩
  have others : ∀ given ∈ schema.slots, given ≠ (column, slot) → answer given = none := by
    rintro ⟨given, slot'⟩ known apart
    refine if_neg fun same => apart ?_
    obtain rfl := only _ known same.1
    have here := Header.column?_of_mem_slots mem
    rw [Header.column?_of_mem_slots known] at here
    rw [Option.some.inj here]
  rw [recordOrigins_eq]
  refine (foldl_first_reading (fun now : ReferenceIndex => now.resolve? origin raw) answer first
    schema.slots index).trans ?_
  rw [findSome?_only mem others]
  simp only [answer, declared, true_and]

/-- A value of an origin resolves as the first row says that has it in the origin's column. -/
theorem resolve?_originsOf {column : Column} {slot : Nat} (mem : (column, slot) ∈ schema.slots)
    {origin : String} (declared : column.origin.map Text.lower = some origin)
    (only : ∀ given ∈ schema.slots, given.1.origin.map Text.lower = some origin → given.2 = slot)
    (rows : List TableRow) (raw : String) :
    (originsOf schema rows).resolve? origin raw =
      (rows.find? (·.value slot == raw)).map fun row => indexedValue column row raw := by
  rw [originsOf, foldl_first_reading (fun now : ReferenceIndex => now.resolve? origin raw)
    (fun row => if row.value slot = raw then some (indexedValue column row raw) else none)
    (fun now row => resolve?_recordOrigins mem declared only row now raw),
    ReferenceIndex.resolve?_empty, Option.none_or]
  induction rows with
  | nil => rfl
  | cons row rows ih =>
    rw [List.findSome?_cons, List.find?_cons, ih]
    by_cases here : row.value slot = raw
    · rw [if_pos here, beq_iff_eq.2 here]
      rfl
    · rw [if_neg here, beq_eq_false_iff_ne.2 here]

end RowIngest

namespace IngestedSheet

variable {sheet : Sheet} {origin : SheetOrigin} {mergeGroups : List String}
  {ingested : IngestedSheet}

/-- A sheet indexes its rows. -/
theorem origins_ofSheet? (h : ofSheet? sheet origin mergeGroups = some ingested) :
    ingested.origins = RowIngest.originsOf ingested.schema ingested.rows := by
  obtain ⟨schema, _, rfl⟩ := Option.map_eq_some_iff.1 h
  dsimp only
  split
  · exact (RowIngest.stores_ofGrid _ _).origins
  · rfl

theorem nodup_numbers_ofSheet? (h : ofSheet? sheet origin mergeGroups = some ingested) :
    (ingested.rows.map (·.row)).Nodup := by
  obtain ⟨schema, _, rfl⟩ := Option.map_eq_some_iff.1 h
  dsimp only
  split
  · exact RowIngest.nodup_numbers_ofGrid _ _
  · exact List.nodup_nil

end IngestedSheet

end DesignTables
