import DesignTables.Proofs.Ingest.Rows

/-!
What is stored of a sheet: every value is what its column reads from the cell of its grid row, and
the element counts that these cells give are recorded. In a sheet without problems the types have
no objection to the values.
-/
namespace DesignTables

/-- Every value in the rows is read from a cell without a problem. -/
def Schema.ReadsClean (schema : Schema) (rows : List TableRow) : Prop :=
  ∀ row ∈ rows, ∀ given ∈ schema.slots, ∃ cell,
    (CellReading.ofCell given.1 cell).problems = [] ∧
      (CellReading.ofCell given.1 cell).value = row.value given.2

/-- A column of texts whose directives leave them as they are. -/
structure Column.KeepsText (column : Column) : Prop where
  type : column.dataType = some .string ∨ column.dataType = some .localText
  before : column.before = none
  after : column.after = none
  filled : column.nullAllowed = false

instance (column : Column) : Decidable column.KeepsText :=
  decidable_of_iff ((column.dataType = some .string ∨ column.dataType = some .localText) ∧
      column.before = none ∧ column.after = none ∧ column.nullAllowed = false)
    ⟨fun ⟨type, before, after, filled⟩ => ⟨type, before, after, filled⟩,
      fun ⟨type, before, after, filled⟩ => ⟨type, before, after, filled⟩⟩

namespace RowIngest

variable {schema : Schema} {grid : Grid} {ingest : RowIngest}

/-- The reading of the cell that a grid row has in a column. -/
def readingAt (grid : Grid) (row : Nat) (column : Column) : CellReading :=
  CellReading.ofCell column (grid.cell row column.gridColumn)

/-- What is known of rows that are read from a grid. -/
structure ReadsFrom (schema : Schema) (grid : Grid) (ingest : RowIngest) : Prop where
  values : ∀ row ∈ ingest.rows, ∀ given ∈ schema.slots,
    row.value given.2 = (readingAt grid row.row given.1).value
  problems : ingest.diagnostics = [] → ∀ row ∈ ingest.rows, ∀ given ∈ schema.slots,
    (readingAt grid row.row given.1).problems = []
  sizes : ∀ given ∈ schema.slots, ∀ row, ingest.sizes.get? schema.name given.2 row =
    if row ∈ ingest.rows.map (·.row) then (readingAt grid row given.1).size else none

/-- Storing a row records the count of each of its cells, unless the cell has one already. -/
theorem get?_sizes_store {column : Column} {slot : Nat} (place : (column, slot) ∈ schema.slots)
    (ingest : RowIngest) (row row' : Nat) :
    (store schema grid ingest row).sizes.get? schema.name slot row' =
      (ingest.sizes.get? schema.name slot row').or
        (if row' = row then (readingAt grid row column).size else none) := by
  let answer (cell : Column × Nat × CellReading) : Option Nat :=
    if row' = row ∧ cell.2.1 = slot then cell.2.2.size else none
  have own : (column, slot, readingAt grid row column) ∈ readings schema grid row :=
    List.mem_map_of_mem place
  have others : ∀ cell ∈ readings schema grid row,
      cell ≠ (column, slot, readingAt grid row column) → answer cell = none := by
    intro cell mem apart
    obtain ⟨⟨other, slot'⟩, known, rfl⟩ := List.mem_map.1 mem
    refine if_neg fun same => apart ?_
    obtain rfl : slot' = slot := same.2
    have here := Header.column?_of_mem_slots place
    rw [Header.column?_of_mem_slots known] at here
    rw [Option.some.inj here]
    rfl
  rw [store]
  refine (foldl_first_reading (fun sizes : SizeIndex => sizes.get? schema.name slot row') answer
    ?_ (readings schema grid row) ingest.sizes).trans ?_
  · rintro sizes ⟨other, slot', reading⟩
    dsimp only [answer]
    cases reading.size with
    | none => simp
    | some size =>
      dsimp only
      rw [SizeIndex.get?_record]
      by_cases same : row' = row ∧ slot' = slot
      · simp [same]
      · have apart : (schema.name, slot, row') ≠ (schema.name, slot', row) := by
          intro equal
          simp only [Prod.mk.injEq, true_and] at equal
          exact same ⟨equal.2, equal.1.symm⟩
        rw [if_neg apart, if_neg same, Option.or_none]
  · rw [findSome?_only own others]
    simp only [answer, and_true]

theorem readsFrom_empty (schema : Schema) (grid : Grid) : ReadsFrom schema grid empty where
  values _ mem := absurd mem List.not_mem_nil
  problems _ _ mem := absurd mem List.not_mem_nil
  sizes _ _ _ := rfl

theorem ReadsFrom.store (h : ReadsFrom schema grid ingest) (row : Nat) :
    ReadsFrom schema grid (RowIngest.store schema grid ingest row) where
  values stored mem := by
    rintro ⟨column, slot⟩ place
    rcases List.mem_append.1 mem with known | new
    · exact h.values stored known _ place
    · obtain rfl := List.mem_singleton.1 new
      have found : schema.columns[slot]? = some column := List.mk_mem_zipIdx_iff_getElem?.1 place
      rw [TableRow.value, List.getElem?_map, readings, Schema.slots, List.getElem?_map,
        List.getElem?_zipIdx, found]
      rfl
  problems clean stored mem := by
    obtain ⟨before, own⟩ := List.append_eq_nil_iff.1 clean
    rintro ⟨column, slot⟩ place
    rcases List.mem_append.1 mem with known | new
    · exact h.problems before stored known _ place
    · obtain rfl := List.mem_singleton.1 new
      have none := List.flatMap_eq_nil_iff.1 own (column, slot, readingAt grid row column)
        (List.mem_map_of_mem place)
      exact List.map_eq_nil_iff.1 none
  sizes := by
    rintro ⟨column, slot⟩ place row'
    have numbers : row' ∈ (RowIngest.store schema grid ingest row).rows.map (·.row) ↔
        row' ∈ ingest.rows.map (·.row) ∨ row' = row := by
      rw [RowIngest.store, List.map_append, List.mem_append]
      simp
    rw [get?_sizes_store place, h.sizes _ place]
    simp only [numbers]
    by_cases here : row' = row
    · -- A row that is stored again gives its cells the counts that they have.
      subst here
      have again : row' ∈ ingest.rows.map (·.row) ∨ row' = row' := .inr rfl
      rw [if_pos rfl, if_pos again]
      split
      · exact Option.or_self
      · exact Option.none_or
    · rw [if_neg here, Option.or_none]
      simp only [here, or_false]

theorem ReadsFrom.refuse (h : ReadsFrom schema grid ingest) (row : Nat) (key : String) :
    ReadsFrom schema grid (RowIngest.refuse schema ingest row key) :=
  ⟨h.values, fun clean => h.problems (List.append_eq_nil_iff.1 clean).1, h.sizes⟩

theorem readsFrom_ofGrid (schema : Schema) (grid : Grid) :
    ReadsFrom schema grid (ofGrid schema grid) :=
  ofGrid_induction (readsFrom_empty schema grid) (fun _ row known _ => known.store row)
    fun _ row key known => known.refuse row key

theorem readsClean_ofGrid (schema : Schema) (grid : Grid)
    (clean : (ofGrid schema grid).diagnostics = []) :
    schema.ReadsClean (ofGrid schema grid).rows := by
  have known := readsFrom_ofGrid schema grid
  intro row mem given place
  exact ⟨grid.cell row.row given.1.gridColumn, known.problems clean row mem given place,
    (known.values row mem given place).symm⟩

end RowIngest

theorem IngestedSheet.readsClean_ofSheet? {sheet : Sheet} {origin : SheetOrigin}
    {mergeGroups : List String} {ingested : IngestedSheet}
    (h : ofSheet? sheet origin mergeGroups = some ingested) (clean : ingested.diagnostics = []) :
    ingested.schema.ReadsClean ingested.rows := by
  obtain ⟨schema, _, rfl⟩ := Option.map_eq_some_iff.1 h
  dsimp only at clean ⊢
  split at clean
  · next header =>
    rw [if_pos header]
    exact RowIngest.readsClean_ofGrid _ _ clean
  · next header =>
    rw [if_neg header]
    exact fun row mem => absurd mem List.not_mem_nil

namespace Column

variable {column : Column} {value : String}

theorem elements_of_array (array : column.isArray = true) (filled : value ≠ "") :
    column.elements value = Text.splitProtected ',' value := by
  rw [elements, if_neg (by simpa using filled), if_pos array]

theorem elements_of_scalar (one : column.isArray = false) (filled : value ≠ "") :
    column.elements value = [value] := by
  rw [elements, if_neg (by simpa using filled), one, if_neg Bool.false_ne_true]

theorem elements_ne_nil (array : column.isArray = true) (filled : value ≠ "") :
    column.elements value ≠ [] := by
  rw [elements_of_array array filled, Text.splitProtected]
  exact fun none => Text.protectedPieces_ne_nil _ _ _ (List.map_eq_nil_iff.1 none)

end Column

namespace DataType

variable {value : String}

theorem isBoolText_iff : isBoolText value = true ↔
    Text.asciiLower value = "true" ∨ Text.asciiLower value = "false" := by
  have same : Text.asciiLower "true" = "true" ∧ Text.asciiLower "false" = "false" := by
    decide
  rw [isBoolText, Text.eqIgnoringCase, Text.eqIgnoringCase, same.1, same.2, Bool.or_eq_true,
    beq_iff_eq, beq_iff_eq]

/-- A boolean in small letters is one. -/
theorem isBoolText_asciiLower (h : isBoolText value = true) :
    isBoolText (Text.asciiLower value) = true := by
  rcases isBoolText_iff.1 h with word | word <;> rw [word] <;> decide

/-- Booleans have neither commas nor brackets. -/
theorem free_of_isBoolText (h : isBoolText value = true) :
    ',' ∉ value.toList ∧ '<' ∉ value.toList := by
  have free {mark : Char} (small : mark.toLower = mark)
      (foreign : mark ∉ "true".toList ∧ mark ∉ "false".toList) : mark ∉ value.toList := by
    intro mem
    have kept : mark ∈ (Text.asciiLower value).toList := by
      rw [Text.asciiLower, String.toList_ofList]
      exact List.mem_map.2 ⟨mark, mem, small⟩
    rcases isBoolText_iff.1 h with word | word
    · exact foreign.1 (word ▸ kept)
    · exact foreign.2 (word ▸ kept)
  exact ⟨free (by decide) (by decide), free (by decide) (by decide)⟩

/-- The codes with which the types refuse values. -/
def faultCodes : List Code :=
  [.intValueNull, .floatValueNull, .boolValueNull, .typeValueNull, .intValueError,
    .floatValueError, .boolValueError, .typeValueSpaceError, .stringValueQuoteError]

theorem mem_faultCodes {type : DataType} {code : Code} (h : type.fault value = some code) :
    code ∈ faultCodes := by
  rw [fault] at h
  split at h
  · cases type <;> cases h <;> decide
  · have refused {accepts : Prop} [Decidable accepts] {reason : Code} (mem : reason ∈ faultCodes) :
        (if accepts then none else some reason) = some code → code ∈ faultCodes := by
      intro h
      split at h <;> cases h
      exact mem
    have refusing {refuses : Prop} [Decidable refuses] {reason : Code} (mem : reason ∈ faultCodes) :
        (if refuses then some reason else none) = some code → code ∈ faultCodes := by
      intro h
      split at h <;> cases h
      exact mem
    cases type with
    | int | long | float | double | bool => exact refused (by decide) h
    | enumText | string => exact refusing (by decide) h
    | stream | localText => cases h

end DataType

namespace CellReading

variable {column : Column} {cell : Cell}

/-- The codes of the problems that a cell can have. -/
def problemCodes : List Code :=
  [.nullNotAllowed, .newlineInText, .arraySizeMismatch] ++ DataType.faultCodes

/-- A cell has problems of its own: with `null`, with line breaks, with the number of its elements
and with its type. -/
theorem mem_problemCodes {problem : Problem} (h : problem ∈ (ofCell column cell).problems) :
    problem.code ∈ problemCodes := by
  have fault {value : String} {code : Code} (h : (typeOf column).fault value = some code) :
      code ∈ problemCodes := List.mem_append_right _ (DataType.mem_faultCodes h)
  simp only [ofCell, List.mem_append, Option.mem_toList, Option.map_eq_some_iff] at h
  rcases h with ((null | line) | size) | ⟨code, found, rfl⟩
  · split at null
    · rw [List.mem_singleton.1 null]
      decide
    · cases null
  · split at line
    · rw [List.mem_singleton.1 line]
      decide
    · cases line
  · rw [sizeProblem] at size
    split at size
    · split at size
      · rw [List.mem_singleton.1 size]
        show Code.arraySizeMismatch ∈ problemCodes
        decide
      · cases size
    · cases size
  · rw [typeFault] at found
    split at found
    · obtain ⟨element, -, found⟩ := List.exists_of_findSome?_eq_some found
      exact fault found
    · exact fault found

/-- Without problems the type has nothing against the value of a plain column. -/
theorem fault_eq_none (clean : (ofCell column cell).problems = []) (plain : column.isArray = false) :
    (typeOf column).fault (decorated column (afterNull column (text column cell))) = none := by
  rw [ofCell, List.append_eq_nil_iff] at clean
  obtain ⟨-, faults⟩ := clean
  rw [typeFault, plain] at faults
  cases found : (typeOf column).fault (decorated column (afterNull column (text column cell))) with
  | none => rfl
  | some code =>
    rw [if_neg Bool.false_ne_true, found] at faults
    cases faults

theorem value_eq (column : Column) (cell : Cell) : (ofCell column cell).value =
    stored column (decorated column (afterNull column (text column cell))) := rfl

theorem stored_of_ne_bool {value : String} (other : typeOf column ≠ .bool) :
    stored column value = value := by
  rw [stored, if_neg]
  rw [Bool.and_eq_true, decide_eq_true_eq]
  exact fun both => other both.1

/-- A text that nothing is put around and that may not be missing is stored as it is shown. -/
theorem value_of_keepsText (h : column.KeepsText) (cell : Cell) :
    (ofCell column cell).value = cell.render := by
  have type : typeOf column = .string ∨ typeOf column = .localText := by
    rcases h.type with type | type <;> rw [typeOf, type] <;> simp
  have shown : text column cell = cell.render := by
    cases cell with
    | number x => rcases type with type | type <;> rw [text, type] <;> rfl
    | empty | text content | bool value => rfl
  have other : typeOf column ≠ .bool := by
    rcases type with type | type <;> rw [type] <;> decide
  rw [value_eq, stored_of_ne_bool other, shown, afterNull, h.filled, Bool.and_false, decorated,
    h.before, h.after]
  simp

end CellReading

end DesignTables
