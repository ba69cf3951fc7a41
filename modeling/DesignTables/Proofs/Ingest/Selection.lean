import DesignTables.Proofs.Header.Links
import DesignTables.Proofs.Ingest.Readings
import DesignTables.Proofs.Ingest.Sizes

/-!
# Which rows of a sheet are stored, and what else comes of it

A keyed table stores the first row of every key and reports each later one; a table that is a
single record stores its first data row. All other diagnostics, all element counts and all values
of origins come from the rows that are stored.
-/
namespace DesignTables

namespace RowIngest

/-- The row has a key, and no data row above it has the same one. -/
def IsFirst (key : Nat → String) (row : Nat) : Prop :=
  key row ≠ "" ∧ ∀ above < row, Header.firstDataRow ≤ above → key above ≠ key row

/-- The row has a key, and some data row above it has the same one. -/
def IsRepeated (key : Nat → String) (row : Nat) : Prop :=
  key row ≠ "" ∧ ∃ above < row, Header.firstDataRow ≤ above ∧ key above = key row

instance (key : Nat → String) (row : Nat) : Decidable (IsFirst key row) :=
  inferInstanceAs (Decidable (_ ∧ _))

instance (key : Nat → String) (row : Nat) : Decidable (IsRepeated key row) :=
  inferInstanceAs (Decidable (_ ∧ _))

/-- What a row shows in a column. -/
def shownAt (grid : Grid) (column : Column) (row : Nat) : String :=
  (grid.cell row column.gridColumn).render

/-- The diagnostics of the cells of a grid row. -/
def problemsAt (schema : Schema) (grid : Grid) (row : Nat) : List Diagnostic :=
  schema.slots.flatMap fun given => (readingAt grid row given.1).problems.map fun problem =>
    Diagnostic.of problem schema.origin given.1.title row given.1.gridColumn

/-- What the rows of a keyed table come to, given the column of its keys: the first row of every
key is stored and each later one is reported at its key. -/
structure SelectsFirsts (schema : Schema) (grid : Grid) (ingest : RowIngest) (column : Column) :
    Prop where
  numbers : ingest.rows.map (·.row) = (dataRows grid).filter (IsFirst (shownAt grid column))
  repeated : ingest.diagnostics.filter (·.code == .duplicateKey) =
    ((dataRows grid).filter (IsRepeated (shownAt grid column))).map fun row =>
      Diagnostic.of (.repeatedKey (shownAt grid column row)) schema.origin column.title row
        column.gridColumn

/-- What the rows of a grid come to. -/
structure SelectsRows (schema : Schema) (grid : Grid) (ingest : RowIngest) : Prop where
  keyed : schema.options.valueOnly = false → ∃ column slot, schema.key = some slot ∧
    (column, slot) ∈ schema.slots ∧ SelectsFirsts schema grid ingest column
  /-- A single record is the first data row, if there is one. -/
  single : schema.options.valueOnly = true →
    ingest.rows.map (·.row) =
      (if Header.firstDataRow < grid.height then [Header.firstDataRow] else []) ∧
    ingest.diagnostics.filter (·.code == .duplicateKey) = []
  cells : ∀ row ∈ ingest.rows, row.cells.length = schema.columns.length
  /-- What is stored is what the columns read from the row. -/
  values : ∀ row ∈ ingest.rows, ∀ column slot, (column, slot) ∈ schema.slots →
    row.value slot = (readingAt grid row.row column).value
  texts : ∀ row ∈ ingest.rows, ∀ column slot, (column, slot) ∈ schema.slots →
    column.KeepsText → row.value slot = shownAt grid column row.row
  problems : ingest.diagnostics.filter (·.code != .duplicateKey) =
    ingest.rows.flatMap fun row => problemsAt schema grid row.row
  sizes : ∀ table slot row size, ingest.sizes.get? table slot row = some size →
    table = schema.name ∧ row ∈ ingest.rows.map (·.row) ∧
    ∃ column, (column, slot) ∈ schema.slots ∧ (readingAt grid row column).size = some size
  origins : ∀ origin raw value, ingest.origins.resolve? origin raw = some value →
    ∃ row ∈ ingest.rows, ∃ column slot, (column, slot) ∈ schema.slots ∧
      column.origin.map Text.lower = some origin ∧ row.value slot = raw ∧
      indexedValue column row raw = value

variable {schema : Schema} {grid : Grid} {ingest : RowIngest}

theorem mem_dataRows {row : Nat} :
    row ∈ dataRows grid ↔ Header.firstDataRow ≤ row ∧ row < grid.height := by
  rw [dataRows, List.range_eq_range', List.drop_range', List.mem_range'_1]
  simp only [Header.firstDataRow]
  omega

/-- What holds of rows however they are chosen. -/
structure Stems (schema : Schema) (grid : Grid) (ingest : RowIngest) : Prop where
  cells : ∀ row ∈ ingest.rows, row.cells.length = schema.columns.length
  problems : ingest.diagnostics.filter (·.code != .duplicateKey) =
    ingest.rows.flatMap fun row => problemsAt schema grid row.row
  slots : ∀ table slot row, (ingest.sizes.get? table slot row).isSome →
    ∃ column, (column, slot) ∈ schema.slots

theorem diagnostics_store (schema : Schema) (grid : Grid) (ingest : RowIngest) (row : Nat) :
    (store schema grid ingest row).diagnostics =
      ingest.diagnostics ++ problemsAt schema grid row := by
  rw [store, readings, problemsAt, List.flatMap_map]
  rfl

theorem ne_duplicateKey_of_mem_problemsAt {row : Nat} {found : Diagnostic}
    (mem : found ∈ problemsAt schema grid row) : found.code ≠ .duplicateKey := by
  obtain ⟨given, -, mem⟩ := List.mem_flatMap.1 mem
  obtain ⟨problem, known, same⟩ := List.mem_map.1 mem
  rw [← same]
  exact ne_of_mem_of_not_mem (CellReading.mem_problemCodes known) (by decide)

theorem stems_empty (schema : Schema) (grid : Grid) : Stems schema grid empty where
  cells _ mem := absurd mem List.not_mem_nil
  problems := rfl
  slots _ _ _ found := by cases found

theorem Stems.store (h : Stems schema grid ingest) (row : Nat) :
    Stems schema grid (RowIngest.store schema grid ingest row) where
  cells stored mem := by
    rcases List.mem_append.1 mem with known | new
    · exact h.cells stored known
    · obtain rfl := List.mem_singleton.1 new
      dsimp only
      rw [List.length_map, readings, List.length_map, Schema.slots, List.length_zipIdx]
  problems := by
    have own : (problemsAt schema grid row).filter (·.code != .duplicateKey) =
        problemsAt schema grid row :=
      List.filter_eq_self.2 fun found mem => bne_iff_ne.2 (ne_duplicateKey_of_mem_problemsAt mem)
    have rows : (RowIngest.store schema grid ingest row).rows.flatMap
        (fun stored => problemsAt schema grid stored.row) =
          (ingest.rows.flatMap fun stored => problemsAt schema grid stored.row) ++
            problemsAt schema grid row := by
      rw [RowIngest.store, List.flatMap_append, List.flatMap_singleton]
    rw [diagnostics_store, List.filter_append, h.problems, own, rows]
  slots table slot row' := by
    refine sizes_store_induction (P := fun now : SizeIndex =>
      (now.get? table slot row').isSome → ∃ column, (column, slot) ∈ schema.slots)
      (h.slots table slot row') ?_
    intro now known column place size listed
    rw [SizeIndex.get?_record]
    split
    next here =>
      obtain ⟨-, rest⟩ := Prod.mk.inj here
      obtain ⟨rfl, -⟩ := Prod.mk.inj rest
      exact fun _ => ⟨column, listed⟩
    next => exact known

theorem Stems.refuse (h : Stems schema grid ingest) (row : Nat) (key : String) :
    Stems schema grid (RowIngest.refuse schema ingest row key) where
  cells := h.cells
  problems := by
    rw [RowIngest.refuse, List.filter_append, h.problems]
    exact List.append_nil _
  slots := h.slots

theorem stems_ofGrid (schema : Schema) (grid : Grid) : Stems schema grid (ofGrid schema grid) :=
  ofGrid_induction (stems_empty schema grid) (fun _ row known _ => known.store row)
    fun _ row key known => known.refuse row key

/-- The diagnostic of a repeated key. -/
def repeatedAt (schema : Schema) (grid : Grid) (row : Nat) : Diagnostic :=
  Diagnostic.of (.repeatedKey (keyOf schema grid row)) schema.origin
    ((schema.keyColumn?.map (·.title)).getD "") row (keyGridColumn schema)

/-- What is known while the rows of a keyed table are taken: `met` are those taken so far. -/
structure Takes (schema : Schema) (grid : Grid) (met : List Nat)
    (state : RowIngest × List String) : Prop where
  seen : ∀ key, key ∈ state.2 ↔ key ≠ "" ∧ ∃ row ∈ met, keyOf schema grid row = key
  numbers : state.1.rows.map (·.row) = met.filter (IsFirst (keyOf schema grid))
  repeated : state.1.diagnostics.filter (·.code == .duplicateKey) =
    (met.filter (IsRepeated (keyOf schema grid))).map (repeatedAt schema grid)

variable {met : List Nat} {seen : List String} {row : Nat}

/-- A row without a key is neither the first of its key nor a later one. -/
theorem Takes.skip (h : Takes schema grid met (ingest, seen)) (blank : keyOf schema grid row = "") :
    Takes schema grid (met ++ [row]) (ingest, seen) where
  seen key := by
    rw [h.seen]
    refine and_congr_right fun filled => ?_
    simp only [List.mem_append, List.mem_singleton, or_and_right, exists_or, exists_eq_left]
    exact (or_iff_left fun own : keyOf schema grid row = key =>
      filled (own.symm.trans blank)).symm
  numbers := by
    have notFirst : ¬ IsFirst (keyOf schema grid) row := fun first => first.1 blank
    simp [h.numbers, notFirst]
  repeated := by
    have notRepeated : ¬ IsRepeated (keyOf schema grid) row := fun later => later.1 blank
    simp [h.repeated, notRepeated]

theorem Takes.refuse (h : Takes schema grid met (ingest, seen)) {n : Nat} (mem : n ∈ met)
    (same : keyOf schema grid n = keyOf schema grid row)
    (later : IsRepeated (keyOf schema grid) row) :
    Takes schema grid (met ++ [row])
      (RowIngest.refuse schema ingest row (keyOf schema grid row), seen) where
  seen key := by
    rw [h.seen]
    refine and_congr_right fun _ => ?_
    simp only [List.mem_append, List.mem_singleton, or_and_right, exists_or, exists_eq_left]
    exact (or_iff_left_of_imp fun own => ⟨n, mem, same.trans own⟩).symm
  numbers := by
    obtain ⟨-, n, before, inside, same⟩ := later
    have notFirst : ¬ IsFirst (keyOf schema grid) row := fun first => first.2 n before inside same
    simpa [RowIngest.refuse, notFirst] using h.numbers
  repeated := by
    have old : ingest.diagnostics.filter (·.code == .duplicateKey) =
        (met.filter (IsRepeated (keyOf schema grid))).map (repeatedAt schema grid) := h.repeated
    have new : [row].filter (IsRepeated (keyOf schema grid)) = [row] := by simp [later]
    rw [RowIngest.refuse, List.filter_append, old, List.filter_append, new, List.map_append]
    rfl

theorem Takes.store (h : Takes schema grid met (ingest, seen))
    (first : IsFirst (keyOf schema grid) row) :
    Takes schema grid (met ++ [row])
      (RowIngest.store schema grid ingest row, seen ++ [keyOf schema grid row]) where
  seen key := by
    simp only [List.mem_append, List.mem_singleton, h.seen, or_and_right, exists_or,
      exists_eq_left]
    constructor
    · rintro (⟨filled, old⟩ | rfl)
      · exact ⟨filled, .inl old⟩
      · exact ⟨first.1, .inr rfl⟩
    · rintro ⟨filled, old | own⟩
      · exact .inl ⟨filled, old⟩
      · exact .inr own.symm
  numbers := by
    have numbers := h.numbers
    simp only at numbers
    simp [RowIngest.store, numbers, first]
  repeated := by
    have notRepeated : ¬ IsRepeated (keyOf schema grid) row := by
      rintro ⟨-, n, before, inside, same⟩
      exact first.2 n before inside same
    have none : (problemsAt schema grid row).filter (·.code == .duplicateKey) = [] :=
      List.filter_eq_nil_iff.2 fun found mem =>
        by simpa using ne_duplicateKey_of_mem_problemsAt mem
    have repeated := h.repeated
    simp only at repeated
    rw [diagnostics_store, List.filter_append, none, List.append_nil, repeated]
    simp [notRepeated]

theorem Takes.takeRow {state : RowIngest × List String} (h : Takes schema grid met state)
    (above : ∀ n, n ∈ met ↔ Header.firstDataRow ≤ n ∧ n < row) :
    Takes schema grid (met ++ [row]) (RowIngest.takeRow schema grid state row) := by
  obtain ⟨ingest, seen⟩ := state
  have known := h.seen (keyOf schema grid row)
  simp only [RowIngest.takeRow]
  by_cases blank : keyOf schema grid row = ""
  · rw [if_pos (by rw [blank]; rfl)]
    exact h.skip blank
  rw [if_neg (by simpa using blank)]
  by_cases old : keyOf schema grid row ∈ seen
  · obtain ⟨-, n, mem, same⟩ := known.1 old
    have before := (above n).1 mem
    rw [if_pos (List.contains_iff_mem.2 old)]
    exact h.refuse mem same ⟨blank, n, before.2, before.1, same⟩
  · rw [if_neg (by simpa using old)]
    exact h.store ⟨blank, fun n before inside same =>
      old (known.2 ⟨blank, n, (above n).2 ⟨inside, before⟩, same⟩)⟩

theorem takes_range' (schema : Schema) (grid : Grid) (count : Nat) :
    Takes schema grid (List.range' Header.firstDataRow count)
      ((List.range' Header.firstDataRow count).foldl (takeRow schema grid) (empty, [])) := by
  induction count with
  | zero => exact ⟨by simp, rfl, rfl⟩
  | succ count ih =>
    rw [List.range'_1_concat, List.foldl_append]
    refine ih.takeRow fun n => ?_
    rw [List.mem_range'_1]

theorem dataRows_eq (grid : Grid) : dataRows grid =
    List.range' Header.firstDataRow (grid.height - Header.firstDataRow) := by
  rw [dataRows, List.range_eq_range', List.drop_range', Nat.zero_add, Nat.mul_one]

/-- The key column of a keyed table with a header without problems. -/
theorem exists_keyColumn {sheet : Sheet} {origin : SheetOrigin} {mergeGroups : List String}
    (compiled : Header.compile? sheet origin mergeGroups = some schema)
    (clean : schema.isClean = true) (keyed : schema.options.valueOnly = false) :
    ∃ column slot, schema.key = some slot ∧ (column, slot) ∈ schema.slots := by
  obtain ⟨slot, key⟩ := Option.isSome_iff_exists.1
    (Header.isSome_key_of_compile? compiled clean keyed)
  have inside := (Header.linksInside_of_compile? compiled).key slot key
  exact ⟨schema.columns[slot], slot, key, Header.mem_slots_of_lt inside⟩

theorem selectsFirsts_ofGrid (keyed : schema.options.valueOnly = false) {column : Column}
    {slot : Nat} (key : schema.key = some slot) (place : (column, slot) ∈ schema.slots)
    (grid : Grid) : SelectsFirsts schema grid (ofGrid schema grid) column := by
  have found : schema.keyColumn? = some column := by
    rw [Schema.keyColumn?, key]
    exact Header.column?_of_mem_slots place
  have shown : keyOf schema grid = shownAt grid column := by
    funext row
    rw [keyOf, keyGridColumn, found]
    rfl
  have told : repeatedAt schema grid = fun row => Diagnostic.of
      (.repeatedKey (shownAt grid column row)) schema.origin column.title row
      column.gridColumn := by
    funext row
    rw [repeatedAt, shown, keyGridColumn, found]
    rfl
  obtain ⟨-, numbers, repeated⟩ :=
    takes_range' schema grid (grid.height - Header.firstDataRow)
  rw [shown] at numbers repeated
  rw [told] at repeated
  rw [ofGrid, if_neg (by rw [keyed]; exact Bool.false_ne_true), dataRows_eq]
  exact ⟨by rw [dataRows_eq]; exact numbers, by rw [dataRows_eq]; exact repeated⟩

/-- What an index of the origins of some rows resolves to is what one of the rows says. -/
theorem exists_of_resolve?_originsOf {rows : List TableRow} {origin raw value : String}
    (h : (originsOf schema rows).resolve? origin raw = some value) :
    ∃ row ∈ rows, ∃ column slot, (column, slot) ∈ schema.slots ∧
      column.origin.map Text.lower = some origin ∧ row.value slot = raw ∧
      indexedValue column row raw = value := by
  let Told (index : ReferenceIndex) : Prop := index.resolve? origin raw = some value →
    ∃ row ∈ rows, ∃ column slot, (column, slot) ∈ schema.slots ∧
      column.origin.map Text.lower = some origin ∧ row.value slot = raw ∧
      indexedValue column row raw = value
  have start : Told ReferenceIndex.empty := fun found => by cases found
  refine originsOf_induction start ?_ h
  intro now known row stored column slot place name named found
  rw [ReferenceIndex.resolve?_record] at found
  split at found
  next same =>
    obtain ⟨rfl, rfl⟩ := Prod.mk.inj same
    rcases Option.or_eq_some_iff.1 found with old | ⟨-, new⟩
    · exact known old
    · refine ⟨row, stored, column, slot, place, by rw [named]; rfl, rfl, ?_⟩
      rw [← Option.some.inj new]
      rfl
  next => exact known found

/-- Of every grid the right rows are stored, and all that is told of it comes from them. -/
theorem selectsRows_ofGrid {sheet : Sheet} {origin : SheetOrigin} {mergeGroups : List String}
    (compiled : Header.compile? sheet origin mergeGroups = some schema)
    (clean : schema.isClean = true) (grid : Grid) :
    SelectsRows schema grid (ofGrid schema grid) := by
  have stems := stems_ofGrid schema grid
  have reads := readsFrom_ofGrid schema grid
  refine ⟨fun keyed => ?_, fun single => ?_, stems.cells, fun row stored column slot place => ?_,
    fun row stored column slot place kept => ?_, stems.problems, ?_, ?_⟩
  · obtain ⟨column, slot, key, place⟩ := exists_keyColumn compiled clean keyed
    exact ⟨column, slot, key, place, selectsFirsts_ofGrid keyed key place grid⟩
  · rw [ofGrid, if_pos single, dataRows_eq]
    by_cases some : Header.firstDataRow < grid.height
    · obtain ⟨more, height⟩ : ∃ more, grid.height - Header.firstDataRow = more + 1 :=
        ⟨grid.height - Header.firstDataRow - 1, by omega⟩
      rw [if_pos some, height, List.range'_succ, List.take_succ_cons, List.take_zero,
        List.foldl_cons, List.foldl_nil, diagnostics_store]
      refine ⟨rfl, List.filter_eq_nil_iff.2 fun found mem => ?_⟩
      rcases List.mem_append.1 mem with old | own
      · cases old
      · simpa using ne_duplicateKey_of_mem_problemsAt own
    · have none : grid.height - Header.firstDataRow = 0 := by omega
      rw [if_neg some, none]
      exact ⟨rfl, rfl⟩
  · exact reads.values row stored _ place
  · rw [reads.values row stored _ place]
    exact CellReading.value_of_keepsText kept _
  · intro table slot row size found
    have told : ((ofGrid schema grid).sizes.get? table slot row).isSome := by rw [found]; rfl
    obtain rfl := belongsTo_ofGrid schema grid table slot row told
    obtain ⟨column, place⟩ := stems.slots _ slot row told
    rw [reads.sizes _ place] at found
    split at found
    next stored => exact ⟨rfl, stored, column, place, found⟩
    next => cases found
  · intro origin raw value found
    rw [(stores_ofGrid schema grid).origins] at found
    exact exists_of_resolve?_originsOf found

/-- A shelf with a row that repeats a key, one without a key, and labels that are looked up. -/
def shelf : Sheet := ⟨"shelf", Grid.ofTexts
  [["", "", "", ""], ["#data", "id", "label", "parts[]"],
   ["", "key,int", "string,origin", "int,arraysizeref<parts>"], ["", "data", "data", "data"],
   ["", "1", "rope", "3,4"], ["", "", "net", "5"], ["", "1", "oar", "6"], ["", "2", "sail", "x"]]⟩

/-- Two of the four rows of the shelf are stored, and the third one is reported. -/
theorem selectsRows_shelf : ∃ schema,
    Header.compile? shelf ⟨"", "shelf.xlsx", "shelf"⟩ [] = some schema ∧
    (ofGrid schema shelf.grid).rows.map (·.row) = [4, 7] ∧
    (ofGrid schema shelf.grid).rows.map (·.value 1) = ["rope", "sail"] ∧
    ((ofGrid schema shelf.grid).diagnostics.filter (·.code == .duplicateKey)).map (·.address) =
      ["B7"] ∧
    ((ofGrid schema shelf.grid).diagnostics.filter (·.code != .duplicateKey)).map (·.address) =
      ["D8"] := by
  have found : (Header.compile? shelf ⟨"", "shelf.xlsx", "shelf"⟩ []).isSome := by decide
  obtain ⟨schema, compiled⟩ := Option.isSome_iff_exists.1 found
  have facts : ∀ schema ∈ Header.compile? shelf ⟨"", "shelf.xlsx", "shelf"⟩ [],
      schema.isClean = true ∧ schema.options.valueOnly = false ∧ schema.key = some 0 ∧
      (∀ given ∈ schema.slots, given.2 = 0 →
        (dataRows shelf.grid).filter (IsFirst (shownAt shelf.grid given.1)) = [4, 7] ∧
        (((dataRows shelf.grid).filter (IsRepeated (shownAt shelf.grid given.1))).map fun row =>
          (Diagnostic.of (.repeatedKey (shownAt shelf.grid given.1 row)) schema.origin
            given.1.title row given.1.gridColumn).address) = ["B7"]) ∧
      (∃ given ∈ schema.slots, given.2 = 1 ∧ given.1.KeepsText ∧
        [4, 7].map (shownAt shelf.grid given.1) = ["rope", "sail"]) ∧
      ((ofGrid schema shelf.grid).rows.flatMap fun row =>
        (problemsAt schema shelf.grid row.row).map (·.address)) = ["D8"] := by
    decide +kernel
  obtain ⟨clean, keyed, slot, chosen, ⟨⟨label, place'⟩, mem', one, kept, labels⟩, problems⟩ :=
    facts schema compiled
  have selected := selectsRows_ofGrid compiled clean shelf.grid
  obtain ⟨column, place, key, mem, firsts⟩ := selected.keyed keyed
  obtain rfl := Option.some.inj (key.symm.trans slot)
  obtain ⟨first, later⟩ := chosen _ mem rfl
  have numbers := firsts.numbers.trans first
  refine ⟨schema, compiled, numbers, ?_, ?_, ?_⟩
  · obtain rfl : place' = 1 := one
    rw [← labels, ← numbers, List.map_map]
    exact List.map_congr_left fun row stored => selected.texts row stored label 1 mem' kept
  · rw [firsts.repeated, List.map_map]
    exact later
  · rw [selected.problems, List.map_flatMap]
    exact problems

end RowIngest

end DesignTables
