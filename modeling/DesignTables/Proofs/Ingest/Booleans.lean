import DesignTables.Proofs.Ingest.Selection
import DesignTables.Proofs.Output.Documents
import DesignTables.Proofs.Output.Lengths
import DesignTables.Proofs.Text.Pieces

/-!
# Booleans as they are stored and written

A boolean may be typed in letters of any case. A column with one boolean in a cell stores it in
small letters. An array is put into small letters as a whole, which takes place only where the
whole is a boolean; so its elements stay as they were typed, and the texts around them are stored
with them.
-/
namespace DesignTables

namespace DataType

/-- A boolean as it is meant to be written. -/
def IsBoolean (value : String) : Prop := value = "true" ∨ value = "false"

instance (value : String) : Decidable (IsBoolean value) := inferInstanceAs (Decidable (_ ∨ _))

variable {before element after value : String}

theorem isBoolean_asciiLower (h : isBoolText value = true) : IsBoolean (Text.asciiLower value) :=
  isBoolText_iff.1 h

theorem IsBoolean.isBoolText (h : IsBoolean value) : isBoolText value = true := by
  rcases h with rfl | rfl <;> decide

theorem length_of_isBoolText (h : isBoolText value = true) : 4 ≤ value.toList.length := by
  have length : (Text.asciiLower value).toList.length = value.toList.length := by
    rw [Text.asciiLower, String.toList_ofList, List.length_map]
  rw [← length]
  rcases isBoolText_iff.1 h with word | word <;> rw [word] <;> decide

/-- No boolean has another one as a proper part. -/
theorem eq_empty_of_isBoolText (own : isBoolText element = true)
    (whole : isBoolText (before ++ element ++ after) = true) : before = "" ∧ after = "" := by
  have words {value : String} (h : isBoolText value = true) :
      value.toList.map Char.toLower = ['t', 'r', 'u', 'e'] ∨
        value.toList.map Char.toLower = ['f', 'a', 'l', 's', 'e'] := by
    rcases isBoolText_iff.1 h with word | word
    all_goals
      have chars := congrArg String.toList word
      rw [Text.asciiLower, String.toList_ofList] at chars
    · exact .inl chars
    · exact .inr chars
  have whole := words whole
  rw [String.toList_append, String.toList_append, List.map_append, List.map_append] at whole
  rw [← String.toList_eq_nil_iff, ← String.toList_eq_nil_iff]
  -- At most one letter is left for the texts around, and neither word is the other without it.
  rcases words own with word | word
  all_goals
    rw [word] at whole
    cases front : before.toList with
    | nil =>
      rw [front] at whole
      simpa using whole
    | cons c cs =>
      rw [front] at whole
      cases cs with
      | nil => simp at whole
      | cons d ds =>
        exfalso
        have length := whole.imp (congrArg List.length) (congrArg List.length)
        simp at length
        omega

end DataType

namespace CellReading

open DataType (IsBoolean)

/-- A text in front of an element: nothing, or booleans with a comma behind each. -/
def LeadsIn (text : String) : Prop :=
  (Text.splitOn ',' text).getLast? = some "" ∧
    ∀ word ∈ (Text.splitOn ',' text).dropLast, IsBoolean word

/-- A text behind an element: nothing, or booleans with a comma in front of each. -/
def LeadsOut (text : String) : Prop :=
  (Text.splitOn ',' text).head? = some "" ∧ ∀ word ∈ (Text.splitOn ',' text).tail, IsBoolean word

/-- What it takes for the elements of an array cell to be stored as booleans: there is none, or one
that stands alone, or all were typed in small letters and the texts around them bring nothing but
further elements. -/
def KeepsBooleans (column : Column) (elements : List String) : Prop :=
  elements = [] ∨
  (elements.length = 1 ∧ column.before.getD "" = "" ∧ column.after.getD "" = "") ∨
  ((∀ element ∈ elements, IsBoolean element) ∧
    LeadsIn (column.before.getD "") ∧ LeadsOut (column.after.getD ""))

instance (text : String) : Decidable (LeadsIn text) := inferInstanceAs (Decidable (_ ∧ _))

instance (text : String) : Decidable (LeadsOut text) := inferInstanceAs (Decidable (_ ∧ _))

instance (column : Column) (elements : List String) : Decidable (KeepsBooleans column elements) :=
  inferInstanceAs (Decidable (_ ∨ _ ∨ _))

variable {column : Column} {cell : Cell}

/-- An element and the texts around it are cut into booleans when the element is one and the texts
bring whole ones. -/
theorem isBoolean_splitOn_iff {before element after : String}
    (own : DataType.isBoolText element = true) :
    (∀ word ∈ Text.splitOn ',' (before ++ element ++ after), IsBoolean word) ↔
      IsBoolean element ∧ LeadsIn before ∧ LeadsOut after := by
  have free : ∀ c ∈ element.toList, (c == ',') = false := by
    intro c mem
    rw [beq_eq_false_iff_ne]
    rintro rfl
    exact (DataType.free_of_isBoolText own).1 mem
  obtain ⟨words, last, left⟩ := Text.exists_pieces_eq_append (· == ',') before.toList
  have some : Text.pieces (· == ',') after.toList ≠ [] := Text.pieces_ne_nil _
  obtain ⟨first, words', right⟩ := List.exists_cons_of_ne_nil some
  have cut : Text.splitOn ',' (before ++ element ++ after) = words.map String.ofList ++
      (String.ofList last ++ element ++ String.ofList first) :: words'.map String.ofList := by
    have joint := Text.pieces_append (Text.pieces_append left (Text.pieces_of_free free)) right
    rw [Text.splitOn, String.toList_append, String.toList_append, joint, List.map_append,
      List.map_cons, String.ofList_append, String.ofList_append, String.ofList_toList]
  have middle : IsBoolean (String.ofList last ++ element ++ String.ofList first) ↔
      IsBoolean element ∧ String.ofList last = "" ∧ String.ofList first = "" := by
    constructor
    · intro boolean
      obtain ⟨empty, empty'⟩ := DataType.eq_empty_of_isBoolText own boolean.isBoolText
      rw [empty, empty', String.empty_append, String.append_empty] at boolean
      exact ⟨boolean, empty, empty'⟩
    · rintro ⟨boolean, empty, empty'⟩
      rwa [empty, empty', String.empty_append, String.append_empty]
  have leadsIn : LeadsIn before ↔
      String.ofList last = "" ∧ ∀ word ∈ words.map String.ofList, IsBoolean word := by
    simp [LeadsIn, Text.splitOn, left]
  have leadsOut : LeadsOut after ↔
      String.ofList first = "" ∧ ∀ word ∈ words'.map String.ofList, IsBoolean word := by
    simp [LeadsOut, Text.splitOn, right]
  rw [cut, leadsIn, leadsOut]
  simp only [List.forall_mem_append, List.forall_mem_cons, middle]
  constructor
  · rintro ⟨before, ⟨boolean, none, none'⟩, behind⟩
    exact ⟨boolean, ⟨none, before⟩, none', behind⟩
  · rintro ⟨boolean, ⟨none, before⟩, none', behind⟩
    exact ⟨before, ⟨boolean, none, none'⟩, behind⟩

/-- In a cell without problems every element of an array of booleans is one. -/
theorem isBoolText_of_clean (type : typeOf column = .bool) (array : column.isArray = true)
    (clean : (ofCell column cell).problems = []) :
    ∀ element ∈ elementsOf column cell, DataType.isBoolText element = true := by
  rw [ofCell, List.append_eq_nil_iff] at clean
  obtain ⟨-, faults⟩ := clean
  rw [typeFault, if_pos array, type] at faults
  have none : (elementsOf column cell).findSome? DataType.bool.fault = none := by
    rw [elementsOf]
    cases found : (column.elements (afterNull column (text column cell))).findSome?
        DataType.bool.fault with
    | none => rfl
    | some code =>
      rw [found] at faults
      cases faults
  intro element mem
  have fine := List.findSome?_eq_none_iff.1 none element mem
  rw [DataType.fault] at fine
  split at fine
  · cases fine
  · simpa [DataType.formFault] using fine

/-- In a cell without problems a boolean that stands alone is stored in small letters. -/
theorem isBoolean_of_clean (type : typeOf column = .bool) (one : column.isArray = false)
    (clean : (ofCell column cell).problems = []) : IsBoolean (ofCell column cell).value := by
  have fine := fault_eq_none clean one
  rw [value_eq, stored]
  generalize decorated column (afterNull column (text column cell)) = value at fine
  rw [type, DataType.fault] at fine
  split at fine
  · cases fine
  · have own : DataType.isBoolText value = true := by simpa [DataType.formFault] using fine
    rw [if_pos (by simp [type, own])]
    exact DataType.isBoolean_asciiLower own

/-- The texts that a list of booleans is put together from. -/
theorem decorated_eq_joinWith {read : String} (array : column.isArray = true) (filled : read ≠ "")
    (booleans : ∀ element ∈ column.elements read, DataType.isBoolText element = true) :
    decorated column read = Text.joinWith "," ((column.elements read).map fun element =>
      column.before.getD "" ++ element ++ column.after.getD "") := by
  have notEmpty : read.isEmpty = false := by simpa using filled
  have elements := Column.elements_of_array array filled
  rw [decorated, notEmpty]
  split
  · rw [decorate]
    refine congrArg _ (List.map_congr_left fun element mem => if_neg ?_)
    have long := DataType.length_of_isBoolText (booleans element mem)
    intro empty
    rw [String.isEmpty_iff.1 empty] at long
    cases long
  next plain =>
    have bare : column.before = none ∧ column.after = none := by simpa using plain
    have same : (fun element => (none : Option String).getD "" ++ element ++
        (none : Option String).getD "") = id := by
      funext element
      simp
    rw [bare.1, bare.2, same, List.map_id, elements]
    refine String.toList_injective ?_
    rw [Text.toList_joinWith, Text.splitProtected, List.map_map]
    have strings : String.toList ∘ String.ofList = id := funext fun _ => String.toList_ofList
    rw [strings, List.map_id, Text.joinPieces_protectedPieces]

theorem splitProtected_of_isBoolText {value : String} (own : DataType.isBoolText value = true) :
    Text.splitProtected ',' value = [value] := by
  obtain ⟨comma, bracket⟩ := DataType.free_of_isBoolText own
  rw [Text.splitProtected, Text.protectedPieces_of_free bracket, Text.pieces_of_free,
    List.map_singleton, String.ofList_toList]
  intro c mem
  rw [beq_eq_false_iff_ne]
  rintro rfl
  exact comma mem

/-- A list of booleans is stored as one boolean only where it has one, without texts around it. -/
theorem isBoolText_decorated_iff {read : String} (array : column.isArray = true) (filled : read ≠ "")
    (booleans : ∀ element ∈ column.elements read, DataType.isBoolText element = true) :
    DataType.isBoolText (decorated column read) = true ↔ (column.elements read).length = 1 ∧
      column.before.getD "" = "" ∧ column.after.getD "" = "" := by
  rw [decorated_eq_joinWith array filled booleans]
  cases elements : column.elements read with
  | nil => exact absurd elements (Column.elements_ne_nil array filled)
  | cons element rest =>
    rw [elements] at booleans
    have own := booleans element List.mem_cons_self
    cases rest with
    | nil =>
      simp only [List.map_cons, List.map_nil, Text.joinWith, List.length_singleton, true_and]
      refine ⟨DataType.eq_empty_of_isBoolText own, fun none => ?_⟩
      rwa [none.1, none.2, String.empty_append, String.append_empty]
    | cons next rest =>
      -- Between two elements stands a comma, which no boolean has.
      simp only [List.map_cons, Text.joinWith, List.length_cons]
      refine ⟨fun boolean => absurd ?_ (DataType.free_of_isBoolText boolean).1, fun one => ?_⟩
      · simp
      · omega

/-- The elements that a list of booleans is cut into again, with the texts around them. -/
theorem isBoolean_elements_decorated_iff {read : String} (fit : column.HasArguments)
    (array : column.isArray = true) (filled : read ≠ "")
    (booleans : ∀ element ∈ column.elements read, DataType.isBoolText element = true) :
    (∀ element ∈ column.elements (decorated column read), IsBoolean element) ↔
      (∀ element ∈ column.elements read, IsBoolean element) ∧
        LeadsIn (column.before.getD "") ∧ LeadsOut (column.after.getD "") := by
  have some := Column.elements_ne_nil array filled
  have free : ∀ part ∈ (column.elements read).map fun element =>
      column.before.getD "" ++ element ++ column.after.getD "", '<' ∉ part.toList := by
    intro part mem
    obtain ⟨element, known, rfl⟩ := List.mem_map.1 mem
    rw [String.toList_append, String.toList_append, List.mem_append, List.mem_append]
    rintro ((before | own) | after)
    · exact (isArgument_before fit).free before
    · exact (DataType.free_of_isBoolText (booleans element known)).2 own
    · exact (isArgument_after fit).free after
  -- Every element brings the words that it and the texts around it are cut into.
  have each : (∀ word ∈ ((column.elements read).map fun element =>
        column.before.getD "" ++ element ++ column.after.getD "").flatMap (Text.splitOn ','),
        IsBoolean word) ↔
      ∀ element ∈ column.elements read, IsBoolean element ∧
        LeadsIn (column.before.getD "") ∧ LeadsOut (column.after.getD "") := by
    rw [List.flatMap_map, List.forall_mem_flatMap]
    exact forall₂_congr fun element known => isBoolean_splitOn_iff (booleans element known)
  rw [Column.elements_of_array array (decorated_ne_empty filled),
    decorated_eq_joinWith array filled booleans,
    Text.splitProtected_joinWith (by simpa using some) free, each]
  obtain ⟨element, known⟩ := List.exists_mem_of_ne_nil _ some
  exact ⟨fun all => ⟨fun other mem => (all other mem).1, (all element known).2⟩,
    fun all other mem => ⟨all.1 other mem, all.2⟩⟩

/-- The elements of an array cell without problems are stored as booleans exactly when it keeps
them. -/
theorem isBoolean_elements_iff (fit : column.HasArguments) (type : typeOf column = .bool)
    (array : column.isArray = true) (clean : (ofCell column cell).problems = []) :
    (∀ element ∈ column.elements (ofCell column cell).value, IsBoolean element) ↔
      KeepsBooleans column (elementsOf column cell) := by
  have booleans := isBoolText_of_clean type array clean
  rw [value_eq]
  rw [elementsOf] at booleans ⊢
  generalize afterNull column (text column cell) = read at booleans
  by_cases empty : read = ""
  · subst empty
    have value : stored column (decorated column "") = "" := by
      simp [stored, decorated, Text.asciiLower]
    have none : column.elements "" = [] := rfl
    rw [value, none]
    exact iff_of_true (fun _ mem => absurd mem List.not_mem_nil) (.inl rfl)
  have alone := isBoolText_decorated_iff array empty booleans
  by_cases whole : DataType.isBoolText (decorated column read) = true
  · refine iff_of_true ?_ (.inr (.inl (alone.1 whole)))
    have boolean := DataType.isBoolean_asciiLower whole
    have filled : Text.asciiLower (decorated column read) ≠ "" := by
      rintro none
      rw [none] at boolean
      rcases boolean with word | word <;> exact absurd word (by decide)
    rw [stored, if_pos (by simp [type, whole]), Column.elements_of_array array filled,
      splitProtected_of_isBoolText boolean.isBoolText]
    exact fun element mem => (List.mem_singleton.1 mem).symm ▸ boolean
  · have kept : stored column (decorated column read) = decorated column read := by
      rw [stored, if_neg (by simp [whole])]
    rw [kept, isBoolean_elements_decorated_iff fit array empty booleans, KeepsBooleans,
      or_iff_right (Column.elements_ne_nil array empty), or_iff_right (whole ∘ alone.2)]

theorem length_stored (column : Column) (value : String) :
    (stored column value).toList.length = value.toList.length := by
  rw [stored]
  split
  · rw [Text.asciiLower, String.toList_ofList, List.length_map]
  · rfl

/-- The value of an array cell without problems is not taken for the empty list unless it is
empty. -/
theorem isEmptyList_iff (type : typeOf column = .bool) (array : column.isArray = true)
    (clean : (ofCell column cell).problems = []) :
    Field.isEmptyList (ofCell column cell).value = true ↔ (ofCell column cell).value = "" := by
  have booleans := isBoolText_of_clean type array clean
  rw [Field.isEmptyList, Bool.or_eq_true, String.isEmpty_iff, beq_iff_eq, or_iff_left_iff_imp]
  intro quotes
  rw [value_eq] at quotes
  rw [elementsOf] at booleans
  generalize afterNull column (text column cell) = read at booleans quotes
  have short := length_stored column (decorated column read)
  rw [quotes] at short
  by_cases empty : read = ""
  · subst empty
    cases short
  · -- A boolean has more letters than a pair of quotes.
    obtain ⟨element, mem⟩ := List.exists_mem_of_ne_nil _ (Column.elements_ne_nil array empty)
    have long := DataType.length_of_isBoolText (booleans element mem)
    let wrapped (element : String) := column.before.getD "" ++ element ++ column.after.getD ""
    have listed : (wrapped element).toList ∈
        ((column.elements read).map wrapped).map String.toList :=
      List.mem_map_of_mem (List.mem_map_of_mem mem)
    have held : (wrapped element).toList.length ≤ (decorated column read).toList.length := by
      rw [decorated_eq_joinWith array empty booleans, Text.toList_joinWith]
      exact (Text.infix_joinPieces listed).length_le
    have quotes : "\"\"".toList.length = 2 := rfl
    rw [quotes] at short
    simp only [wrapped, String.toList_append, List.length_append] at held
    omega

/-- What is stored of a cell without problems is written element by element, and without quotes. -/
theorem value_ofValue (type : column.dataType = some .bool)
    (clean : (ofCell column cell).problems = []) :
    (Field.ofValue column (.typed column.dataType) (ofCell column cell).value).value =
      if column.isArray then
        .list ((column.elements (ofCell column cell).value).map (Field.restoreCommas column))
      else .scalar (Field.restoreCommas column (ofCell column cell).value) := by
  have bare : (ValueStyle.typed column.dataType).render = id := by
    funext value
    rw [ValueStyle.render, ValueStyle.quotes, type]
    rfl
  have read : typeOf column = .bool := by rw [typeOf, type]; rfl
  rw [Field.ofValue, bare]
  cases array : column.isArray with
  | false => rfl
  | true =>
    have empty := isEmptyList_iff read array clean
    by_cases none : (ofCell column cell).value = ""
    · rw [if_pos (empty.2 none), none]
      rfl
    · rw [if_neg (none ∘ empty.1), Column.elements_of_array array none]
      rfl

end CellReading

namespace RowIngest

open DataType (IsBoolean)

variable {sheet : Sheet} {origin : SheetOrigin} {mergeGroups : List String} {schema : Schema}
  {grid : Grid} {row : TableRow} {column : Column} {slot : Nat}

/-- A stored cell at which nothing is reported is read without problems. -/
theorem problems_eq_nil (mem : row ∈ (ofGrid schema grid).rows)
    (place : (column, slot) ∈ schema.slots)
    (quiet : ∀ found ∈ (ofGrid schema grid).diagnostics,
      ¬ (found.row = row.row + 1 ∧ found.column = column.gridColumn + 1)) :
    (readingAt grid row.row column).problems = [] := by
  refine List.eq_nil_iff_forall_not_mem.2 fun problem known => ?_
  have told : Diagnostic.of problem schema.origin column.title row.row column.gridColumn ∈
      (ofGrid schema grid).diagnostics.filter (·.code != .duplicateKey) := by
    rw [(stems_ofGrid schema grid).problems]
    exact List.mem_flatMap.2 ⟨row, mem, List.mem_flatMap.2
      ⟨(column, slot), place, List.mem_map_of_mem known⟩⟩
  exact quiet _ (List.mem_of_mem_filter told) ⟨rfl, rfl⟩

/-- A boolean that is stored without a problem is `true` or `false`, and the elements of an array
are so exactly when the cell keeps its booleans. They are written as they are stored. -/
theorem booleans_canonical_iff
    (compiled : Header.compile? sheet origin mergeGroups = some schema)
    (mem : row ∈ (ofGrid schema grid).rows) (place : (column, slot) ∈ schema.slots)
    (type : column.dataType = some .bool)
    (quiet : ∀ found ∈ (ofGrid schema grid).diagnostics,
      ¬ (found.row = row.row + 1 ∧ found.column = column.gridColumn + 1)) :
    (column.isArray = false → IsBoolean (row.value slot)) ∧
    (column.isArray = true → ((∀ element ∈ column.elements (row.value slot), IsBoolean element) ↔
      CellReading.KeepsBooleans column
        (CellReading.elementsOf column (grid.cell row.row column.gridColumn)))) ∧
    (Field.ofValue column (.typed column.dataType) (row.value slot)).value =
      if column.isArray then
        .list ((column.elements (row.value slot)).map (Field.restoreCommas column))
      else .scalar (Field.restoreCommas column (row.value slot)) := by
  have fit := Header.hasArguments_of_compile? compiled column
    (List.mem_of_getElem? (Header.column?_of_mem_slots place))
  have read : CellReading.typeOf column = .bool := by rw [CellReading.typeOf, type]; rfl
  have clean := problems_eq_nil mem place quiet
  rw [(readsFrom_ofGrid schema grid).values row mem _ place]
  exact ⟨fun one => CellReading.isBoolean_of_clean read one clean,
    fun array => CellReading.isBoolean_elements_iff fit read array clean,
    CellReading.value_ofValue type clean⟩

/-- Doors with their locks, and one door of which it is not known whether it is open. -/
def doors : Sheet := ⟨"doors", Grid.ofTexts
  [["", "", "", ""], ["#data", "id", "open", "locks[]"], ["", "key,int", "bool", "bool"],
   ["", "data", "data", "data"], ["", "1", "TRUE", "true,false"], ["", "2", "ajar", "FALSE"]]⟩

/-- The locks of both doors are stored as booleans. -/
theorem booleans_canonical_doors : ∃ schema,
    Header.compile? doors ⟨"", "doors.xlsx", "doors"⟩ [] = some schema ∧
    (ofGrid schema doors.grid).rows.map (·.cells) =
      [["1", "true", "true,false"], ["2", "ajar", "false"]] ∧
    ∀ row ∈ (ofGrid schema doors.grid).rows, ∀ given ∈ schema.slots, given.1.isArray = true →
      ∀ element ∈ given.1.elements (row.value given.2), IsBoolean element := by
  have found : (Header.compile? doors ⟨"", "doors.xlsx", "doors"⟩ []).isSome := by decide
  obtain ⟨schema, compiled⟩ := Option.isSome_iff_exists.1 found
  have facts : ∀ schema ∈ Header.compile? doors ⟨"", "doors.xlsx", "doors"⟩ [],
      (ofGrid schema doors.grid).rows.map (·.cells) =
        [["1", "true", "true,false"], ["2", "ajar", "false"]] ∧
      ∀ row ∈ (ofGrid schema doors.grid).rows, ∀ given ∈ schema.slots, given.1.isArray = true →
        given.1.dataType = some .bool ∧
        (∀ found ∈ (ofGrid schema doors.grid).diagnostics,
          ¬ (found.row = row.row + 1 ∧ found.column = given.1.gridColumn + 1)) ∧
        CellReading.KeepsBooleans given.1
          (CellReading.elementsOf given.1 (doors.grid.cell row.row given.1.gridColumn)) := by
    decide
  obtain ⟨cells, each⟩ := facts schema compiled
  refine ⟨schema, compiled, cells, ?_⟩
  rintro row mem ⟨column, slot⟩ place array
  obtain ⟨type, quiet, keeps⟩ := each row mem (column, slot) place array
  exact ((booleans_canonical_iff compiled mem place type quiet).2.1 array).2 keeps

/-- Lamps with two switches in capitals, and with a text in front of another switch. -/
def lamps : Sheet := ⟨"lamps", Grid.ofTexts
  [["", "", "", ""], ["#data", "id", "switches[]", "spare[]"],
   ["", "key,int", "bool", "bool,prefix<un>"], ["", "data", "data", "data"],
   ["", "1", "TRUE,False", "true"]]⟩

/-- In a sheet without problems the switches of the lamp are stored and written as they were
typed, and the spare one with the text in front of it. -/
theorem not_booleans_canonical_lamps : ∃ schema,
    Header.compile? lamps ⟨"", "lamps.xlsx", "lamps"⟩ [] = some schema ∧ schema.isClean = true ∧
    (ofGrid schema lamps.grid).diagnostics = [] ∧
    (ofGrid schema lamps.grid).rows.map (·.cells) = [["1", "TRUE,False", "untrue"]] ∧
    ∀ given ∈ schema.slots, given.1.isArray = true → given.1.dataType = some .bool ∧
      ∀ row ∈ (ofGrid schema lamps.grid).rows,
        ¬ (∀ element ∈ given.1.elements (row.value given.2), IsBoolean element) ∧
        (Field.ofValue given.1 (.typed given.1.dataType) (row.value given.2)).value =
          .list (given.1.elements (row.value given.2)) := by
  have found : (Header.compile? lamps ⟨"", "lamps.xlsx", "lamps"⟩ []).isSome := by decide
  obtain ⟨schema, compiled⟩ := Option.isSome_iff_exists.1 found
  have facts : ∀ schema ∈ Header.compile? lamps ⟨"", "lamps.xlsx", "lamps"⟩ [],
      schema.isClean = true ∧ (ofGrid schema lamps.grid).diagnostics = [] ∧
      (ofGrid schema lamps.grid).rows.map (·.cells) = [["1", "TRUE,False", "untrue"]] ∧
      ∀ given ∈ schema.slots, given.1.isArray = true → given.1.dataType = some .bool ∧
        ∀ row ∈ (ofGrid schema lamps.grid).rows,
          ¬ (∀ element ∈ given.1.elements (row.value given.2), IsBoolean element) ∧
          (Field.ofValue given.1 (.typed given.1.dataType) (row.value given.2)).value =
            .list (given.1.elements (row.value given.2)) := by
    decide
  exact ⟨schema, compiled, facts schema compiled⟩

end RowIngest

end DesignTables
