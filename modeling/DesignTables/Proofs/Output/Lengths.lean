import DesignTables.Output.Records
import DesignTables.Proofs.Header.Affixes
import DesignTables.Proofs.Ingest.Readings

/-!
# The length of an array that is counted, and of the list that is written for it

A cell is cut into elements, which are counted, each one gets the texts around it, and the elements
stand in one text with commas between them. This text is cut again when it is written. The list
is as long as the count unless a text around an element brings commas of its own, or the stored
text is a pair of quotes, which is written as the empty list.
-/
namespace DesignTables

/-- The number of elements of a field's value. -/
def FieldValue.length : FieldValue → Nat
  | .scalar _ => 1
  | .list items => items.length

theorem Field.length_ofValue {column : Column} (array : column.isArray = true) (style : ValueStyle)
    (value : String) : (Field.ofValue column style value).value.length =
      if Field.isEmptyList value then 0 else Text.openCommas false value.toList + 1 := by
  rw [Field.ofValue, array]
  by_cases empty : Field.isEmptyList value = true
  · simp [empty, FieldValue.length]
  · simp [empty, FieldValue.length, Text.length_splitProtected]

namespace CellReading

variable {column : Column}

/-- The elements that a cell of a column is read as. -/
def elementsOf (column : Column) (cell : Cell) : List String :=
  column.elements (afterNull column (text column cell))

/-- An element with the texts of its column around it. -/
def decorateOne (column : Column) (element : String) : String :=
  if element.isEmpty then "" else column.before.getD "" ++ element ++ column.after.getD ""

/-- What it takes for an array to be written as long as it was counted: the stored value is no pair
of quotes, and where there is an element to put texts around, they bring no comma. A comma behind
an element that ends inside brackets does not count. -/
structure KeepsLength (column : Column) (elements : List String) (value : String) : Prop where
  unquoted : value ≠ "\"\""
  before : (∃ element ∈ elements, element ≠ "") → ',' ∉ (column.before.getD "").toList
  after : (∃ element ∈ elements, element ≠ "" ∧ Text.endsInside false element.toList = false) →
    ',' ∉ (column.after.getD "").toList

theorem isArgument_getD {text : Option String}
    (h : ∀ given, text = some given → Directive.IsArgument given) :
    Directive.IsArgument (text.getD "") := by
  cases text with
  | none => exact ⟨by simp, rfl⟩
  | some given => exact h given rfl

variable (fit : column.HasArguments)

include fit

theorem isArgument_before : Directive.IsArgument (column.before.getD "") :=
  isArgument_getD fun given same => fit given (.inl same)

theorem isArgument_after : Directive.IsArgument (column.after.getD "") :=
  isArgument_getD fun given same => fit given (.inr same)

theorem endsInside_decorateOne {element : String}
    (closed : Text.endsInside false element.toList = false) :
    Text.endsInside false (decorateOne column element).toList = false := by
  rw [decorateOne]
  by_cases empty : element.isEmpty = true
  · rw [if_pos empty]
    rfl
  · rw [if_neg empty, String.toList_append, String.toList_append, Text.endsInside_append,
      Text.endsInside_append, Text.endsInside_of_free (isArgument_before fit).free, closed,
      Text.endsInside_of_free (isArgument_after fit).free]

/-- An element with its texts has a comma outside brackets exactly when one of the texts brings
it. -/
theorem openCommas_decorateOne_eq_zero_iff {element : String}
    (whole : Text.openCommas false element.toList = 0) :
    Text.openCommas false (decorateOne column element).toList = 0 ↔
      (element ≠ "" → ',' ∉ (column.before.getD "").toList ∧
        (Text.endsInside false element.toList = false → ',' ∉ (column.after.getD "").toList)) := by
  by_cases empty : element = ""
  · subst empty
    simp [decorateOne, Text.openCommas]
  · have filled : ¬ element.isEmpty = true := by simpa using empty
    have before := isArgument_before fit
    have after := isArgument_after fit
    rw [decorateOne, if_neg filled, String.toList_append, String.toList_append,
      Text.openCommas_append, Text.openCommas_append, Text.openCommas_of_free before.free,
      Text.endsInside_of_free before.free, whole, Text.endsInside_append,
      Text.endsInside_of_free before.free]
    cases ends : Text.endsInside false element.toList with
    | true =>
      -- What the texts hold behind an open bracket was covered by the brackets of the token.
      rw [after.covered]
      simp [empty, List.count_eq_zero]
    | false =>
      rw [Text.openCommas_of_free after.free]
      simp [empty, List.count_eq_zero]

/-- The stored elements are cut again into as many as they were, exactly when no text around them
brings a comma. -/
theorem openCommas_decorate_iff {elements : List String} (some : elements ≠ [])
    (whole : ∀ element ∈ elements, Text.openCommas false element.toList = 0)
    (closed : ∀ element ∈ elements.dropLast, Text.endsInside false element.toList = false) :
    Text.openCommas false (decorate column elements).toList + 1 = elements.length ↔
      ((∃ element ∈ elements, element ≠ "") → ',' ∉ (column.before.getD "").toList) ∧
      ((∃ element ∈ elements, element ≠ "" ∧ Text.endsInside false element.toList = false) →
        ',' ∉ (column.after.getD "").toList) := by
  have parts : decorate column elements =
      Text.joinWith "," (elements.map (decorateOne column)) := rfl
  have ended : ∀ part ∈ (elements.map (decorateOne column)).dropLast,
      Text.endsInside false part.toList = false := by
    intro part mem
    rw [← List.map_dropLast] at mem
    obtain ⟨element, known, rfl⟩ := List.mem_map.1 mem
    exact endsInside_decorateOne fit (closed element known)
  have total := Text.openCommas_joinWith (by simpa using some) ended
  rw [← parts, List.length_map, List.map_map] at total
  have zero : Text.openCommas false (decorate column elements).toList + 1 = elements.length ↔
      ∀ element ∈ elements, Text.openCommas false (decorateOne column element).toList = 0 := by
    rw [total, Nat.add_eq_right, List.sum_eq_zero_iff_forall_eq_nat]
    simp
  rw [zero]
  constructor
  · intro none
    constructor
    · rintro ⟨element, mem, filled⟩
      exact ((openCommas_decorateOne_eq_zero_iff fit (whole element mem)).1
        (none element mem) filled).1
    · rintro ⟨element, mem, filled, ends⟩
      exact ((openCommas_decorateOne_eq_zero_iff fit (whole element mem)).1
        (none element mem) filled).2 ends
  · rintro ⟨before, after⟩ element mem
    rw [openCommas_decorateOne_eq_zero_iff fit (whole element mem)]
    exact fun filled => ⟨before ⟨element, mem, filled⟩, fun ends =>
      after ⟨element, mem, filled, ends⟩⟩

omit fit

/-- Booleans have no comma, before they are put in small letters and after. -/
theorem openCommas_stored (column : Column) (value : String) :
    Text.openCommas false (stored column value).toList = Text.openCommas false value.toList := by
  rw [stored]
  split
  next both =>
    rw [Bool.and_eq_true] at both
    have none {word : String} (own : DataType.isBoolText word = true) :
        Text.openCommas false word.toList = 0 := by
      obtain ⟨comma, bracket⟩ := DataType.free_of_isBoolText own
      rw [Text.openCommas_of_free bracket, List.count_eq_zero]
      exact comma
    rw [none both.2, none (DataType.isBoolText_asciiLower both.2)]
  · rfl

theorem stored_ne_empty {value : String} (filled : value ≠ "") : stored column value ≠ "" := by
  rw [stored]
  split
  · intro empty
    rw [Text.asciiLower, String.ofList_eq_empty_iff, List.map_eq_nil_iff,
      String.toList_eq_nil_iff] at empty
    exact filled empty
  · exact filled

/-- The elements of a text that is not empty are not stored as the empty text: two of them have a
comma between them, and one alone is the text. -/
theorem decorate_ne_empty {text : String} (filled : text ≠ "") :
    decorate column (Text.splitProtected ',' text) ≠ "" := by
  have joined := Text.joinPieces_protectedPieces ',' false text.toList
  rw [Text.splitProtected]
  cases pieces : Text.protectedPieces ',' false text.toList with
  | nil => exact absurd pieces (Text.protectedPieces_ne_nil _ _ _)
  | cons first rest =>
    cases rest with
    | nil =>
      rw [pieces, Text.joinPieces] at joined
      rw [joined, List.map_singleton, String.ofList_toList]
      show decorateOne column text ≠ ""
      rw [decorateOne, if_neg (by simpa using filled)]
      intro empty
      rw [String.append_eq_empty_iff, String.append_eq_empty_iff] at empty
      exact filled empty.1.2
    | cons second rest =>
      intro empty
      have comma := congrArg String.toList empty
      simp [decorate, Text.joinWith] at comma

theorem decorated_ne_empty {read : String} (filled : read ≠ "") : decorated column read ≠ "" := by
  rw [decorated]
  split
  · rw [Column.elements, if_neg (by simpa using filled)]
    split
    · exact decorate_ne_empty filled
    · show decorateOne column read ≠ ""
      rw [decorateOne, if_neg (by simpa using filled)]
      intro empty
      rw [String.append_eq_empty_iff, String.append_eq_empty_iff] at empty
      exact filled empty.1.2
  · exact filled

/-- The stored text of a cell that is not empty is cut into as many elements as were counted,
exactly when no text around them brings a comma. -/
theorem openCommas_decorated_iff (fit : column.HasArguments) (array : column.isArray = true)
    {read : String} (filled : read ≠ "") :
    Text.openCommas false (decorated column read).toList + 1 = (column.elements read).length ↔
      ((∃ element ∈ column.elements read, element ≠ "") →
        ',' ∉ (column.before.getD "").toList) ∧
      ((∃ element ∈ column.elements read, element ≠ "" ∧
          Text.endsInside false element.toList = false) →
        ',' ∉ (column.after.getD "").toList) := by
  have elements := Column.elements_of_array array filled
  have count := Text.length_splitProtected read
  rw [decorated, elements]
  split
  · have some : Text.splitProtected ',' read ≠ [] := by
      intro none
      rw [none] at count
      cases count
    exact openCommas_decorate_iff fit some (fun _ => Text.openCommas_of_mem_splitProtected)
      (fun _ => Text.endsInside_of_mem_dropLast)
  next plain =>
    have none : column.before = none ∧ column.after = none := by
      simpa [filled] using plain
    rw [none.1, none.2, count]
    simp

/-- An array is written as long as it was counted exactly when it keeps its length. -/
theorem length_ofCell_iff (fit : column.HasArguments) (array : column.isArray = true)
    (style : ValueStyle) (cell : Cell) :
    (Field.ofValue column style (ofCell column cell).value).value.length =
        (elementsOf column cell).length ↔
      KeepsLength column (elementsOf column cell) (ofCell column cell).value := by
  rw [Field.length_ofValue array, elementsOf, value_eq]
  generalize afterNull column (text column cell) = read
  by_cases empty : read = ""
  · -- An empty cell has no elements and stays empty.
    subst empty
    have value : stored column (decorated column "") = "" := by
      simp [stored, decorated, Text.asciiLower]
    have elements : column.elements "" = [] := rfl
    rw [value, elements]
    constructor
    · intro _
      exact ⟨by decide, by simp, by simp⟩
    · intro _
      rfl
  · have cut := openCommas_decorated_iff fit array empty
    have elements := Column.elements_of_array array empty
    have filled : decorated column read ≠ "" := decorated_ne_empty empty
    by_cases quotes : stored column (decorated column read) = "\"\""
    · -- A pair of quotes is written as the empty list, and there is something that was counted.
      rw [quotes]
      constructor
      · intro same
        have counted : (column.elements read).length ≠ 0 := by
          rw [elements, Text.length_splitProtected]
          exact Nat.succ_ne_zero _
        exact absurd same.symm counted
      · exact fun keeps => absurd rfl keeps.unquoted
    · have listed : ¬ Field.isEmptyList (stored column (decorated column read)) = true := by
        simp [Field.isEmptyList, quotes, stored_ne_empty filled]
      rw [if_neg listed, openCommas_stored, cut]
      exact ⟨fun both => ⟨quotes, both.1, both.2⟩, fun keeps => ⟨keeps.before, keeps.after⟩⟩

instance (column : Column) (elements : List String) (value : String) :
    Decidable (KeepsLength column elements value) :=
  decidable_of_iff (value ≠ "\"\"" ∧
      ((∃ element ∈ elements, element ≠ "") → ',' ∉ (column.before.getD "").toList) ∧
      ((∃ element ∈ elements, element ≠ "" ∧ Text.endsInside false element.toList = false) →
        ',' ∉ (column.after.getD "").toList))
    ⟨fun all => ⟨all.1, all.2.1, all.2.2⟩, fun keeps => ⟨keeps.unquoted, keeps.before, keeps.after⟩⟩

/-- The declared number of elements is the number of elements of a cell without problems. -/
theorem declared_of_clean (array : column.isArray = true) {cell : Cell}
    (clean : (ofCell column cell).problems = []) {declared : String}
    (size : column.arraySize = some declared) (filled : elementsOf column cell ≠ []) :
    writeNat (elementsOf column cell).length = declared := by
  rw [ofCell, List.append_eq_nil_iff, List.append_eq_nil_iff] at clean
  have none := clean.1.2
  rw [sizeProblem, size] at none
  by_contra other
  change ¬ writeNat (column.elements (afterNull column (text column cell))).length =
    declared at other
  change ¬ column.elements (afterNull column (text column cell)) = [] at filled
  simp [array, filled, other] at none

end CellReading

namespace RowIngest

variable {sheet : Sheet} {origin : SheetOrigin} {mergeGroups : List String} {schema : Schema}
  {grid : Grid} {row : TableRow} {column : Column} {slot : Nat}

/-- The number of elements that a cell of an array column was cut into is the declared one and the
recorded one. It is the number of elements that are written for the stored value exactly when the
cell keeps its length. -/
theorem ships_as_counted_iff (compiled : Header.compile? sheet origin mergeGroups = some schema)
    (clean : (ofGrid schema grid).diagnostics = []) (mem : row ∈ (ofGrid schema grid).rows)
    (place : (column, slot) ∈ schema.slots) (array : column.isArray = true) (style : ValueStyle) :
    let elements := CellReading.elementsOf column (grid.cell row.row column.gridColumn)
    (∀ declared, column.arraySize = some declared → elements ≠ [] →
      writeNat elements.length = declared) ∧
    (column.recordsLength = true →
      (ofGrid schema grid).sizes.get? schema.name slot row.row = some elements.length) ∧
    ((Field.ofValue column style (row.value slot)).value.length = elements.length ↔
      CellReading.KeepsLength column elements (row.value slot)) := by
  intro elements
  have known := readsFrom_ofGrid schema grid
  have fit := Header.hasArguments_of_compile? compiled column
    (List.mem_of_getElem? (Header.column?_of_mem_slots place))
  refine ⟨?_, ?_, ?_⟩
  · intro declared size filled
    have none : (readingAt grid row.row column).problems = [] :=
      known.problems clean row mem (column, slot) place
    rw [readingAt] at none
    exact CellReading.declared_of_clean array none size filled
  · intro counted
    have number : row.row ∈ (ofGrid schema grid).rows.map (·.row) := List.mem_map_of_mem mem
    have size : (readingAt grid row.row column).size = some elements.length := by
      rw [readingAt, CellReading.ofCell]
      dsimp only [CellReading.sizeOf]
      rw [if_pos counted]
      rfl
    rw [known.sizes _ place, if_pos number, size]
  · rw [known.values row mem _ place]
    exact CellReading.length_ofCell_iff fit array style _

/-- Bags with icons, whose names are put together from the cells. -/
def bags : Sheet := ⟨"bags", Grid.ofTexts
  [["", "", ""], ["#data", "id", "icons[]"], ["", "key,int", "string,prefix<ic_>,arraysize<2>"],
   ["", "data", "data"], ["", "1", "rope,a<b,c>"]]⟩

/-- The two icons of a bag are written as two elements. -/
theorem ships_as_counted_bags : ∃ schema, Header.compile? bags ⟨"", "bags.xlsx", "bags"⟩ [] = some schema ∧
    ∃ row ∈ (ofGrid schema bags.grid).rows, ∃ given ∈ schema.slots, given.1.arraySize = some "2" ∧
      row.value given.2 = "ic_rope,ic_a<b,c>" ∧
      (Field.ofValue given.1 .quoted (row.value given.2)).value.length =
        (CellReading.elementsOf given.1 (bags.grid.cell row.row given.1.gridColumn)).length := by
  have found : (Header.compile? bags ⟨"", "bags.xlsx", "bags"⟩ []).isSome := by decide
  obtain ⟨schema, compiled⟩ := Option.isSome_iff_exists.1 found
  have facts : ∀ schema ∈ Header.compile? bags ⟨"", "bags.xlsx", "bags"⟩ [],
      (ofGrid schema bags.grid).diagnostics = [] ∧
      ∃ row ∈ (ofGrid schema bags.grid).rows, ∃ given ∈ schema.slots,
        given.1.arraySize = some "2" ∧ row.value given.2 = "ic_rope,ic_a<b,c>" ∧
        given.1.isArray = true ∧ CellReading.KeepsLength given.1
          (CellReading.elementsOf given.1 (bags.grid.cell row.row given.1.gridColumn))
          (row.value given.2) := by
    decide
  obtain ⟨clean, row, mem, ⟨column, slot⟩, place, size, value, array, keeps⟩ :=
    facts schema compiled
  have shipped := ships_as_counted_iff compiled clean mem place array .quoted
  exact ⟨schema, compiled, row, mem, (column, slot), place, size, value, shipped.2.2.2 keeps⟩

/-- Marks with a comma in the text before them, and a spare column. -/
def marks : Sheet := ⟨"marks", Grid.ofTexts
  [["", "", "", ""], ["#data", "id", "tags[]", "spare[]"],
   ["", "key,int", "string,prefix<a,b>,arraysize<2>", "stream,arraysize<1>"],
   ["", "data", "data", "data"], ["", "1", "x,y", "\"\""]]⟩

/-- In a sheet without problems two tags are counted and four are written; a pair of quotes counts
as one element and is written as none. -/
theorem not_ships_as_counted_marks : ∃ schema,
    Header.compile? marks ⟨"", "marks.xlsx", "marks"⟩ [] = some schema ∧ schema.isClean = true ∧
    (ofGrid schema marks.grid).diagnostics = [] ∧
    ∃ row ∈ (ofGrid schema marks.grid).rows, ∃ tags ∈ schema.slots, ∃ spare ∈ schema.slots,
      tags.1.isArray = true ∧ spare.1.isArray = true ∧
      tags.1.arraySize = some "2" ∧ row.value tags.2 = "a,bx,a,by" ∧
      (CellReading.elementsOf tags.1 (marks.grid.cell row.row tags.1.gridColumn)).length = 2 ∧
      (Field.ofValue tags.1 (.typed tags.1.dataType) (row.value tags.2)).value.length = 4 ∧
      spare.1.arraySize = some "1" ∧
      (CellReading.elementsOf spare.1 (marks.grid.cell row.row spare.1.gridColumn)).length = 1 ∧
      (Field.ofValue spare.1 (.typed spare.1.dataType) (row.value spare.2)).value.length = 0 := by
  have found : (Header.compile? marks ⟨"", "marks.xlsx", "marks"⟩ []).isSome := by decide
  obtain ⟨schema, compiled⟩ := Option.isSome_iff_exists.1 found
  have facts : ∀ schema ∈ Header.compile? marks ⟨"", "marks.xlsx", "marks"⟩ [],
      schema.isClean = true ∧ (ofGrid schema marks.grid).diagnostics = [] ∧
      ∃ row ∈ (ofGrid schema marks.grid).rows, ∃ tags ∈ schema.slots, ∃ spare ∈ schema.slots,
        tags.1.isArray = true ∧ spare.1.isArray = true ∧
        tags.1.arraySize = some "2" ∧ row.value tags.2 = "a,bx,a,by" ∧
        (CellReading.elementsOf tags.1 (marks.grid.cell row.row tags.1.gridColumn)).length = 2 ∧
        (Field.ofValue tags.1 (.typed tags.1.dataType) (row.value tags.2)).value.length = 4 ∧
        spare.1.arraySize = some "1" ∧
        (CellReading.elementsOf spare.1 (marks.grid.cell row.row spare.1.gridColumn)).length = 1 ∧
        (Field.ofValue spare.1 (.typed spare.1.dataType) (row.value spare.2)).value.length = 0 := by
    decide
  exact ⟨schema, compiled, facts schema compiled⟩

end RowIngest

end DesignTables
