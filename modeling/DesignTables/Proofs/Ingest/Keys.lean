import DesignTables.Proofs.Header.Roles
import DesignTables.Proofs.Ingest.Selection
import DesignTables.Proofs.Number.Digits
import DesignTables.Proofs.Output.Lengths
import DesignTables.Proofs.Text.Pieces
import DesignTables.Proofs.Text.Wrapping

/-!
# The keys of a sheet as they are stored

Rows are told apart by what their key cells show, and the stored keys are what the key column makes
of that. Putting texts around elements keeps keys apart; rounding numbers and putting booleans into
small letters does not.
-/
namespace DesignTables

namespace CellReading

variable {column : Column}

/-- Two cells that show different texts are stored as one: they are numbers that are rounded to one
text, or they spell one boolean in different letters. -/
def Blends (column : Column) (cell other : Cell) : Prop :=
  ((typeOf column).isNumeric = true ∧ column.isArray = false ∧ text column cell = text column other) ∨
  (typeOf column = .bool ∧ DataType.isBoolText (decorated column cell.render) = true ∧
    Text.eqIgnoringCase (decorated column cell.render) (decorated column other.render) = true)

instance (column : Column) (cell other : Cell) : Decidable (Blends column cell other) :=
  inferInstanceAs (Decidable (_ ∨ _))

theorem decorateOne_eq (column : Column) (element : String) :
    (decorateOne column element).toList =
      Text.wrap (column.before.getD "").toList (column.after.getD "").toList element.toList := by
  rw [decorateOne, Text.wrap]
  by_cases empty : element = ""
  · subst empty
    rfl
  · rw [if_neg (by simpa using empty), if_neg (by simpa using empty), String.toList_append,
      String.toList_append]

/-- No two texts are stored with the same texts around their elements. -/
theorem eq_of_decorated_eq (fit : column.HasArguments) {s t : String} (filled : s ≠ "")
    (filled' : t ≠ "") (same : decorated column s = decorated column t) : s = t := by
  have notEmpty : s.isEmpty = false := by simpa using filled
  have notEmpty' : t.isEmpty = false := by simpa using filled'
  rw [decorated, decorated, notEmpty, notEmpty'] at same
  split at same
  · rw [Column.elements, Column.elements, notEmpty, notEmpty', if_neg Bool.false_ne_true,
      if_neg Bool.false_ne_true] at same
    have lists := congrArg String.toList same
    rw [decorate, decorate, Text.toList_joinWith, Text.toList_joinWith, List.map_map,
      List.map_map] at lists
    have wrapped (elements : List String) :
        elements.map (String.toList ∘ fun element => if element.isEmpty then ""
          else column.before.getD "" ++ element ++ column.after.getD "") =
        (elements.map String.toList).map (Text.wrap (column.before.getD "").toList
          (column.after.getD "").toList) := by
      rw [List.map_map]
      exact List.map_congr_left fun element _ => decorateOne_eq column element
    rw [wrapped, wrapped] at lists
    split at lists
    · have strings (u : String) : (Text.splitProtected ',' u).map String.toList =
          Text.protectedPieces ',' false u.toList := by
        rw [Text.splitProtected, List.map_map]
        exact (List.map_congr_left fun _ _ => String.toList_ofList).trans (List.map_id _)
      rw [strings, strings] at lists
      have pieces := Text.eq_of_joinPieces_wrap_eq (isArgument_after fit).free
        (Text.areCut_protectedPieces _) (Text.areCut_protectedPieces _)
        (Text.protectedPieces_ne_nil _ _ _) (Text.protectedPieces_ne_nil _ _ _) lists
      have joined := congrArg (Text.joinPieces ',') pieces
      rw [Text.joinPieces_protectedPieces, Text.joinPieces_protectedPieces] at joined
      exact String.toList_injective joined
    · have plain {u : String} (some : u ≠ "") : u.toList ≠ [] := by simpa using some
      simp only [List.map_singleton, Text.joinPieces, Text.wrap, if_neg (plain filled),
        if_neg (plain filled')] at lists
      exact String.toList_injective
        (List.append_cancel_left (List.append_cancel_right lists))
  · exact same

/-- Two values are stored as one when they are equal, or booleans in different letters. -/
theorem stored_eq_iff {s t : String} : stored column s = stored column t ↔
    s = t ∨ (typeOf column = .bool ∧ DataType.isBoolText s = true ∧
      Text.eqIgnoringCase s t = true) := by
  by_cases type : typeOf column = .bool
  · have kept {value : String} (own : DataType.isBoolText value = false) :
        stored column value = value := by
      rw [stored, own, Bool.and_false, if_neg Bool.false_ne_true]
    have lowered {value : String} (own : DataType.isBoolText value = true) :
        stored column value = Text.asciiLower value := by
      rw [stored, type, own]
      rfl
    rw [Text.eqIgnoringCase, beq_iff_eq]
    cases own : DataType.isBoolText s <;> cases other : DataType.isBoolText t
    · rw [kept own, kept other]
      simp
    · -- What a boolean is stored as is a boolean.
      rw [kept own, lowered other]
      constructor
      · intro same
        rw [same, DataType.isBoolText_asciiLower other] at own
        cases own
      · rintro (same | ⟨-, none, -⟩)
        · rw [same, other] at own
          cases own
        · cases none
    · rw [lowered own, kept other]
      constructor
      · intro same
        rw [← same, DataType.isBoolText_asciiLower own] at other
        cases other
      · rintro (same | ⟨-, -, same⟩)
        · rw [← same, own] at other
          cases other
        · have again := DataType.isBoolText_iff.1 own
          rw [same, ← DataType.isBoolText_iff, other] at again
          cases again
    · rw [lowered own, lowered other]
      simp only [type, true_and]
      exact ⟨.inr, fun either => either.elim (congrArg _) id⟩
  · rw [stored_of_ne_bool type, stored_of_ne_bool type]
    exact ⟨.inl, fun either => either.resolve_right fun other => type other.1⟩

/-- What a cell of a column without empty values is stored as. -/
theorem value_of_filled (filled : column.nullAllowed = false) (cell : Cell) :
    (ofCell column cell).value = stored column (decorated column (text column cell)) := by
  rw [value_eq, afterNull, filled, Bool.and_false, if_neg Bool.false_ne_true]

theorem text_ne_empty {cell : Cell} (shown : cell.render ≠ "") : text column cell ≠ "" := by
  unfold text
  split
  · split
    · exact Double.render_ne_empty _
    · exact shown
  · exact shown

theorem value_ne_empty (filled : column.nullAllowed = false) {cell : Cell}
    (shown : cell.render ≠ "") : (ofCell column cell).value ≠ "" := by
  rw [value_of_filled filled]
  exact stored_ne_empty (decorated_ne_empty (text_ne_empty shown))

/-- Two cells that show different texts are stored as one value exactly when the column blends
them. -/
theorem value_eq_iff_blends (fit : column.HasArguments) (filled : column.nullAllowed = false)
    {cell other : Cell} (shown : cell.render ≠ "") (shown' : other.render ≠ "")
    (apart : cell.render ≠ other.render) :
    (ofCell column cell).value = (ofCell column other).value ↔ Blends column cell other := by
  have texts : decorated column (text column cell) = decorated column (text column other) ↔
      text column cell = text column other :=
    ⟨eq_of_decorated_eq fit (text_ne_empty shown) (text_ne_empty shown'), congrArg _⟩
  rw [value_of_filled filled, value_of_filled filled, stored_eq_iff, texts, Blends]
  by_cases number : (typeOf column).isNumeric = true ∧ column.isArray = false
  · have type : typeOf column ≠ .bool := by
      intro type
      rw [type] at number
      cases number.1
    simp [number, type]
  · have plain (given : Cell) : text column given = given.render := by
      unfold text
      split
      · rw [if_neg]
        simpa using number
      · rfl
    rw [plain, plain]
    refine or_congr_left ⟨fun same => absurd same apart, fun all => ?_⟩
    exact absurd ⟨all.1, all.2.1⟩ number

end CellReading

namespace RowIngest

variable {sheet : Sheet} {origin : SheetOrigin} {mergeGroups : List String} {schema : Schema}

/-- What the stored rows of a keyed table show as their keys is never empty, and never shown
twice. -/
theorem SelectsFirsts.apart {grid : Grid} {ingest : RowIngest} {column : Column}
    (h : SelectsFirsts schema grid ingest column) :
    (∀ row ∈ ingest.rows, shownAt grid column row.row ≠ "") ∧
    ingest.rows.Pairwise fun row later =>
      shownAt grid column row.row ≠ shownAt grid column later.row := by
  have first : ∀ row ∈ ingest.rows, IsFirst (shownAt grid column) row.row ∧
      Header.firstDataRow ≤ row.row := by
    intro row stored
    have mem : row.row ∈ ingest.rows.map (·.row) := List.mem_map_of_mem stored
    rw [h.numbers, List.mem_filter, mem_dataRows, decide_eq_true_eq] at mem
    exact ⟨mem.2, mem.1.1⟩
  have ascending : (ingest.rows.map (·.row)).Pairwise (· < ·) := by
    rw [h.numbers, dataRows_eq]
    exact List.Pairwise.filter _ List.pairwise_lt_range'
  refine ⟨fun row stored => (first row stored).1.1, ?_⟩
  refine (List.pairwise_map.1 ascending).imp_of_mem ?_
  intro row later stored stored' before
  exact (first later stored').1.2 row.row before (first row stored).2

/-- The stored keys of a table are never empty, and they are pairwise different exactly when the
key column blends no two of the cells that they are read from. -/
theorem keys_apart_iff (compiled : Header.compile? sheet origin mergeGroups = some schema)
    (clean : schema.isClean = true) (keyed : schema.options.valueOnly = false) (grid : Grid) :
    ∃ column slot, schema.key = some slot ∧ (column, slot) ∈ schema.slots ∧
      (∀ row ∈ (ofGrid schema grid).rows, row.value slot ≠ "") ∧
      (((ofGrid schema grid).rows.map (·.value slot)).Nodup ↔
        (ofGrid schema grid).rows.Pairwise fun row later =>
          ¬ CellReading.Blends column (grid.cell row.row column.gridColumn)
            (grid.cell later.row column.gridColumn)) := by
  obtain ⟨column, slot, key, place⟩ := exists_keyColumn compiled clean keyed
  have fit := Header.hasArguments_of_compile? compiled column
    (List.mem_of_getElem? (Header.column?_of_mem_slots place))
  have filled := Header.nullAllowed_of_key compiled clean key place
  obtain ⟨shown, apart⟩ := (selectsFirsts_ofGrid keyed key place grid).apart
  have value : ∀ row ∈ (ofGrid schema grid).rows, row.value slot =
      (CellReading.ofCell column (grid.cell row.row column.gridColumn)).value := fun row stored =>
    (readsFrom_ofGrid schema grid).values row stored (column, slot) place
  refine ⟨column, slot, key, place, fun row stored => ?_, ?_⟩
  · rw [value row stored]
    exact CellReading.value_ne_empty filled (shown row stored)
  · have blends : ∀ row ∈ (ofGrid schema grid).rows, ∀ later ∈ (ofGrid schema grid).rows,
        shownAt grid column row.row ≠ shownAt grid column later.row →
        (row.value slot = later.value slot ↔
          CellReading.Blends column (grid.cell row.row column.gridColumn)
            (grid.cell later.row column.gridColumn)) := by
      intro row stored later stored' different
      rw [value row stored, value later stored']
      exact CellReading.value_eq_iff_blends fit filled (shown row stored) (shown later stored')
        different
    rw [List.Nodup, List.pairwise_map]
    constructor
    · intro nodup
      refine (nodup.and apart).imp_of_mem ?_
      intro row later stored stored' both
      exact fun same => both.1 ((blends row stored later stored' both.2).2 same)
    · intro unblended
      refine (unblended.and apart).imp_of_mem ?_
      intro row later stored stored' both
      exact fun same => both.1 ((blends row stored later stored' both.2).1 same)

/-- Routes that are told apart by their stops, which are stored with a word and a comma in front. -/
def routes : Sheet := ⟨"routes", Grid.ofTexts
  [["", ""], ["#data", "stops[]"], ["", "key,string,prefix<to,>"], ["", "data"],
   ["", "a"], ["", "a,b"], ["", ",a"], ["", "a"]]⟩

/-- Three routes are stored, and their keys are different. -/
theorem keys_apart_routes : ∃ schema,
    Header.compile? routes ⟨"", "routes.xlsx", "routes"⟩ [] = some schema ∧
    (ofGrid schema routes.grid).rows.map (·.cells) = [["to,a"], ["to,a,to,b"], [",to,a"]] ∧
    ∃ slot, schema.key = some slot ∧
      ((ofGrid schema routes.grid).rows.map (·.value slot)).Nodup := by
  have found : (Header.compile? routes ⟨"", "routes.xlsx", "routes"⟩ []).isSome := by
    decide
  obtain ⟨schema, compiled⟩ := Option.isSome_iff_exists.1 found
  have facts : ∀ schema ∈ Header.compile? routes ⟨"", "routes.xlsx", "routes"⟩ [],
      schema.isClean = true ∧ schema.options.valueOnly = false ∧
      (ofGrid schema routes.grid).rows.map (·.cells) = [["to,a"], ["to,a,to,b"], [",to,a"]] ∧
      ∀ given ∈ schema.slots, (ofGrid schema routes.grid).rows.Pairwise fun row later =>
        ¬ CellReading.Blends given.1 (routes.grid.cell row.row given.1.gridColumn)
          (routes.grid.cell later.row given.1.gridColumn) := by
    decide
  obtain ⟨clean, keyed, cells, unblended⟩ := facts schema compiled
  obtain ⟨column, slot, key, place, -, apart⟩ := keys_apart_iff compiled clean keyed routes.grid
  exact ⟨schema, compiled, cells, slot, key, apart.2 (unblended _ place)⟩

/-- Depths that differ in the tenth decimal place. -/
def depths : Sheet := ⟨"depths", Grid.ofRows
  [[], [.text "#type", .text "depth"], [.empty, .text "key,float"], [.empty, .text "data"],
   [.empty, .number (.ofDecimal false 10000000001 (-10))],
   [.empty, .number (.ofDecimal false 10000000002 (-10))]]⟩

/-- Answers in capitals and in small letters. -/
def answers : Sheet := ⟨"answers", Grid.ofTexts
  [["", ""], ["#type", "answer"], ["", "key,bool"], ["", "data"], ["", "TRUE"], ["", "true"]]⟩

/-- A sheet without problems whose rows are stored under one key. -/
def SharesKey (sheet : Sheet) : Prop := ∃ schema,
  Header.compile? sheet ⟨"", "book.xlsx", sheet.name⟩ [] = some schema ∧
  schema.isClean = true ∧ schema.options.valueOnly = false ∧
  (ofGrid schema sheet.grid).diagnostics = [] ∧ schema.key = some 0 ∧
  ¬ ((ofGrid schema sheet.grid).rows.map (·.value 0)).Nodup

/-- Two depths are stored under one key, and so are two answers. -/
theorem not_keys_apart : SharesKey depths ∧ SharesKey answers := by
  have found : ∀ sheet ∈ [depths, answers],
      (Header.compile? sheet ⟨"", "book.xlsx", sheet.name⟩ []).isSome := by decide
  have facts : ∀ sheet ∈ [depths, answers],
      ∀ schema ∈ Header.compile? sheet ⟨"", "book.xlsx", sheet.name⟩ [],
        schema.isClean = true ∧ schema.options.valueOnly = false ∧
        (ofGrid schema sheet.grid).diagnostics = [] ∧ schema.key = some 0 ∧
        ¬ ((ofGrid schema sheet.grid).rows.map (·.value 0)).Nodup := by
    decide +kernel
  have shares : ∀ sheet ∈ [depths, answers], SharesKey sheet := by
    intro sheet mem
    obtain ⟨schema, compiled⟩ := Option.isSome_iff_exists.1 (found sheet mem)
    exact ⟨schema, compiled, facts sheet mem schema compiled⟩
  exact ⟨shares depths (by simp), shares answers (by simp)⟩

end RowIngest

end DesignTables
