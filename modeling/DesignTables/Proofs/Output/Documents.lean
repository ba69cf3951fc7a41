import DesignTables.Output.Records
import DesignTables.Proofs.Json.Verbatim
import DesignTables.Proofs.Text.Pieces

/-!
# The documents that record files are meant to hold

A row is an object with a member for each written cell. Nothing is escaped when it is rendered, so
the file is made of the tokens of the document written verbatim. A single record is moved one tab to
the left, which loses line breaks and tabs only.
-/
namespace DesignTables

open Json

namespace Text

theorem thinned_dropReturn (line : List Char) : Thinned line (dropReturn line) := by
  rw [dropReturn]
  split
  · next last =>
    have split : line = line.dropLast ++ ['\r'] := by
      rw [List.dropLast_append_getLast?]
      exact last
    have drop : Thinned (line.dropLast ++ ['\r']) (line.dropLast ++ []) :=
      (Thinned.refl _).append (.of_all rfl)
    rwa [← split, List.append_nil] at drop
  · exact .refl line

theorem thinned_dropPrefix? (start : String) (layout : start.toList.all isLayout = true)
    (s : String) : Thinned s.toList ((dropPrefix? start s).getD s).toList := by
  rw [dropPrefix?]
  split
  · next found =>
    obtain ⟨rest, split⟩ := List.isPrefixOf_iff_prefix.1 found
    have drop : s.toList.drop start.length = rest := by
      rw [← split, ← String.length_toList, List.drop_left]
    rw [Option.getD_some, String.toList_ofList, drop, ← split]
    exact (Thinned.of_all layout).append (.refl rest)
  · exact .refl _

/-- Lines that are thinned one by one, with the breaks between them. -/
theorem thinned_lines {shift : String → String} (each : ∀ line, Thinned line.toList (shift line).toList)
    (ps : List (List Char)) :
    Thinned (joinPieces '\n' ps)
      (joinWith "\n" (((endLines ps).map String.ofList).map shift)).toList := by
  have one (line : List Char) : Thinned line (shift (String.ofList line)).toList := by
    have h := each (String.ofList line)
    rwa [String.toList_ofList] at h
  induction ps with
  | nil => exact .nil
  | cons line rest ih =>
    cases rest with
    | nil =>
      rw [endLines]
      split
      · next empty =>
        rw [List.isEmpty_iff.1 empty]
        exact .nil
      · exact one line
    | cons next rest =>
      have first := (thinned_dropReturn line).trans (one (dropReturn line))
      have split : joinPieces '\n' (line :: next :: rest) =
          line ++ (['\n'] ++ joinPieces '\n' (next :: rest)) := rfl
      rw [split]
      have lines : endLines (line :: next :: rest) = dropReturn line :: endLines (next :: rest) := rfl
      rw [lines]
      cases more : endLines (next :: rest) with
      | nil =>
        rw [more] at ih
        have last : Thinned (['\n'] ++ joinPieces '\n' (next :: rest)) [] := .drop rfl ih
        have both := first.append last
        rwa [List.append_nil] at both
      | cons other others =>
        rw [more] at ih
        have both := first.append ((Thinned.refl ['\n']).append ih)
        have join : joinWith "\n" (((dropReturn line :: other :: others).map String.ofList).map shift) =
            shift (String.ofList (dropReturn line)) ++ "\n" ++
              joinWith "\n" (((other :: others).map String.ofList).map shift) := rfl
        rw [join, String.toList_append, String.toList_append, List.append_assoc]
        exact both

end Text

theorem OutputTable.thinned_dedent (text : String) : Thinned text.toList (dedent text).toList := by
  have lines := Text.thinned_lines
    (fun line => Text.thinned_dropPrefix? "\t" rfl line)
    (Text.pieces (· == '\n') text.toList)
  rw [Text.joinPieces_pieces] at lines
  exact lines.trans (Text.thinned_dropPrefix? "\n" rfl _)

namespace Json

/-- The tokens of a member of an object. -/
def tokensOf (member : String × Json) : List Token :=
  .string member.1 :: .nameSeparator :: member.2.tokens

/-- The text spells the document: its tokens stand there as they are, with nothing but white space
between them. -/
def IsSpelledBy (document : Json) (text : String) : Prop :=
  Written.Verbatim document.tokens text.toList

theorem tokens_array (items : List Json) : (array items).tokens =
    .beginArray :: (separated (items.map Json.tokens) ++ [.endArray]) := by
  have each : itemTokens items = items.map Json.tokens := by
    induction items with
    | nil => rfl
    | cons item items ih => rw [itemTokens, ih, List.map_cons]
  rw [Json.tokens, each]

theorem tokens_object (members : List (String × Json)) : (object members).tokens =
    .beginObject :: (separated (members.map tokensOf) ++ [.endObject]) := by
  have each : memberTokens members = members.map tokensOf := by
    induction members with
    | nil => rfl
    | cons member members ih => rw [memberTokens, ih, List.map_cons]; rfl
  rw [Json.tokens, each]

end Json

namespace Text

variable {spell : Token → List Char → Prop}

/-- Texts of tokens with commas between them, and any white space around the commas. -/
theorem written_joinWith {α : Type} {read : α → List Token} {text : α → String} {sep : String}
    (comma : Written spell [.valueSeparator] sep.toList) {xs : List α}
    (each : ∀ x ∈ xs, Written spell (read x) (text x).toList) :
    Written spell (separated (xs.map read)) (joinWith sep (xs.map text)).toList := by
  induction xs with
  | nil => exact .nil
  | cons x xs ih =>
    obtain ⟨first, others⟩ := List.forall_mem_cons.1 each
    cases xs with
    | nil => exact first
    | cons y xs =>
      have tail := first.append (comma.append (ih others))
      have same : (joinWith sep ((x :: y :: xs).map text)).toList =
          (text x).toList ++ (sep.toList ++ (joinWith sep ((y :: xs).map text)).toList) := by
        have step : joinWith sep ((x :: y :: xs).map text) =
          text x ++ sep ++ joinWith sep ((y :: xs).map text) := rfl
        rw [step, String.toList_append, String.toList_append, List.append_assoc]
      rw [same]
      exact tail

end Text

/-- A title with the text of a value is written as a member. -/
theorem written_member (title : String) {json : Json} {text : String}
    (written : Written.Verbatim json.tokens text.toList) :
    Written.Verbatim (tokensOf (title, json)) ("\t\t\"" ++ title ++ "\": " ++ text).toList := by
  have name : Written.Verbatim [.string title] ("\t\t\"" ++ title ++ "\"").toList := by
    refine .padded ['\t', '\t'] [] ?_ rfl rfl
    rw [String.toList_append, String.toList_append, List.append_nil]
    rfl
  have colon : Written.Verbatim [.nameSeparator] ": ".toList := .padded [] [' '] rfl rfl rfl
  have split : ("\t\t\"" ++ title ++ "\": " ++ text).toList =
      ("\t\t\"" ++ title ++ "\"").toList ++ (": ".toList ++ text.toList) := by
    have opening : ("\": " : String) = "\"" ++ ": " := rfl
    rw [opening]
    simp only [String.toList_append, List.append_assoc]
  rw [split]
  exact name.append (colon.append written)

/-- A value as it is meant to be read. -/
def ValueStyle.json (style : ValueStyle) (value : String) : Json :=
  if style.quotes value then .string value else .literal value

theorem ValueStyle.written_render (style : ValueStyle) (value : String) :
    Written.Verbatim (style.json value).tokens (style.render value).toList := by
  rw [json, render]
  split
  · refine Written.single ?_
    rw [String.toList_append, String.toList_append, List.append_assoc]
    rfl
  · exact Written.single rfl

/-- A cell that is written, with its style and value. -/
structure OutputCell where
  column : Column
  slot : Nat
  style : ValueStyle
  value : String

namespace OutputCell

/-- The texts that the value is written with: one, or those of the elements. -/
def texts (cell : OutputCell) : List String :=
  if !cell.column.isArray then [Field.restoreCommas cell.column cell.value]
  else if Field.isEmptyList cell.value then []
  else (Text.splitProtected ',' cell.value).map (Field.restoreCommas cell.column)

/-- The value of the cell in the document. -/
def json (cell : OutputCell) : Json :=
  if !cell.column.isArray then cell.style.json (Field.restoreCommas cell.column cell.value)
  else .array (cell.texts.map cell.style.json)

/-- The member of the cell. -/
def member (cell : OutputCell) : String × Json := (cell.column.title, cell.json)

/-- The field of the cell. -/
def field (cell : OutputCell) : Field := Field.ofValue cell.column cell.style cell.value

end OutputCell

namespace OutputCell

variable {cell : OutputCell}

theorem field_of_scalar (one : cell.column.isArray = false) : cell.field =
    ⟨cell.column.title,
      .scalar (cell.style.render (Field.restoreCommas cell.column cell.value))⟩ := by
  rw [field, Field.ofValue, one]
  rfl

theorem field_of_array (list : cell.column.isArray = true) : cell.field =
    ⟨cell.column.title, .list (cell.texts.map cell.style.render)⟩ := by
  rw [field, Field.ofValue, texts, list]
  cases Field.isEmptyList cell.value with
  | true => rfl
  | false => simp only [Bool.not_true, Bool.false_eq_true, if_false, List.map_map]; rfl

/-- What follows the title of a field. -/
theorem written_json (cell : OutputCell) : ∃ text,
    cell.field.render = "\t\t\"" ++ cell.column.title ++ "\": " ++ text ∧
      Written.Verbatim cell.json.tokens text.toList := by
  cases list : cell.column.isArray with
  | false =>
    rw [field_of_scalar list, json, list]
    exact ⟨_, rfl, cell.style.written_render _⟩
  | true =>
    have document : cell.json = .array (cell.texts.map cell.style.json) := by
      rw [json, list]
      rfl
    rw [field_of_array list, document]
    cases texts : cell.texts with
    | nil =>
      refine ⟨"[]", rfl, ?_⟩
      have opening : Written.Verbatim [.beginArray] ['['] := .single rfl
      exact opening.append (.single rfl)
    | cons first others =>
      refine ⟨"[\n\t\t\t" ++ Text.joinWith ",\n\t\t\t" (cell.texts.map cell.style.render) ++
        "\n\t\t]", ?_, ?_⟩
      · rw [texts, Field.render, List.map_cons]
        simp only [String.append_assoc]
      · rw [← texts, tokens_array, List.map_map, String.toList_append, String.toList_append,
          List.append_assoc]
        have opening : Written.Verbatim [.beginArray] "[\n\t\t\t".toList :=
          .padded [] ['\n', '\t', '\t', '\t'] rfl rfl rfl
        have comma : Written.Verbatim [.valueSeparator] ",\n\t\t\t".toList :=
          .padded [] ['\n', '\t', '\t', '\t'] rfl rfl rfl
        have closing : Written.Verbatim [.endArray] "\n\t\t]".toList :=
          .padded ['\n', '\t', '\t'] [] rfl rfl rfl
        have items := Text.written_joinWith comma fun text (_ : text ∈ cell.texts) =>
          cell.style.written_render text
        exact opening.append (items.append closing)

theorem written_field (cell : OutputCell) :
    Written.Verbatim (tokensOf cell.member) cell.field.render.toList := by
  obtain ⟨text, render, written⟩ := cell.written_json
  rw [render]
  exact written_member cell.column.title written

end OutputCell

section

variable {α β : Type}

/-- A record of fields that are written as members is written as the object of these. -/
theorem written_renderRecord {field : α → Field} {member : α → String × Json} {xs : List α}
    (each : ∀ x ∈ xs, Written.Verbatim (tokensOf (member x)) (field x).render.toList) :
    Written.Verbatim (Json.object (xs.map member)).tokens (renderRecord (xs.map field)).toList := by
  have opening : Written.Verbatim [.beginObject] "\n\t\x7b\n".toList :=
    .padded ['\n', '\t'] ['\n'] rfl rfl rfl
  have comma : Written.Verbatim [.valueSeparator] ",\n".toList := .padded [] ['\n'] rfl rfl rfl
  have closing : Written.Verbatim [.endObject] "\n\t\x7d".toList :=
    .padded ['\n', '\t'] [] rfl rfl rfl
  have members := Text.written_joinWith comma each
  rw [tokens_object, renderRecord, List.map_map, List.map_map, String.toList_append,
    String.toList_append, List.append_assoc]
  exact opening.append (members.append closing)

/-- Records of fields that are written as members are written as the objects of these. -/
theorem written_renderRecords {field : α → Field} {member : α → String × Json}
    {records : List (List α)}
    (each : ∀ xs ∈ records, ∀ x ∈ xs,
      Written.Verbatim (tokensOf (member x)) (field x).render.toList) :
    Written.Verbatim
      (separated (records.map fun xs => (Json.object (xs.map member)).tokens))
      (renderRecords (records.map fun xs => xs.map field)).toList := by
  have comma : Written.Verbatim [.valueSeparator] ",".toList := .padded [] [] rfl rfl rfl
  rw [renderRecords, List.map_map]
  exact Text.written_joinWith comma fun xs mem => written_renderRecord (each xs mem)

/-- A list of records between brackets is written as the array of their objects. -/
theorem written_list {field : α → Field} {member : α → String × Json} {records : List (List α)}
    (each : ∀ xs ∈ records, ∀ x ∈ xs,
      Written.Verbatim (tokensOf (member x)) (field x).render.toList) {close : String}
    (closing : Written.Verbatim [.endArray] close.toList) :
    Written.Verbatim (Json.array (records.map fun xs => .object (xs.map member))).tokens
      ("[" ++ renderRecords (records.map fun xs => xs.map field) ++ close).toList := by
  have opening : Written.Verbatim [.beginArray] "[".toList := .padded [] [] rfl rfl rfl
  rw [tokens_array, List.map_map, String.toList_append, String.toList_append, List.append_assoc]
  exact opening.append ((written_renderRecords each).append closing)

end

namespace OutputTable

/-- The cells of a row that are written. -/
def cells (table : OutputTable) (overlay : Overlay) (row : TableRow) : List OutputCell :=
  table.schema.exported.filterMap fun (column, slot) =>
    let value := table.valueOf overlay row slot
    if Text.eqIgnoringCase value "null" then none
    else some ⟨column, slot, table.styleOf column slot, value⟩

/-- The cells of each row that has any. -/
def cellRows (table : OutputTable) (overlay : Overlay) (rows : List TableRow) :
    List (List OutputCell) :=
  (rows.map (table.cells overlay)).filter (!·.isEmpty)

variable {table : OutputTable} {overlay : Overlay} {rows : List TableRow}

theorem fields_eq (row : TableRow) :
    table.fields overlay row = (table.cells overlay row).map OutputCell.field := by
  rw [fields, cells, List.map_filterMap]
  refine List.filterMap_congr ?_
  rintro ⟨column, slot⟩ -
  dsimp only
  split <;> rfl

theorem records_eq : table.records overlay rows =
    (table.cellRows overlay rows).map fun cells => cells.map OutputCell.field := by
  have fields : table.fields overlay =
      (fun cells : List OutputCell => cells.map OutputCell.field) ∘ table.cells overlay :=
    funext fields_eq
  rw [records, cellRows, fields, ← List.map_map, List.filter_map]
  congr 2
  funext cells
  rw [Function.comp_apply, List.isEmpty_map]

theorem mem_cells_iff {row : TableRow} {cell : OutputCell} : cell ∈ table.cells overlay row ↔
    ∃ given ∈ table.schema.exported,
      Text.eqIgnoringCase (table.valueOf overlay row given.2) "null" = false ∧
        cell = ⟨given.1, given.2, table.styleOf given.1 given.2,
          table.valueOf overlay row given.2⟩ := by
  rw [cells, List.mem_filterMap]
  refine exists_congr fun given => and_congr_right fun _ => ?_
  dsimp only
  split
  · next null => exact ⟨fun h => (Option.some_ne_none _ h.symm).elim, fun h => by simp [null] at h⟩
  · next other =>
    rw [Bool.not_eq_true] at other
    exact ⟨fun h => ⟨other, (Option.some.inj h).symm⟩, fun h => congrArg some h.2.symm⟩

/-- A slot belongs to one column. -/
theorem eq_of_slot {given given' : Column × Nat} (mem : given ∈ table.schema.exported)
    (mem' : given' ∈ table.schema.exported) (same : given.2 = given'.2) : given = given' := by
  have found := List.mk_mem_zipIdx_iff_getElem?.1 (List.mem_filter.1 mem).1
  have found' := List.mk_mem_zipIdx_iff_getElem?.1 (List.mem_filter.1 mem').1
  rw [same, found'] at found
  exact Prod.ext (Option.some.inj found).symm same

theorem mem_cellRows_iff {cells : List OutputCell} : cells ∈ table.cellRows overlay rows ↔
    (∃ row ∈ rows, table.cells overlay row = cells) ∧ cells ≠ [] := by
  rw [cellRows, List.mem_filter, List.mem_map, Bool.not_eq_true', List.isEmpty_eq_false_iff]

end OutputTable

end DesignTables
