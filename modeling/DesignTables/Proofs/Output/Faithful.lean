import DesignTables.Output.Files
import DesignTables.Proofs.Output.Documents

/-!
# When a file of rows or of localized strings is the JSON text that it should be

Since nothing is escaped, that depends on the written texts alone: what stands between quotes must
need no escape, and what stands bare must be a literal.
-/
namespace DesignTables

open Json

namespace Json

/-- Every token of the document may be written verbatim. -/
def IsSound (document : Json) : Prop := ∀ token ∈ document.tokens, token.IsSound

theorem isSound_string_iff {text : String} :
    (string text).IsSound ↔ text.toList.all isPlain = true := List.forall_mem_singleton

theorem isSound_literal_iff {spelling : String} :
    (literal spelling).IsSound ↔ isLiteral spelling = true := List.forall_mem_singleton

theorem forall_separated_iff {lists : List (List Token)} :
    (∀ token ∈ separated lists, token.IsSound) ↔
      ∀ tokens ∈ lists, ∀ token ∈ tokens, token.IsSound := by
  induction lists with
  | nil => exact ⟨fun _ => List.forall_mem_nil _, fun _ => List.forall_mem_nil _⟩
  | cons tokens lists ih =>
    rw [List.forall_mem_cons, ← ih]
    cases lists with
    | nil => exact ⟨fun all => ⟨all, List.forall_mem_nil _⟩, fun all => all.1⟩
    | cons next lists =>
      have step : separated (tokens :: next :: lists) =
        tokens ++ .valueSeparator :: separated (next :: lists) := rfl
      rw [step, List.forall_mem_append, List.forall_mem_cons]
      exact ⟨fun ⟨first, _, others⟩ => ⟨first, others⟩,
        fun ⟨first, others⟩ => ⟨first, trivial, others⟩⟩

theorem isSound_array_iff {items : List Json} :
    (array items).IsSound ↔ ∀ item ∈ items, item.IsSound := by
  rw [IsSound, tokens_array, List.forall_mem_cons, List.forall_mem_append, forall_separated_iff,
    List.forall_mem_map]
  exact ⟨fun ⟨_, all, _⟩ => all, fun all =>
    ⟨trivial, all, List.forall_mem_singleton.2 trivial⟩⟩

theorem isSound_object_iff {members : List (String × Json)} : (object members).IsSound ↔
    ∀ member ∈ members, member.1.toList.all isPlain = true ∧ member.2.IsSound := by
  rw [IsSound, tokens_object, List.forall_mem_cons, List.forall_mem_append, forall_separated_iff,
    List.forall_mem_map]
  refine ⟨fun ⟨_, all, _⟩ member mem => ?_, fun all =>
    ⟨trivial, fun member mem => ?_, List.forall_mem_singleton.2 trivial⟩⟩
  · obtain ⟨name, rest⟩ := List.forall_mem_cons.1 (all member mem)
    exact ⟨name, (List.forall_mem_cons.1 rest).2⟩
  · obtain ⟨name, value⟩ := all member mem
    exact List.forall_mem_cons.2 ⟨name, List.forall_mem_cons.2 ⟨trivial, value⟩⟩

end Json

/-- A file holds a list of documents: it counts them and its text spells them. It is a JSON text of
them exactly when every one of their tokens may be written verbatim. -/
structure Rendered.HoldsList (content : Rendered) (items : List Json) : Prop where
  count : content.entries = items.length
  spelled : (Json.array items).IsSpelledBy content.text
  reads : (Json.array items).IsReadFrom content.text ↔ ∀ item ∈ items, item.IsSound

/-- Records of fields that are written as members, between brackets. -/
theorem Rendered.holdsList_records {α : Type} {field : α → Field} {member : α → String × Json}
    {records : List (List α)}
    (each : ∀ xs ∈ records, ∀ x ∈ xs,
      Written.Verbatim (tokensOf (member x)) (field x).render.toList) {close : String}
    (closing : Written.Verbatim [.endArray] close.toList) :
    HoldsList
      ⟨"[" ++ renderRecords (records.map fun xs => xs.map field) ++ close, records.length⟩
      (records.map fun xs => .object (xs.map member)) where
  count := (List.length_map _).symm
  spelled := written_list each closing
  reads := (isReadFrom_iff (written_list each closing) (.refl _)).trans isSound_array_iff

/-- Whether a value may be written in a style: without an escape between quotes, and bare as a
literal. -/
def ValueStyle.admits (style : ValueStyle) (value : String) : Bool :=
  if style.quotes value then value.toList.all isPlain else isLiteral value

theorem ValueStyle.isSound_json_iff {style : ValueStyle} {value : String} :
    (style.json value).IsSound ↔ style.admits value = true := by
  rw [json, admits]
  split
  · exact isSound_string_iff
  · exact isSound_literal_iff

namespace OutputCell

/-- Whether the title and the texts of a cell may be written as they are. -/
def IsSound (cell : OutputCell) : Prop :=
  cell.column.title.toList.all isPlain = true ∧
    ∀ text ∈ cell.texts, cell.style.admits text = true

instance (cell : OutputCell) : Decidable cell.IsSound := inferInstanceAs (Decidable (_ ∧ _))

theorem isSound_json_iff {cell : OutputCell} :
    cell.json.IsSound ↔ ∀ text ∈ cell.texts, cell.style.admits text = true := by
  cases list : cell.column.isArray with
  | false =>
    have document : cell.json =
        cell.style.json (Field.restoreCommas cell.column cell.value) := by
      rw [json, list]
      rfl
    have texts : cell.texts = [Field.restoreCommas cell.column cell.value] := by
      rw [texts, list]
      rfl
    rw [document, texts, ValueStyle.isSound_json_iff, List.forall_mem_singleton]
  | true =>
    have document : cell.json = .array (cell.texts.map cell.style.json) := by
      rw [json, list]
      rfl
    rw [document, isSound_array_iff, List.forall_mem_map]
    exact forall₂_congr fun text _ => ValueStyle.isSound_json_iff

end OutputCell

/-- The rows that are written to one file, either as a list or as a record that stands alone. -/
structure RowFile where
  path : String
  rows : List TableRow
  alone : Bool

namespace OutputTable

/-- The rows as documents: an object for each that has a written cell. -/
def objects (table : OutputTable) (overlay : Overlay) (rows : List TableRow) : List Json :=
  (table.cellRows overlay rows).map fun cells => .object (cells.map OutputCell.member)

/-- The objects are those of the rows that have a written cell. -/
theorem mem_objects_iff {table : OutputTable} {overlay : Overlay} {rows : List TableRow}
    {record : Json} : record ∈ table.objects overlay rows ↔
      ∃ row ∈ rows, table.cells overlay row ≠ [] ∧
        record = .object ((table.cells overlay row).map OutputCell.member) := by
  rw [objects, List.mem_map]
  constructor
  · rintro ⟨cells, given, rfl⟩
    obtain ⟨⟨row, mem, rfl⟩, filled⟩ := mem_cellRows_iff.1 given
    exact ⟨row, mem, filled, rfl⟩
  · rintro ⟨row, mem, filled, rfl⟩
    exact ⟨_, mem_cellRows_iff.2 ⟨⟨row, mem, rfl⟩, filled⟩, rfl⟩

/-- A list of rows holds their objects. -/
theorem holdsList_renderRows (table : OutputTable) (overlay : Overlay) (rows : List TableRow) :
    (table.renderRows overlay rows).HoldsList (table.objects overlay rows) := by
  have closing : Written.Verbatim [.endArray] "\n]".toList := .padded ['\n'] [] rfl rfl rfl
  have held := Rendered.holdsList_records
    (fun cells (_ : cells ∈ table.cellRows overlay rows) cell _ => cell.written_field) closing
  rwa [renderRows, records_eq, List.length_map]

/-- The record file of a table, or its shard files. -/
def rowFiles (table : OutputTable) (options : Options) : List RowFile :=
  match table.shards with
  | some layout => layout.plan.shards.map fun shard =>
    ⟨Path.join options.outputRoot (ShardLayout.shardFile layout.group shard.number),
      ShardLayout.shardRows table shard, false⟩
  | none =>
    if table.schema.options.valueOnly then
      [⟨Output.recordsPath options table.schema, table.rows, true⟩]
    else [⟨Output.recordsPath options table.schema, table.keyedRows, false⟩]

/-- A cell that validation did not substitute and whose commas stand for themselves. -/
structure Untouched (table : OutputTable) (overlay : Overlay) (row : TableRow) (column : Column)
    (slot : Nat) : Prop where
  unchanged : slot ∉ table.changed
  own : overlay.get? table.schema.name row.row slot = none
  whole : column.commaStandIn = none

instance (table : OutputTable) (overlay : Overlay) (row : TableRow) (column : Column)
    (slot : Nat) : Decidable (table.Untouched overlay row column slot) :=
  decidable_of_iff (slot ∉ table.changed ∧ overlay.get? table.schema.name row.row slot = none ∧
      column.commaStandIn = none)
    ⟨fun ⟨unchanged, own, whole⟩ => ⟨unchanged, own, whole⟩,
      fun ⟨unchanged, own, whole⟩ => ⟨unchanged, own, whole⟩⟩

namespace Untouched

variable {table : OutputTable} {overlay : Overlay} {row : TableRow} {column : Column} {slot : Nat}

theorem valueOf_eq (h : table.Untouched overlay row column slot) :
    table.valueOf overlay row slot = row.value slot := by
  rw [valueOf, h.own]
  rfl

theorem styleOf_eq (h : table.Untouched overlay row column slot) :
    table.styleOf column slot = .typed column.dataType := by
  rw [styleOf, if_neg]
  rw [List.contains_iff_mem]
  exact h.unchanged

theorem restoreCommas_eq (h : table.Untouched overlay row column slot) (value : String) :
    Field.restoreCommas column value = value := by
  rw [Field.restoreCommas, h.whole]

end Untouched

/-- An untouched cell of text. -/
structure Keeps (table : OutputTable) (overlay : Overlay) (row : TableRow) (column : Column)
    (slot : Nat) : Prop extends Untouched table overlay row column slot where
  text : column.dataType = some .string ∨ column.dataType = some .localText

instance (table : OutputTable) (overlay : Overlay) (row : TableRow) (column : Column)
    (slot : Nat) : Decidable (table.Keeps overlay row column slot) :=
  decidable_of_iff (table.Untouched overlay row column slot ∧
      (column.dataType = some .string ∨ column.dataType = some .localText))
    ⟨fun ⟨own, text⟩ => ⟨own, text⟩, fun ⟨own, text⟩ => ⟨own, text⟩⟩

end OutputTable

/-- An ingested text as it should be read back: element by element for an array. -/
def Column.readBack (column : Column) (value : String) : Json :=
  if column.isArray then .array ((column.elements value).map Json.string) else .string value

namespace RowFile

variable (file : RowFile) (table : OutputTable) (overlay : Overlay)

/-- What is written to the file. -/
def content : Rendered :=
  let records := table.records overlay file.rows
  ⟨if file.alone then OutputTable.dedent (renderRecords records)
    else "[" ++ renderRecords records ++ "\n]", records.length⟩

/-- The document that the file should hold: an object for each row with a written cell. An object
that stands alone must be the only one. -/
def document? : Option Json :=
  let objects := (table.cellRows overlay file.rows).map fun cells =>
    Json.object (cells.map OutputCell.member)
  match file.alone, objects with
  | false, objects => some (.array objects)
  | true, [single] => some single
  | true, _ => none

/-- The file is a JSON text of the document, and the texts that validation left as they were are
read back from it. -/
structure Faithful : Prop where
  reads : ∃ document, file.document? table overlay = some document ∧
    document.IsReadFrom (file.content table overlay).text
  keeps : ∀ row ∈ file.rows, ∀ given ∈ table.schema.exported,
    table.Keeps overlay row given.1 given.2 →
      ∃ cell ∈ table.cells overlay row,
        cell.slot = given.2 ∧ cell.json = given.1.readBack (row.value given.2)

/-- The texts of the file need no escape and its bare values are literals, a record that stands
alone is the only one, and no text is taken for a missing value or an empty list. -/
structure IsSound : Prop where
  one : file.alone = true → (table.cellRows overlay file.rows).length = 1
  cells : ∀ row ∈ file.rows, ∀ cell ∈ table.cells overlay row, cell.IsSound
  spared : ∀ row ∈ file.rows, ∀ given ∈ table.schema.exported,
    table.Keeps overlay row given.1 given.2 →
      Text.eqIgnoringCase (row.value given.2) "null" = false ∧
        (given.1.isArray = true → row.value given.2 ≠ "\"\"")

instance : Decidable (file.IsSound table overlay) :=
  decidable_of_iff ((file.alone = true → (table.cellRows overlay file.rows).length = 1) ∧
      (∀ row ∈ file.rows, ∀ cell ∈ table.cells overlay row, cell.IsSound) ∧
      ∀ row ∈ file.rows, ∀ given ∈ table.schema.exported,
        table.Keeps overlay row given.1 given.2 →
          Text.eqIgnoringCase (row.value given.2) "null" = false ∧
            (given.1.isArray = true → row.value given.2 ≠ "\"\""))
    ⟨fun ⟨one, cells, spared⟩ => ⟨one, cells, spared⟩,
      fun ⟨one, cells, spared⟩ => ⟨one, cells, spared⟩⟩

variable {file table overlay}

/-- The object of some cells is sound when its cells are. -/
theorem isSound_members_iff {cells : List OutputCell} :
    (Json.object (cells.map OutputCell.member)).IsSound ↔ ∀ cell ∈ cells, cell.IsSound := by
  rw [isSound_object_iff, List.forall_mem_map]
  exact forall₂_congr fun cell _ => and_congr_right fun _ => OutputCell.isSound_json_iff

theorem forall_cellRows_iff {rows : List TableRow} :
    (∀ cells ∈ table.cellRows overlay rows, ∀ cell ∈ cells, cell.IsSound) ↔
      ∀ row ∈ rows, ∀ cell ∈ table.cells overlay row, cell.IsSound := by
  constructor
  · intro all row mem cell own
    exact all _ (OutputTable.mem_cellRows_iff.2 ⟨⟨row, mem, rfl⟩, List.ne_nil_of_mem own⟩) cell own
  · intro all cells mem
    obtain ⟨⟨row, known, rfl⟩, -⟩ := OutputTable.mem_cellRows_iff.1 mem
    exact all row known

theorem isReadFrom_list_iff (list : file.alone = false) :
    (Json.array ((table.cellRows overlay file.rows).map fun cells =>
        .object (cells.map OutputCell.member))).IsReadFrom (file.content table overlay).text ↔
      ∀ row ∈ file.rows, ∀ cell ∈ table.cells overlay row, cell.IsSound := by
  have text : (file.content table overlay).text = (table.renderRows overlay file.rows).text := by
    rw [content, list]
    rfl
  rw [text, ← forall_cellRows_iff]
  refine (table.holdsList_renderRows overlay file.rows).reads.trans ?_
  rw [OutputTable.objects, List.forall_mem_map]
  exact forall₂_congr fun cells _ => isSound_members_iff

theorem isReadFrom_single_iff (alone : file.alone = true) {cells : List OutputCell}
    (one : table.cellRows overlay file.rows = [cells]) :
    (Json.object (cells.map OutputCell.member)).IsReadFrom (file.content table overlay).text ↔
      ∀ row ∈ file.rows, ∀ cell ∈ table.cells overlay row, cell.IsSound := by
  have written := written_renderRecord fun cell (_ : cell ∈ cells) => cell.written_field
  have text : (file.content table overlay).text =
      OutputTable.dedent (renderRecord (cells.map OutputCell.field)) := by
    have single : renderRecords [cells.map OutputCell.field] =
      renderRecord (cells.map OutputCell.field) := rfl
    rw [content, OutputTable.records_eq, one, List.map_singleton, single, if_pos alone]
  rw [text, isReadFrom_iff written (OutputTable.thinned_dedent _)]
  change Json.IsSound _ ↔ _
  rw [isSound_members_iff, ← forall_cellRows_iff, one, List.forall_mem_singleton]

theorem reads_iff : (∃ document, file.document? table overlay = some document ∧
      document.IsReadFrom (file.content table overlay).text) ↔
    (file.alone = true → (table.cellRows overlay file.rows).length = 1) ∧
      ∀ row ∈ file.rows, ∀ cell ∈ table.cells overlay row, cell.IsSound := by
  cases alone : file.alone with
  | false =>
    rw [← isReadFrom_list_iff alone]
    unfold document?
    rw [alone]
    constructor
    · rintro ⟨document, found, read⟩
      obtain rfl := Option.some.inj found
      exact ⟨fun h => absurd h Bool.false_ne_true, read⟩
    · rintro ⟨-, read⟩
      exact ⟨_, rfl, read⟩
  | true =>
    unfold document?
    rw [alone]
    match one : table.cellRows overlay file.rows with
    | [cells] =>
      rw [← isReadFrom_single_iff alone one]
      constructor
      · rintro ⟨document, found, read⟩
        obtain rfl := Option.some.inj found
        exact ⟨fun _ => rfl, read⟩
      · rintro ⟨-, read⟩
        exact ⟨_, rfl, read⟩
    | [] =>
      exact ⟨fun ⟨_, found, _⟩ => (Option.some_ne_none _ found.symm).elim,
        fun ⟨single, _⟩ => absurd (single rfl) (by decide)⟩
    | _ :: _ :: rest =>
      refine ⟨fun ⟨_, found, _⟩ => (Option.some_ne_none _ found.symm).elim, fun ⟨more, _⟩ => ?_⟩
      have two := more rfl
      rw [List.length_cons, List.length_cons] at two
      omega

end RowFile

namespace OutputTable.Keeps

variable {table : OutputTable} {overlay : Overlay} {row : TableRow} {column : Column} {slot : Nat}

theorem quotes (h : table.Keeps overlay row column slot) (value : String) :
    (ValueStyle.typed column.dataType).quotes value = true := by
  rcases h.text with text | text <;> rw [text] <;> rfl

/-- The cell is read back as it was ingested, unless it was ingested as a pair of quotes. -/
theorem json_eq_iff (h : table.Keeps overlay row column slot) (value : String) :
    OutputCell.json ⟨column, slot, .typed column.dataType, value⟩ = column.readBack value ↔
      (column.isArray = true → value ≠ "\"\"") := by
  have json (value : String) : (ValueStyle.typed column.dataType).json value = .string value := by
    rw [ValueStyle.json, h.quotes value]
    rfl
  cases list : column.isArray with
  | false =>
    refine ⟨fun _ h => absurd h Bool.false_ne_true, fun _ => ?_⟩
    rw [OutputCell.json, Column.readBack, list, h.restoreCommas_eq]
    exact json value
  | true =>
    have read : column.readBack value = .array ((column.elements value).map Json.string) := by
      rw [Column.readBack, list]
      rfl
    have texts : OutputCell.texts ⟨column, slot, .typed column.dataType, value⟩ =
        if Field.isEmptyList value then [] else Text.splitProtected ',' value := by
      have same : Field.restoreCommas column = id := funext h.restoreCommas_eq
      rw [OutputCell.texts, list, same, List.map_id]
      rfl
    have written : OutputCell.json ⟨column, slot, .typed column.dataType, value⟩ =
        .array ((if Field.isEmptyList value then [] else Text.splitProtected ',' value).map
          Json.string) := by
      rw [← texts, ← funext json, OutputCell.json, list]
      rfl
    rw [read, written, Column.elements, list, Field.isEmptyList]
    cases empty : value.isEmpty with
    | true =>
      refine ⟨fun _ _ pair => ?_, fun _ => rfl⟩
      rw [pair] at empty
      exact absurd empty (by decide)
    | false =>
      by_cases pair : value = "\"\""
      · refine ⟨fun same => ?_, fun other => absurd pair (other rfl)⟩
        rw [pair] at same
        exact absurd (Json.array.inj same) (List.cons_ne_nil _ _).symm
      · refine ⟨fun _ _ => pair, fun _ => ?_⟩
        rw [beq_false_of_ne pair]
        rfl

end OutputTable.Keeps

namespace RowFile

variable {file : RowFile} {table : OutputTable} {overlay : Overlay}

/-- A text that validation left as it was is read back unless it is not written at all or written
as an empty list. -/
theorem keeps_iff {row : TableRow} {given : Column × Nat} (mem : given ∈ table.schema.exported)
    (h : table.Keeps overlay row given.1 given.2) :
    (∃ cell ∈ table.cells overlay row,
        cell.slot = given.2 ∧ cell.json = given.1.readBack (row.value given.2)) ↔
      Text.eqIgnoringCase (row.value given.2) "null" = false ∧
        (given.1.isArray = true → row.value given.2 ≠ "\"\"") := by
  rw [← h.json_eq_iff, ← h.styleOf_eq]
  constructor
  · rintro ⟨cell, held, place, read⟩
    obtain ⟨own, known, filled, rfl⟩ := OutputTable.mem_cells_iff.1 held
    obtain rfl := OutputTable.eq_of_slot known mem place
    rw [h.valueOf_eq] at filled read
    exact ⟨filled, read⟩
  · rintro ⟨filled, read⟩
    rw [← h.valueOf_eq] at filled
    refine ⟨_, OutputTable.mem_cells_iff.2 ⟨given, mem, filled, rfl⟩, rfl, ?_⟩
    rw [h.valueOf_eq]
    exact read

/-- A file is faithful exactly when what is written to it is sound. -/
theorem faithful_iff_isSound : file.Faithful table overlay ↔ file.IsSound table overlay := by
  constructor
  · rintro ⟨reads, keeps⟩
    obtain ⟨one, cells⟩ := reads_iff.1 reads
    exact ⟨one, cells, fun row mem given known own =>
      (keeps_iff known own).1 (keeps row mem given known own)⟩
  · rintro ⟨one, cells, spared⟩
    exact ⟨reads_iff.2 ⟨one, cells⟩, fun row mem given known own =>
      (keeps_iff known own).2 (spared row mem given known own)⟩

end RowFile

namespace ShardLayout

/-- The entry of a key and a file in an index. -/
def entry (layout : ShardLayout) (key : Int) (file : String) : Json :=
  .object [(layout.field, .literal (writeInt key)), ("filename", .string file)]

/-- The entries of the index: each key with the file of its shard. -/
def entries (layout : ShardLayout) : List Json :=
  layout.plan.indexEntries.map fun (key, number) =>
    layout.entry key (shardFile layout.group number)

/-- An index file holds the entries of its index. -/
theorem holdsList_renderIndex (layout : ShardLayout) :
    layout.renderIndex.HoldsList layout.entries := by
  -- a field of an entry: how its value is written, its title and its value
  let field (given : ValueStyle × String × String) : Field :=
    ⟨given.2.1, .scalar (given.1.render given.2.2)⟩
  let member (given : ValueStyle × String × String) : String × Json :=
    (given.2.1, given.1.json given.2.2)
  let fields (given : Int × Nat) : List (ValueStyle × String × String) :=
    [(.bare, layout.field, writeInt given.1),
     (.quoted, "filename", shardFile layout.group given.2)]
  have closing : Written.Verbatim [.endArray] "\n]".toList := .padded ['\n'] [] rfl rfl rfl
  have each : ∀ record ∈ layout.plan.indexEntries.map fields, ∀ given ∈ record,
      Written.Verbatim (tokensOf (member given)) (field given).render.toList :=
    fun _ _ given _ => written_member given.2.1 (given.1.written_render given.2.2)
  have held := Rendered.holdsList_records each closing
  rw [List.map_map, List.map_map, List.length_map] at held
  rw [renderIndex, List.length_map]
  exact held

end ShardLayout

namespace LocalizationRegistry

/-- The titles and texts of a string in a language. -/
def titledTexts (language : String) (entry : LocalizedString) : List (String × String) :=
  [("key", entry.key), ("text", (entry.text? language).getD ""), ("text_category", entry.category)]

/-- The member of a text under its title. -/
def member (titled : String × String) : String × Json := (titled.1, .string titled.2)

/-- The field of a text under its title. -/
def field (titled : String × String) : Field :=
  ⟨titled.1, .scalar (ValueStyle.quoted.render titled.2)⟩

/-- The document of the strings in a language: an object for each of them in the order of keys. -/
def document (registry : LocalizationRegistry) (language : String) : Json :=
  .array (registry.sorted.map fun entry => .object ((titledTexts language entry).map member))

theorem written_field (titled : String × String) :
    Written.Verbatim (tokensOf (member titled)) (field titled).render.toList :=
  written_member titled.1 (ValueStyle.quoted.written_render titled.2)

/-- A file of strings holds an object for each of them in the order of keys. -/
theorem holdsList_render_sorted (registry : LocalizationRegistry) (language : String) :
    (registry.render language).HoldsList
      (registry.sorted.map fun entry => .object ((titledTexts language entry).map member)) := by
  have closing : Written.Verbatim [.endArray] "]".toList := .padded [] [] rfl rfl rfl
  have held := Rendered.holdsList_records
    (fun texts (_ : texts ∈ registry.sorted.map (titledTexts language)) titled _ =>
      written_field titled) closing
  rw [List.map_map, List.map_map, List.length_map] at held
  rw [render, List.length_map]
  exact held

/-- A file of strings is a JSON text of its document exactly when none of its texts needs an
escape. -/
theorem isReadFrom_render_iff {registry : LocalizationRegistry} {language : String} :
    (registry.document language).IsReadFrom (registry.render language).text ↔
      ∀ entry ∈ registry.strings, ∀ titled ∈ titledTexts language entry,
        titled.2.toList.all isPlain = true := by
  have order : ∀ entry, entry ∈ registry.sorted ↔ entry ∈ registry.strings :=
    fun entry => List.mem_mergeSort
  have titles : ∀ title ∈ ["key", "text", "text_category"], title.toList.all isPlain = true := by
    decide
  refine (registry.holdsList_render_sorted language).reads.trans ?_
  rw [List.forall_mem_map]
  refine forall_congr' fun entry => ?_
  rw [order entry]
  refine imp_congr_right fun _ => ?_
  rw [isSound_object_iff, List.forall_mem_map]
  refine forall₂_congr fun titled mem => ?_
  rw [member, isSound_string_iff]
  exact and_iff_right (titles titled.1 (List.mem_map_of_mem mem))

end LocalizationRegistry

end DesignTables
