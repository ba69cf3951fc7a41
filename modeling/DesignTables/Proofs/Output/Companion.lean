import DesignTables.Proofs.Header.WellFormed
import DesignTables.Proofs.Output.RecordClass

/-!
# Companion code that fits itself

The container of a table takes the key column of the header, its record class the exported columns,
and nothing compares the two. They fit when the key column is exported and no array, so that the
container names a field of the record by the type it is declared with. Titles and groups are written
as they stand in the sheet, so these must be words of code.
-/
namespace DesignTables

/-- The field that an exported column is declared as. -/
def CodeField.ofColumn (column : Column) : CodeField :=
  ⟨fieldType column, column.isArray, column.title⟩

namespace SchemaCode

/-- The fields of a record class are those that a table needs. -/
structure FieldsFit (schema : Schema) (fields : List CodeField) : Prop where
  /-- There is a field for every exported column, in their order, a sequence for an array. -/
  columns : fields = schema.exported.map fun given => .ofColumn given.1
  apart : (fields.map (·.name)).Nodup
  named : ∀ field ∈ fields, field.name ≠ ""
  /-- The container names one of the fields by the type that this is declared with. -/
  keyed : ∀ keyType keyField, containerOf schema = .keyed keyType keyField →
    ∃ field ∈ fields, field.name = keyField ∧ field.declared = keyType

/-- The record class in the companion code of a table can be read, and its fields fit. -/
def IsConsistent (schema : Schema) (options : Options) : Prop :=
  ∃ fields, readRecord? ((ofSchema schema).render options) = some fields ∧ FieldsFit schema fields

/-- What the header of a table needs for companion code that is consistent. -/
structure CanDeclare (schema : Schema) : Prop where
  titles : ∀ column slot, (column, slot) ∈ schema.exported → IsWord column.title
  groups : ∀ column slot, (column, slot) ∈ schema.exported → ∀ group ∈ column.enumGroup,
    IsWord group ∧ (column.isArray = false → Text.dropSuffix? "[]" group = none)
  key : schema.options.valueOnly = false → ∀ key ∈ schema.keyColumn?,
    key.isExported = true ∧ key.isArray = false

/-- The types of columns that are no enumerations are declared by words. -/
theorem isWord_name (type : DataType) :
    IsWord type.name ∧ Text.dropSuffix? "[]" type.name = none := by
  cases type <;> exact ⟨⟨by decide, by decide⟩, by decide⟩

theorem type_ofColumn (column : Column) : (CodeField.ofColumn column).type =
    column.enumGroup.getD (column.dataType.getD .string).name := by
  rw [CodeField.ofColumn, fieldType]
  cases column.enumGroup <;> cases column.dataType <;> rfl

/-- A column can be declared when its title and its group, if it has one, are words. -/
theorem isDeclarable_ofColumn_iff {column : Column} : IsDeclarable (.ofColumn column) ↔
    IsWord column.title ∧ ∀ group ∈ column.enumGroup,
      IsWord group ∧ (column.isArray = false → Text.dropSuffix? "[]" group = none) := by
  have own := type_ofColumn column
  constructor
  · rintro ⟨name, type, scalar⟩
    refine ⟨name, fun group known => ?_⟩
    rw [known, Option.getD_some] at own
    rw [own] at type scalar
    exact ⟨type, scalar⟩
  · rintro ⟨name, groups⟩
    cases known : column.enumGroup with
    | some group =>
      rw [known, Option.getD_some] at own
      obtain ⟨word, scalar⟩ := groups group known
      rw [← own] at word scalar
      exact ⟨name, word, scalar⟩
    | none =>
      rw [known, Option.getD_none] at own
      obtain ⟨word, scalar⟩ := isWord_name (column.dataType.getD .string)
      rw [← own] at word scalar
      exact ⟨name, word, fun _ => scalar⟩

theorem containerOf_eq_keyed_iff {schema : Schema} {keyType keyField : String} :
    containerOf schema = .keyed keyType keyField ↔ ∃ key, schema.keyColumn? = some key ∧
      schema.options.valueOnly = false ∧ fieldType key = keyType ∧ key.title = keyField := by
  rw [containerOf]
  cases schema.keyColumn? with
  | none => simp
  | some key => cases schema.options.valueOnly <;> simp

theorem fields_ofSchema (schema : Schema) :
    (ofSchema schema).fields = schema.exported.map fun given => .ofColumn given.1 := rfl

theorem declared_eq_type_iff {field : CodeField} :
    field.declared = field.type ↔ field.isArray = false := by
  rw [CodeField.declared, String.append_eq_left_iff]
  cases field.isArray <;> simp

section

variable {mergeGroups : List String} {schema : Schema} {sheet : Sheet} {origin : SheetOrigin}

theorem mem_exported_iff {given : Column × Nat} :
    given ∈ schema.exported ↔ given ∈ schema.slots ∧ given.1.isExported = true :=
  List.mem_filter

/-- The columns of a table can be declared exactly if every field of its record class can. -/
theorem isDeclarable_fields_iff : (∀ field ∈ (ofSchema schema).fields, IsDeclarable field) ↔
    ∀ column slot, (column, slot) ∈ schema.exported → IsWord column.title ∧
      ∀ group ∈ column.enumGroup,
        IsWord group ∧ (column.isArray = false → Text.dropSuffix? "[]" group = none) := by
  rw [fields_ofSchema, List.forall_mem_map]
  exact ⟨fun known column slot mem => isDeclarable_ofColumn_iff.1 (known _ mem),
    fun known given mem => isDeclarable_ofColumn_iff.2 (known given.1 given.2 mem)⟩

variable (h : Header.compile? sheet origin mergeGroups = some schema)
  (clean : schema.isClean = true)

include h clean

theorem filled_ofSchema : (ofSchema schema).fields ≠ [] := by
  obtain ⟨column, mem, written⟩ := Header.exported_of_compile? h clean
  obtain ⟨slot, place⟩ := exists_mem_zipIdx mem
  exact List.ne_nil_of_mem (List.mem_map_of_mem (mem_exported_iff.2 ⟨place, written⟩))

/-- Companion code is consistent when titles and groups are words and the key column is an exported
one that is no array. -/
theorem isConsistent_of_canDeclare (can : CanDeclare schema) (options : Options) :
    IsConsistent schema options := by
  have declarable := isDeclarable_fields_iff.2 fun column slot mem =>
    ⟨can.titles column slot mem, can.groups column slot mem⟩
  refine ⟨_, readRecord?_render options (filled_ofSchema h clean) declarable, ?_⟩
  refine ⟨rfl, ?_, fun field mem => (declarable field mem).name.some, ?_⟩
  · have names : (ofSchema schema).fields.map (·.name) =
        (schema.exported.map (·.1)).map (·.title) := by
      rw [fields_ofSchema, List.map_map, List.map_map]
      rfl
    have titles : (schema.exported.map (·.1)).Sublist schema.columns := by
      have sub := (List.filter_sublist (l := schema.slots) (p := (·.1.isExported))).map Prod.fst
      rwa [Schema.slots, List.zipIdx_map_fst] at sub
    rw [names]
    exact (Header.nodup_titles_of_compile? h clean).sublist (titles.map _)
  · intro keyType keyField keyed
    obtain ⟨key, known, required, rfl, rfl⟩ := containerOf_eq_keyed_iff.1 keyed
    obtain ⟨written, scalar⟩ := can.key required key known
    obtain ⟨slot, -, place⟩ := Option.bind_eq_some_iff.1 known
    have mem : (key, slot) ∈ schema.exported :=
      mem_exported_iff.2 ⟨List.mk_mem_zipIdx_iff_getElem?.2 place, written⟩
    exact ⟨.ofColumn key, List.mem_map_of_mem (f := fun given : Column × Nat =>
      CodeField.ofColumn given.1) mem, rfl, declared_eq_type_iff.2 scalar⟩

/-- Where companion code is consistent, titles and groups are words and the key column is an exported
one that is no array. -/
theorem canDeclare_of_isConsistent {options : Options} (own : IsConsistent schema options) :
    CanDeclare schema := by
  obtain ⟨fields, read, fit⟩ := own
  have declarable := isDeclarable_of_readRecord? read
  rw [fit.columns, ← fields_ofSchema, isDeclarable_fields_iff] at declarable
  refine ⟨fun column slot mem => (declarable column slot mem).1,
    fun column slot mem => (declarable column slot mem).2, fun required key known => ?_⟩
  obtain ⟨field, mem, name, type⟩ :=
    fit.keyed _ _ (containerOf_eq_keyed_iff.2 ⟨key, known, required, rfl, rfl⟩)
  rw [fit.columns] at mem
  obtain ⟨⟨column, place⟩, written, rfl⟩ := List.mem_map.1 mem
  obtain ⟨inside, exported⟩ := mem_exported_iff.1 written
  obtain ⟨slot, -, stands⟩ := Option.bind_eq_some_iff.1 known
  -- No other column has the title of the key, so the field is that of the key.
  obtain rfl : column = key := eq_of_key_eq (Header.nodup_titles_of_compile? h clean)
    (List.mem_of_getElem? (Header.column?_of_mem_slots inside)) (List.mem_of_getElem? stands) name
  exact ⟨exported, declared_eq_type_iff.1 type⟩

/-- Companion code is consistent exactly if every exported title and group is a word and the key
column, where the table has one, is exported and no array; the options do not matter. -/
theorem isConsistent_iff (options : Options) : IsConsistent schema options ↔ CanDeclare schema :=
  ⟨canDeclare_of_isConsistent h clean, fun can => isConsistent_of_canDeclare h clean can options⟩

end

/-- Goods with a grade, prices by region, and a note that is checked only. -/
def goods : Sheet := ⟨"shop_goods", Grid.ofTexts
  [["", "", "", "", ""], ["#data", "id", "grade", "prices[]", "note"],
   ["", "key,int", "type<grade>", "float", "string"], ["", "data", "data", "data", "check"]]⟩

set_option maxRecDepth 100000 in
/-- The companion code of the goods is consistent in every namespace. -/
theorem isConsistent_goods : ∃ schema,
    Header.compile? goods ⟨"", "goods.xlsx", "shop_goods"⟩ [] = some schema ∧
    schema.isClean = true ∧ containerOf schema = .keyed "int" "id" ∧
    (ofSchema schema).fields = [⟨"int", false, "id"⟩, ⟨"GRADE", false, "grade"⟩,
      ⟨"float", true, "prices"⟩] ∧
    ∀ space, IsConsistent schema { Options.standard with codeNamespace := space } := by
  have found : (Header.compile? goods ⟨"", "goods.xlsx", "shop_goods"⟩ []).isSome := by
    decide
  obtain ⟨schema, compiled⟩ := Option.isSome_iff_exists.1 found
  have facts : ∀ schema ∈ Header.compile? goods ⟨"", "goods.xlsx", "shop_goods"⟩ [],
      schema.isClean = true ∧ containerOf schema = .keyed "int" "id" ∧
      (ofSchema schema).fields = [⟨"int", false, "id"⟩, ⟨"GRADE", false, "grade"⟩,
        ⟨"float", true, "prices"⟩] ∧
      ∀ key ∈ schema.keyColumn?, key.isExported = true ∧ key.isArray = false := by
    decide
  obtain ⟨clean, keyed, fields, key⟩ := facts schema compiled
  have declarable : ∀ field ∈ (ofSchema schema).fields, IsDeclarable field := by
    rw [fields]
    intro field mem
    simp only [List.mem_cons, List.not_mem_nil, or_false] at mem
    rcases mem with rfl | rfl | rfl <;>
      exact ⟨⟨by decide, by decide⟩, ⟨by decide, by decide⟩, by decide⟩
  have columns := isDeclarable_fields_iff.1 declarable
  have can : CanDeclare schema := ⟨fun column slot mem => (columns column slot mem).1,
    fun column slot mem => (columns column slot mem).2, fun _ => key⟩
  exact ⟨schema, compiled, clean, keyed, fields,
    fun space => (isConsistent_iff compiled clean _).2 can⟩

/-- Routes whose key is a list of stops. -/
def routes : Sheet := ⟨"routes", Grid.ofTexts
  [["", "", ""], ["#data", "stops[]", "length"], ["", "key,int", "float"], ["", "data", "data"]]⟩

/-- Visits whose key is checked but not written. -/
def visits : Sheet := ⟨"visits", Grid.ofTexts
  [["", "", ""], ["#data", "id", "guest"], ["", "key,int", "string"], ["", "check", "data"]]⟩

/-- Remarks whose title is nothing but brackets. -/
def remarks : Sheet := ⟨"remarks", Grid.ofTexts
  [["", "", ""], ["#data", "id", "[]"], ["", "key,int", "string"], ["", "data", "data"]]⟩

/-- Nothing is wrong with the header of a sheet, and companion code is written for it that is not
consistent. -/
def WritesUnfit (sheet : Sheet) : Prop := ∃ schema,
  Header.compile? sheet ⟨"", "book.xlsx", sheet.name⟩ [] = some schema ∧
  schema.isClean = true ∧ schema.kind = .data ∧ schema.options.nocode = false ∧
  ¬ IsConsistent schema Options.standard

set_option maxRecDepth 100000 in
/-- The container of the routes takes single stops for keys, that of the visits names a field that is
not declared, and a field of the remarks has no name. -/
theorem not_isConsistent_routes : WritesUnfit routes ∧ WritesUnfit visits ∧ WritesUnfit remarks := by
  have found : ∀ sheet ∈ [routes, visits, remarks],
      (Header.compile? sheet ⟨"", "book.xlsx", sheet.name⟩ []).isSome := by decide
  have facts : ∀ sheet ∈ [routes, visits, remarks],
      ∀ schema ∈ Header.compile? sheet ⟨"", "book.xlsx", sheet.name⟩ [],
        schema.isClean = true ∧ schema.kind = .data ∧ schema.options.nocode = false ∧
        ((schema.options.valueOnly = false ∧ ∃ key ∈ schema.keyColumn?,
            ¬ (key.isExported = true ∧ key.isArray = false)) ∨
          ∃ given ∈ schema.exported, given.1.title = "") := by
    decide
  have unfit : ∀ sheet ∈ [routes, visits, remarks], WritesUnfit sheet := by
    intro sheet mem
    obtain ⟨schema, compiled⟩ := Option.isSome_iff_exists.1 (found sheet mem)
    obtain ⟨clean, kind, written, fault⟩ := facts sheet mem schema compiled
    refine ⟨schema, compiled, clean, kind, written, fun own => ?_⟩
    have can := canDeclare_of_isConsistent compiled clean own
    rcases fault with ⟨required, key, known, unfit⟩ | ⟨⟨column, slot⟩, place, nameless⟩
    · exact unfit (can.key required key known)
    · exact (can.titles column slot place).some nameless
  exact ⟨unfit routes (by simp), unfit visits (by simp), unfit remarks (by simp)⟩

end SchemaCode

end DesignTables
