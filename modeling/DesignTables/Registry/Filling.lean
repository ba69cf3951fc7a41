import DesignTables.Ingest.Sheet
import DesignTables.Registry.Enums
import DesignTables.Registry.Localization

/-!
The rows of enumeration and localization sheets put into the registries.
-/
namespace DesignTables

/-- The slots of the columns that every enumeration sheet has. -/
structure EnumSlots where
  group : Nat
  text : Nat
  value : Nat
  comment : Nat
deriving DecidableEq, Repr

/-- The slots of an enumeration sheet, or nothing when a column is missing. -/
def EnumSlots.of? (schema : Schema) : Option EnumSlots := do
  let group ← schema.slotOf? "type_group"
  let text ← schema.slotOf? "type_text"
  let value ← schema.slotOf? "type_value"
  let comment ← schema.slotOf? "type_desc"
  return ⟨group, text, value, comment⟩

namespace EnumRegistry

/-- The row of an enumeration sheet as a row of the registry. -/
def rowOf (schema : Schema) (slots : EnumSlots) (row : TableRow) : EnumRow where
  sheet := schema.name
  group := row.value slots.group
  text := row.value slots.text
  value := row.value slots.value
  comment := row.value slots.comment
  nocode := schema.options.nocode

/-- Registers a row, or reports why it cannot be registered. -/
def takeRow (schema : Schema) (slots : EnumSlots) (state : EnumRegistry × List Diagnostic)
    (row : TableRow) : EnumRegistry × List Diagnostic :=
  let given := rowOf schema slots row
  match state.1.register given with
  | .ok registry => (registry, state.2)
  | .error fault =>
    let col := ((schema.column? slots.text).map (·.gridColumn)).getD 0
    let problem := Problem.refusedEnumRow fault given.group given.text given.value
    (state.1, state.2 ++ [Diagnostic.of problem schema.origin fault.label row.row col])

/-- Registers the rows of an enumeration sheet; rows with problems are left out. -/
def registerSheet (registry : EnumRegistry) (schema : Schema) (rows : List TableRow) :
    EnumRegistry × List Diagnostic :=
  match EnumSlots.of? schema with
  | some slots => rows.foldl (takeRow schema slots) (registry, [])
  | none =>
    (registry, [Diagnostic.of .incompleteEnumSheet schema.origin "" Header.titleRow 1])

end EnumRegistry

namespace LocalizationRegistry

/-- The row of a localization sheet: every exported column but the key is a language. -/
def rowOf (schema : Schema) (keySlot : Nat) (row : TableRow) : LocalizedString where
  key := row.value keySlot
  category := schema.name
  texts := (schema.exported.filter (·.2 ≠ keySlot)).map fun (column, slot) =>
    (column.title, row.value slot)

/-- Registers a row, or reports that its key is taken. -/
def takeRow (schema : Schema) (keySlot : Nat) (state : LocalizationRegistry × List Diagnostic)
    (row : TableRow) : LocalizationRegistry × List Diagnostic :=
  let entry := rowOf schema keySlot row
  match state.1.insert? entry with
  | some registry => (registry, state.2)
  | none =>
    let col := ((schema.column? keySlot).map (·.gridColumn)).getD 0
    (state.1, state.2 ++
      [Diagnostic.of (.repeatedLocalizationKey entry.key) schema.origin "Local Text Key"
        row.row col])

/-- Registers the rows of a localization sheet; without a key column there is nothing to do. -/
def registerSheet (registry : LocalizationRegistry) (schema : Schema) (rows : List TableRow) :
    LocalizationRegistry × List Diagnostic :=
  match schema.key with
  | some keySlot => rows.foldl (takeRow schema keySlot) (registry, [])
  | none => (registry, [])

end LocalizationRegistry

end DesignTables
