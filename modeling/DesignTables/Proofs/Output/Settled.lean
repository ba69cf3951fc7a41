import DesignTables.Proofs.Ingest.Readings
import DesignTables.Proofs.Json.Numbers
import DesignTables.Proofs.Output.Faithful

/-!
# What ingestion settles about the texts of a file

A value of a plain column is a literal if its type is written bare, unless it is a number that is
not finite, and a text of a plain column has no quotes in it.
-/
namespace DesignTables

open Json

/-- Whether ingestion settles that a value of a plain column may be written as it is. -/
def DataType.settles (type : DataType) (value : String) : Bool :=
  match type with
  | int | long | bool => true
  | float | double => !(["NaN", "inf", "-inf"].contains value)
  | string => value.toList.all fun c => c ≠ '\\' && 32 ≤ c.toNat
  | stream | localText | enumText => false

namespace CellReading

variable {column : Column} {cell : Cell}

/-- An accepted boolean is stored as a literal. -/
theorem isLiteral_stored {value : String} (own : typeOf column = .bool)
    (bool : DataType.isBoolText value = true) : isLiteral (stored column value) = true := by
  rw [stored, own, bool, if_pos (by decide)]
  rw [DataType.isBoolText, Bool.or_eq_true, Text.eqIgnoringCase, Text.eqIgnoringCase] at bool
  rcases bool with word | word <;> rw [eq_of_beq word] <;> decide

/-- What ingestion settles holds of the values that it gives. -/
theorem admits_of_settles {type : DataType} (clean : (ofCell column cell).problems = [])
    (plain : column.isArray = false) (typed : column.dataType = some type)
    (settles : type.settles (ofCell column cell).value = true) :
    (ValueStyle.typed (some type)).admits (ofCell column cell).value = true := by
  have fault := fault_eq_none clean plain
  have own : typeOf column = type := by rw [typeOf, typed]; rfl
  rw [value_eq] at settles ⊢
  generalize decorated column (afterNull column (text column cell)) = value at *
  rw [own] at fault
  have form (emptyFault : type.emptyFault ≠ none) : type.formFault value = none := by
    unfold DataType.fault at fault
    split at fault
    · exact absurd fault emptyFault
    · exact fault
  have accepts {accepted : Prop} [Decidable accepted] {code : Code}
      (h : (if accepted then none else some code) = none) : accepted := by
    by_contra other
    rw [if_neg other] at h
    cases h
  cases type with
  | bool => exact isLiteral_stored own (accepts (form (Option.some_ne_none _)))
  | int | long =>
    have int : DataType.isCanonicalInt value = true := accepts (form (Option.some_ne_none _))
    rw [stored_of_ne_bool (by rw [own]; decide)]
    exact isLiteral_of_isCanonicalInt int
  | float | double =>
    have number : (DataType.isCanonicalFloat value || DataType.isCanonicalInt value) = true :=
      accepts (form (Option.some_ne_none _))
    rw [stored_of_ne_bool (by rw [own]; decide)] at settles ⊢
    rcases Bool.or_eq_true_iff.1 number with float | int
    · refine isLiteral_of_isCanonicalFloat float fun special => ?_
      rw [DataType.settles, List.contains_iff_mem.2 special] at settles
      cases settles
    · exact isLiteral_of_isCanonicalInt int
  | string =>
    rw [stored_of_ne_bool (by rw [own]; decide)] at settles ⊢
    have quote : '"' ∉ value.toList := by
      intro mem
      unfold DataType.fault at fault
      split at fault
      · next empty =>
        rw [String.isEmpty_iff.1 empty] at mem
        exact absurd mem List.not_mem_nil
      · rw [DataType.formFault, if_pos (List.contains_iff_mem.2 mem)] at fault
        cases fault
    refine List.all_eq_true.2 fun c mem => ?_
    have other := List.all_eq_true.1 settles c mem
    have apart : c ≠ '"' := fun same => quote (same ▸ mem)
    rw [isPlain, Bool.and_assoc, other, Bool.and_true]
    exact decide_eq_true apart
  | stream | localText | enumText => cases settles

end CellReading

namespace OutputTable

/-- A cell of a plain column that is written as ingestion accepted it. -/
structure Settles (table : OutputTable) (overlay : Overlay) (row : TableRow) (cell : OutputCell) :
    Prop extends Untouched table overlay row cell.column cell.slot where
  sheet : table.schema.kind ≠ .merge
  plain : cell.column.isArray = false
  type : cell.column.dataType.any (·.settles cell.value) = true

theorem Settles.admits {table : OutputTable} {overlay : Overlay} {row : TableRow}
    {cell : OutputCell} (reads : table.schema.ReadsClean table.rows) (stored : row ∈ table.rows)
    (mem : cell ∈ table.cells overlay row) (h : table.Settles overlay row cell) :
    ∀ text ∈ cell.texts, cell.style.admits text = true := by
  obtain ⟨⟨column, slot⟩, known, -, rfl⟩ := mem_cells_iff.1 mem
  obtain ⟨untouched, -, plain, settles⟩ := h
  obtain ⟨type, typed, settles⟩ := (Option.any_eq_true _ _).1 settles
  obtain ⟨cell, clean, same⟩ := reads row stored (column, slot) (List.mem_filter.1 known).1
  rw [OutputCell.texts, plain]
  refine List.forall_mem_singleton.2 ?_
  dsimp only at untouched typed settles same clean ⊢
  rw [untouched.restoreCommas_eq, untouched.styleOf_eq, typed]
  rw [untouched.valueOf_eq, ← same] at settles ⊢
  exact CellReading.admits_of_settles clean plain typed settles

end OutputTable

namespace RowFile

variable (file : RowFile) (table : OutputTable) (overlay : Overlay)

/-- What ingestion does not settle is sound: titles and texts need no escape and bare values are
literals, a record that stands alone is the only one, and no text is taken for a missing value or
an empty list. -/
structure Careful : Prop where
  one : file.alone = true → (table.cellRows overlay file.rows).length = 1
  titles : ∀ row ∈ file.rows, ∀ cell ∈ table.cells overlay row,
    cell.column.title.toList.all isPlain = true
  texts : ∀ row ∈ file.rows, ∀ cell ∈ table.cells overlay row,
    ¬ table.Settles overlay row cell → ∀ text ∈ cell.texts, cell.style.admits text = true
  spared : ∀ row ∈ file.rows, ∀ given ∈ table.schema.exported,
    table.Keeps overlay row given.1 given.2 →
      Text.eqIgnoringCase (row.value given.2) "null" = false ∧
        (given.1.isArray = true → row.value given.2 ≠ "\"\"")

variable {file table overlay}

theorem IsSound.careful (h : file.IsSound table overlay) : file.Careful table overlay where
  one := h.one
  titles := fun row mem cell own => (h.cells row mem cell own).1
  texts := fun row mem cell own _ => (h.cells row mem cell own).2
  spared := h.spared

theorem faithful_iff_careful
    (reads : table.schema.kind ≠ .merge → table.schema.ReadsClean table.rows)
    (part : file.rows ⊆ table.rows) :
    file.Faithful table overlay ↔ file.Careful table overlay := by
  rw [faithful_iff_isSound]
  constructor
  · exact IsSound.careful
  · rintro ⟨one, titles, texts, spared⟩
    refine ⟨one, fun row mem cell own => ⟨titles row mem cell own, ?_⟩, spared⟩
    by_cases settled : table.Settles overlay row cell
    · exact settled.admits (reads settled.sheet) (part mem) own
    · exact texts row mem cell own settled

end RowFile

end DesignTables
