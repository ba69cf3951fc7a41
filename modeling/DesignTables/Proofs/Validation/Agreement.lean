import DesignTables.Proofs.Header.Columns
import DesignTables.Proofs.Index.Unions
import DesignTables.Validation.Table

/-!
# A validation depends only on what the columns of the table ask for

A table without enumeration texts never looks at an enumeration, one without keys of localized
texts never at these, and of the references and element counts it sees those of its own columns.
So contexts that agree on these give the same result: the same problems, the same values.
-/
namespace DesignTables

/-- Two contexts say the same of everything that the columns of a schema ask for. -/
structure ValidationContext.AgreeOn (a b : ValidationContext) (schema : Schema) : Prop where
  enums : ∀ column ∈ schema.columns, column.isEnum = true →
    ∀ name, a.enums.group? name = b.enums.group? name
  localization : ∀ column ∈ schema.columns, column.dataType = some .localText →
    ∀ key, a.localization.hasKey key = b.localization.hasKey key
  references : ∀ column ∈ schema.columns, ∀ target, column.check = some target →
    ∀ raw, a.references.resolve? target.originName raw = b.references.resolve? target.originName raw
  sizes : ∀ slot row, a.sizes.get? schema.name slot row = b.sizes.get? schema.name slot row

namespace CheckedCell

variable {a b : ValidationContext} {cell : CheckedCell}

theorem checkInGroup_congr {a b : EnumRegistry} (same : ∀ name, a.group? name = b.group? name)
    (cell : CheckedCell) (group : String) : cell.checkInGroup a group = cell.checkInGroup b group := by
  have known : a.hasGroup group = b.hasGroup group := by
    rw [EnumRegistry.hasGroup, EnumRegistry.hasGroup, same]
  have values : a.resolve? group = b.resolve? group := by
    funext text
    rw [EnumRegistry.resolve?, EnumRegistry.resolve?, same]
  rw [checkInGroup, checkInGroup, known, values]

theorem checkEnum_congr {a b : EnumRegistry}
    (same : cell.column.isEnum = true → ∀ name, a.group? name = b.group? name) :
    cell.checkEnum a = cell.checkEnum b := by
  rw [checkEnum, checkEnum]
  cases source : cell.column.enumGroupRef with
  | some slot =>
    have isEnum : cell.column.isEnum = true := by
      rw [Column.isEnum, source]
      exact Bool.or_true _
    exact checkInGroup_congr (same isEnum) cell _
  | none =>
    cases named : cell.column.enumGroup with
    | none => rfl
    | some group =>
      have isEnum : cell.column.isEnum = true := by
        rw [Column.isEnum, named]
        exact Bool.true_or _
      have known : a.hasGroup group = b.hasGroup group := by
        rw [EnumRegistry.hasGroup, EnumRegistry.hasGroup, same isEnum]
      dsimp only
      rw [known, checkInGroup_congr (same isEnum)]

theorem checkLocalText_congr {a b : LocalizationRegistry}
    (same : cell.column.dataType = some .localText → ∀ key, a.hasKey key = b.hasKey key) :
    cell.checkLocalText a = cell.checkLocalText b := by
  rw [checkLocalText, checkLocalText]
  split
  next asked => simp only [same asked]
  next => rfl

theorem checkSize_congr {a b : SizeIndex}
    (same : ∀ slot row, a.get? cell.schema.name slot row = b.get? cell.schema.name slot row) :
    cell.checkSize a = cell.checkSize b := by
  simp only [checkSize, same]

theorem checkReference_congr {a b : ReferenceIndex}
    (same : ∀ target, cell.column.check = some target →
      ∀ raw, a.resolve? target.originName raw = b.resolve? target.originName raw)
    (substituted : Bool) : cell.checkReference a substituted = cell.checkReference b substituted := by
  rw [checkReference, checkReference]
  cases checked : cell.column.check with
  | none => rfl
  | some target =>
    have known := ReferenceIndex.hasOrigin_congr (same target checked)
    have values : dereference? cell.column a target.originName =
        dereference? cell.column b target.originName := by
      funext element
      rw [dereference?, dereference?, same target checked]
    dsimp only
    rw [known, values]

/-- The checks of a cell see only what its column asks for. -/
theorem check_congr (h : a.AgreeOn b cell.schema) (mem : cell.column ∈ cell.schema.columns)
    (substituted : Bool) : cell.check a substituted = cell.check b substituted := by
  rw [check, check, checkEnum_congr (h.enums _ mem), checkLocalText_congr (h.localization _ mem),
    checkSize_congr h.sizes, checkReference_congr (h.references _ mem)]

end CheckedCell

namespace TableValidation

variable {a b : ValidationContext} {schema : Schema}

theorem isChanged_congr (h : a.AgreeOn b schema) {column : Column}
    (mem : column ∈ schema.columns) : isChanged a column = isChanged b column := by
  have groups : column.enumGroup.any a.enums.hasGroup = column.enumGroup.any b.enums.hasGroup := by
    cases named : column.enumGroup with
    | none => rfl
    | some group =>
      have isEnum : column.isEnum = true := by
        rw [Column.isEnum, named]
        exact Bool.true_or _
      change a.enums.hasGroup group = b.enums.hasGroup group
      rw [EnumRegistry.hasGroup, EnumRegistry.hasGroup, h.enums column mem isEnum]
  have references : (column.check.any fun target => a.references.substitutes target.originName) =
      column.check.any fun target => b.references.substitutes target.originName := by
    cases checked : column.check with
    | none => rfl
    | some target => exact ReferenceIndex.substitutes_congr (h.references column mem target checked)
  rw [isChanged, isChanged, groups, references]

theorem changedSlots_congr (h : a.AgreeOn b schema) :
    changedSlots schema a = changedSlots schema b := by
  rw [changedSlots, changedSlots]
  congr 1
  refine List.filter_congr ?_
  rintro ⟨column, slot⟩ mem
  exact isChanged_congr h (List.mem_of_getElem? (Header.column?_of_mem_slots mem))

theorem rowOutcomes_congr (h : a.AgreeOn b schema) (changed : List Nat) (earlier : List TableRow)
    (row : TableRow) :
    rowOutcomes schema a changed earlier row = rowOutcomes schema b changed earlier row := by
  refine List.map_congr_left ?_
  rintro ⟨column, slot⟩ mem
  have inside : column ∈ schema.columns :=
    List.mem_of_getElem? (Header.column?_of_mem_slots mem)
  have outcome : CheckedCell.check ⟨schema, column, slot, row, earlier⟩ a (changed.contains slot) =
      CheckedCell.check ⟨schema, column, slot, row, earlier⟩ b (changed.contains slot) :=
    CheckedCell.check_congr h inside _
  dsimp only
  rw [outcome]

/-- A validation gives the same in contexts that agree on what the table asks for. -/
theorem ofTarget_congr {target : ValidationTarget} (h : a.AgreeOn b target.schema) :
    ofTarget target a = ofTarget target b := by
  simp only [ofTarget, changedSlots_congr h, rowOutcomes_congr h]

end TableValidation

end DesignTables
