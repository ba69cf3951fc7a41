import DesignTables.Index.References
import DesignTables.Index.Sizes
import DesignTables.Merge.Table
import DesignTables.Registry.Enums
import DesignTables.Registry.Localization

/-!
The checks of one cell.

Each check looks at one concern and gives the problems it finds and, where the cell is written as
something other than its ingested value, the value to write. Of several values the last one counts.
-/
namespace DesignTables

/-- What every table is validated against. -/
structure ValidationContext where
  enums : EnumRegistry
  localization : LocalizationRegistry
  references : ReferenceIndex
  sizes : SizeIndex

/-- What a check finds. -/
structure CellOutcome where
  problems : List Problem
  /-- The value to write in place of the ingested one. -/
  resolved : Option String
deriving DecidableEq, Repr

namespace CellOutcome

/-- Nothing found. -/
def clean : CellOutcome := ⟨[], none⟩

/-- One problem. -/
def refuse (problem : Problem) : CellOutcome := ⟨[problem], none⟩

/-- A value to write. -/
def resolve (value : String) : CellOutcome := ⟨[], some value⟩

/-- Two outcomes, the second after the first. -/
def andThen (first second : CellOutcome) : CellOutcome :=
  ⟨first.problems ++ second.problems, second.resolved.or first.resolved⟩

end CellOutcome

/-- One cell under validation. -/
structure CheckedCell where
  schema : Schema
  column : Column
  slot : Nat
  row : TableRow
  /-- The rows above. -/
  earlier : List TableRow

namespace CheckedCell

/-- The ingested value. -/
def value (cell : CheckedCell) : String := cell.row.value cell.slot

/-- The elements of the value. -/
def elements (cell : CheckedCell) : List String := cell.column.elements cell.value

/-- A value of a unique column occurs once; the word `null` may be repeated. -/
def checkUnique (cell : CheckedCell) : CellOutcome :=
  if cell.column.isUnique && cell.value ≠ "null" &&
      cell.earlier.any (·.value cell.slot == cell.value) then
    .refuse (.repeatedValue cell.value)
  else .clean

/-- The group that stands for no enumeration. -/
def noneGroup : String := "NONE"

/-- Looks every element up; those that are found make the value to write. -/
def lookUp (elements : List String) (find? : String → Option String)
    (problem : String → Problem) : List Problem × String :=
  (elements.filterMap fun element =>
      match find? element with
      | some _ => none
      | none => some (problem element),
   Text.joinWith "," (elements.filterMap find?))

/-- In the group `NONE` only the text `NONE` stands, and means zero. -/
def checkNone (cell : CheckedCell) : CellOutcome :=
  if cell.column.isArray && cell.value.isEmpty then .resolve ""
  else if cell.value = noneGroup then .resolve "0"
  else .refuse (.noneRequired cell.value)

/-- Every element is a text of the group, and is written as its value. -/
def checkInGroup (cell : CheckedCell) (enums : EnumRegistry) (group : String) : CellOutcome :=
  if group = noneGroup then cell.checkNone
  else if !enums.hasGroup group then .refuse (.undefinedRowEnumGroup group cell.value)
  else if cell.elements.isEmpty then
    if cell.column.isArray then .clean else .refuse .emptyEnumValue
  else
    let (problems, written) := lookUp (cell.elements.map Text.upper)
      (enums.resolve? group) Problem.unknownEnumText
    ⟨problems, some written⟩

/-- Resolves the texts of an enumeration, whose group is named by the row or by the column. -/
def checkEnum (cell : CheckedCell) (enums : EnumRegistry) : CellOutcome :=
  match cell.column.enumGroupRef, cell.column.enumGroup with
  | some source, _ => cell.checkInGroup enums (Text.upper (cell.row.value source))
  | none, some group =>
    if enums.hasGroup group then cell.checkInGroup enums group
    else .refuse (.undefinedEnumGroup group)
  | none, none => .clean

/-- Every element of a localized text is a known key. -/
def checkLocalText (cell : CheckedCell) (localization : LocalizationRegistry) : CellOutcome :=
  if cell.column.dataType = some .localText then
    ⟨(cell.elements.filter (!localization.hasKey ·)).map .unknownLocalizationKey, none⟩
  else .clean

/-- The element count of a cell is that of the column it is compared with. -/
def checkSize (cell : CheckedCell) (sizes : SizeIndex) : CellOutcome :=
  match cell.column.arraySizeRef with
  | none => .clean
  | some source =>
    let sizeAt (slot : Nat) := sizes.get? cell.schema.name slot cell.row.row
    match sizeAt cell.slot, sizeAt source with
    | none, _ => .refuse .noArraySize
    | some _, none => .refuse (.noSourceArraySize (cell.schema.titleAt source))
    | some own, some other =>
      if own = other then .clean else .refuse (.arraySizesDiffer own other)

/-- Whether an element names no reference: zero, in columns of whole or floating numbers. -/
def isNoReference (column : Column) (element : String) : Bool :=
  (column.dataType == some .int || column.dataType == some .float) && element == "0"

/-- What an element of a reference column is written as. -/
def dereference? (column : Column) (references : ReferenceIndex) (origin element : String) :
    Option String :=
  if isNoReference column element then some element else references.resolve? origin element

/-- The value written for an empty cell of a substituted reference column. -/
def emptyReference (column : Column) : String :=
  if column.isArray || column.dataType = some .localText then "" else "0"

/-- Every element is a value of the referenced column, and is written as what it resolves to when
the column is substituted. -/
def checkReference (cell : CheckedCell) (references : ReferenceIndex) (substituted : Bool) :
    CellOutcome :=
  match cell.column.check with
  | none => .clean
  | some target =>
    if !references.hasOrigin target.originName then .refuse (.noSuchOrigin target.originName)
    else if cell.elements.isEmpty then
      if substituted then .resolve (emptyReference cell.column) else .clean
    else
      let (problems, written) := lookUp cell.elements
        (dereference? cell.column references target.originName) Problem.referenceNotFound
      ⟨problems, if substituted then some written else none⟩

/-- All checks of a cell in order. -/
def check (cell : CheckedCell) (ctx : ValidationContext) (substituted : Bool) : CellOutcome :=
  cell.checkUnique
    |>.andThen (cell.checkEnum ctx.enums)
    |>.andThen (cell.checkLocalText ctx.localization)
    |>.andThen (cell.checkSize ctx.sizes)
    |>.andThen (cell.checkReference ctx.references substituted)

end CheckedCell

end DesignTables
