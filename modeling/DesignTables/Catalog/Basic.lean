import DesignTables.Table.Schema

/-!
What is known of each workbook before it is ingested, and how a selection is completed.

The kind of a workbook is that of its last table sheet other than plain data. A selected workbook
brings its companions: every workbook of its kind for enumerations and localized strings, the rest
of its group for a merge sheet.
-/
namespace DesignTables

/-- One workbook of the catalog. -/
structure CatalogEntry where
  name : String
  /-- The kind of the workbook, unless it has no table sheet. -/
  kind : Option Kind
  /-- The names of the table sheets. -/
  tables : List String
  mergeGroup : Option String
deriving DecidableEq, Repr

namespace CatalogEntry

/-- The kind of a workbook after one more table sheet: plain data changes no known kind. -/
def nextKind (known : Option Kind) (kind : Kind) : Option Kind :=
  if kind = .data then known.or (some .data) else some kind

/-- The entry with one more sheet of the workbook. -/
def addSheet (entry : CatalogEntry) (sheet : Sheet) : CatalogEntry :=
  match Kind.detect? sheet.grid with
  | none => entry
  | some kind =>
    let group? := if kind = .merge then (sheet.grid.text? 2 0).bind mergeGroupName? else none
    { entry with
      kind := nextKind entry.kind kind
      tables := entry.tables ++ [sheet.name]
      mergeGroup := group?.or entry.mergeGroup }

/-- The entry of a workbook. -/
def ofWorkbook (book : Workbook) : CatalogEntry :=
  book.sheets.foldl addSheet ⟨book.name, none, [], none⟩

end CatalogEntry

/-- The workbooks in the order of their discovery. -/
structure Catalog where
  entries : List CatalogEntry
deriving DecidableEq, Repr

namespace Catalog

/-- The catalog of some workbooks. -/
def ofWorkbooks (books : List Workbook) : Catalog := ⟨books.map CatalogEntry.ofWorkbook⟩

/-- The last entry of a name. -/
def find? (catalog : Catalog) (name : String) : Option CatalogEntry :=
  catalog.entries.reverse.find? (·.name == name)

/-- The first workbook that holds a table sheet of a name. -/
def workbookOfSheet? (catalog : Catalog) (sheet : String) : Option String :=
  (catalog.entries.find? (·.tables.contains sheet)).map (·.name)

/-- The names of the merge groups, in ascending order. -/
def mergeGroups (catalog : Catalog) : List String :=
  (catalog.entries.filterMap (·.mergeGroup)).eraseDups.mergeSort fun a b => decide (a ≤ b)

/-- The workbooks of a merge group. -/
def workbooksInGroup (catalog : Catalog) (group : String) : List String :=
  (catalog.entries.filter (·.mergeGroup == some group)).map (·.name)

/-- The workbooks of a kind. -/
def workbooksOfKind (catalog : Catalog) (kind : Kind) : List String :=
  (catalog.entries.filter (·.kind == some kind)).map (·.name)

/-- The workbooks that a selected one brings, itself included. -/
def brings (catalog : Catalog) (entry : CatalogEntry) : List String :=
  entry.name ::
    match entry.kind with
    | some .enumeration => catalog.workbooksOfKind .enumeration
    | some .localization => catalog.workbooksOfKind .localization
    | some .merge => (entry.mergeGroup.map catalog.workbooksInGroup).getD []
    | some .data | none => []

/-- A selection with everything it brings, in the order of the catalog. Unknown names are dropped. -/
def expand (catalog : Catalog) (selected : List String) : List String :=
  let chosen := (selected.filterMap catalog.find?).flatMap catalog.brings
  (catalog.entries.map (·.name)).filter chosen.contains

end Catalog

end DesignTables
