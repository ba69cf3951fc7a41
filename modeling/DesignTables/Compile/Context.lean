import DesignTables.Catalog.Basic
import DesignTables.Compile.Options

/-!
What a run is given: the options, the workbooks with their catalog, and the selection.
-/
namespace DesignTables

/-- Which workbooks a run compiles. -/
inductive Selection where
  | all
  | named (names : List String)
deriving DecidableEq, Repr

/-- The workbook that a name selects: its file name, the same without extension in any ASCII case,
or the name of one of its table sheets. -/
def Catalog.resolve? (catalog : Catalog) (name : String) : Option String :=
  if (catalog.find? name).isSome then some name
  else
    let byStem := catalog.entries.find? fun entry =>
      match Path.splitLastDot? entry.name with
      | some (stem, _) => Text.eqIgnoringCase stem name
      | none => false
    (byStem.map (·.name)).or (catalog.workbookOfSheet? name)

/-- What a run is given. -/
structure RunContext where
  options : Options
  workbooks : List Workbook
  catalog : Catalog
  /-- The selected workbooks with everything they bring, in the order of discovery. -/
  selected : List String
  /-- The names that selected nothing. -/
  unknown : List String
  /-- Everything is validated and nothing is written. -/
  dryRun : Bool

namespace RunContext

/-- The context of a selection. Selecting all takes the workbooks that hold a table sheet. -/
def select (options : Options) (workbooks : List Workbook) (selection : Selection)
    (dryRun : Bool) : RunContext :=
  let catalog := Catalog.ofWorkbooks workbooks
  { options := options
    workbooks := workbooks
    catalog := catalog
    selected :=
      match selection with
      | .all => (catalog.entries.filter (·.kind.isSome)).map (·.name)
      | .named names => catalog.expand (names.filterMap catalog.resolve?)
    unknown :=
      match selection with
      | .all => []
      | .named names => names.filter fun name => (catalog.resolve? name).isNone
    dryRun := dryRun }

/-- The position of the first workbook of a name. -/
def indexOf? (ctx : RunContext) (name : String) : Option Nat :=
  ctx.workbooks.findIdx? (·.name == name)

/-- The first workbook of a name. -/
def workbook? (ctx : RunContext) (name : String) : Option Workbook :=
  ctx.workbooks.find? (·.name == name)

end RunContext

end DesignTables
