import DesignTables.Ingest.Sheet
import DesignTables.Proofs.Indexing.Header

/-!
# Rows read by slots

Reading the rows of a sheet needs its key column, and for each origin column the cell of its slot
and that of the column it is changed to. The cells of a row stand in the slots of the columns, so
where the links of a schema are inside its columns they are inside the cells.
-/
namespace DesignTables

def Schema.keyColumn! (schema : Schema) : Access (Option Column) :=
  Access.follow schema.columns schema.key

namespace RowIngest

variable {schema : Schema} {grid : Grid}

def recordOrigins! (schema : Schema) (cells : List String) (origins : ReferenceIndex) :
    Access ReferenceIndex :=
  schema.slots.foldlM (fun origins (column, slot) =>
    match column.origin with
    | none => return origins
    | some origin => do
      let linked ← Access.follow cells column.change
      let own ← Access.read cells slot
      return origins.record origin own (linked.getD "")) origins

/-- Stores a row. The cells are read column by column; only the index of origins goes back to
them. -/
def store! (schema : Schema) (grid : Grid) (ingest : RowIngest) (row : Nat) : Access RowIngest := do
  let cells := (readings schema grid row).map fun (_, _, reading) => reading.value
  let origins ← recordOrigins! schema cells ingest.origins
  return { store schema grid ingest row with origins := origins }

def takeRow! (schema : Schema) (grid : Grid) (keyColumn : Nat) (state : RowIngest × List String)
    (row : Nat) : Access (RowIngest × List String) :=
  let (ingest, seen) := state
  let key := (grid.cell row keyColumn).render
  if key.isEmpty then return state
  else if seen.contains key then do
    let named ← schema.keyColumn!
    let repeated := Diagnostic.of (.repeatedKey key) schema.origin
      ((named.map (·.title)).getD "") row keyColumn
    return ({ ingest with diagnostics := ingest.diagnostics ++ [repeated] }, seen)
  else return (← store! schema grid ingest row, seen ++ [key])

def ofGrid! (schema : Schema) (grid : Grid) : Access RowIngest := do
  let key ← schema.keyColumn!
  let keyColumn := (key.map (·.gridColumn)).getD 0
  if schema.options.valueOnly then
    ((dataRows grid).take 1).foldlM (store! schema grid) empty
  else return (← (dataRows grid).foldlM (takeRow! schema grid keyColumn) (empty, [])).1

end RowIngest

def IngestedSheet.ofSheet! (sheet : Sheet) (origin : SheetOrigin) (mergeGroups : List String) :
    Access (Option IngestedSheet) := do
  match ← Header.compile! sheet origin mergeGroups with
  | none => return none
  | some schema =>
    if schema.isClean then
      let read ← RowIngest.ofGrid! schema sheet.grid
      return some ⟨schema, read.rows, read.diagnostics, read.sizes, read.origins⟩
    else return some ⟨schema, [], schema.diagnostics, SizeIndex.empty, ReferenceIndex.empty⟩

theorem Schema.keyColumn!_eq_ok {schema : Schema} (links : schema.LinksInside) :
    schema.keyColumn! = .ok schema.keyColumn? := Access.follow_eq_ok links.key

namespace RowIngest

variable {schema : Schema} {grid : Grid}

theorem recordOrigins!_eq_ok (links : schema.LinksInside) {cells : List String}
    (width : cells.length = schema.columns.length) (row : Nat) (origins : ReferenceIndex) :
    recordOrigins! schema cells origins = .ok (recordOrigins schema ⟨row, cells⟩ origins) := by
  refine (Access.foldlM_eq_ok (fun _ => True) ?_ trivial).1
  rintro now - ⟨column, slot⟩ mem
  refine ⟨?_, trivial⟩
  dsimp only
  cases column.origin with
  | none => rfl
  | some origin =>
    have place := Header.column?_of_mem_slots mem
    obtain ⟨inside, -⟩ := List.getElem?_eq_some_iff.1 place
    have own : cells[slot]? = some cells[slot] := List.getElem?_eq_getElem (width ▸ inside)
    have linked : Access.follow cells column.change =
        .ok (column.change.bind fun source => cells[source]?) :=
      Access.follow_eq_ok fun source link =>
        width ▸ (links.columns column (List.mem_of_getElem? place)).change source link
    have value : (column.change.bind fun source => cells[source]?).getD "" =
        (column.change.map (TableRow.value ⟨row, cells⟩)).getD "" := by
      cases column.change <;> rfl
    dsimp only
    rw [linked, Access.ok_bind, Access.read_eq_ok own, Access.ok_bind, value,
      TableRow.value, own]
    rfl

theorem store!_eq_ok (links : schema.LinksInside) (grid : Grid) (ingest : RowIngest) (row : Nat) :
    store! schema grid ingest row = .ok (store schema grid ingest row) := by
  have width : ((readings schema grid row).map fun (_, _, reading) => reading.value).length =
      schema.columns.length := by
    rw [List.length_map, readings, List.length_map, Schema.slots, List.length_zipIdx]
  rw [store!, recordOrigins!_eq_ok links width row]
  rfl

theorem takeRow!_eq_ok (links : schema.LinksInside) (grid : Grid)
    (state : RowIngest × List String) (row : Nat) :
    takeRow! schema grid (keyGridColumn schema) state row =
      .ok (takeRow schema grid state row) := by
  obtain ⟨ingest, seen⟩ := state
  have key : (grid.cell row (keyGridColumn schema)).render = keyOf schema grid row := rfl
  simp only [takeRow!, takeRow, key]
  by_cases empty : (keyOf schema grid row).isEmpty = true
  · rw [if_pos empty, if_pos empty]
    rfl
  · rw [if_neg empty, if_neg empty]
    by_cases known : seen.contains (keyOf schema grid row) = true
    · rw [if_pos known, if_pos known, Schema.keyColumn!_eq_ok links]
      rfl
    · rw [if_neg known, if_neg known, store!_eq_ok links]
      rfl

/-- Reading the rows of a grid accesses columns and cells that are there, whatever the grid
holds. -/
theorem ofGrid!_eq_ok (links : schema.LinksInside) (grid : Grid) :
    ofGrid! schema grid = .ok (ofGrid schema grid) := by
  have stored : ((dataRows grid).take 1).foldlM (store! schema grid) empty =
      .ok (((dataRows grid).take 1).foldl (store schema grid) empty) :=
    (Access.foldlM_eq_ok (fun _ => True)
      (fun now _ row _ => ⟨store!_eq_ok links grid now row, trivial⟩) trivial).1
  have taken : (dataRows grid).foldlM (takeRow! schema grid (keyGridColumn schema)) (empty, []) =
      .ok ((dataRows grid).foldl (takeRow schema grid) (empty, [])) :=
    (Access.foldlM_eq_ok (fun _ => True)
      (fun now _ row _ => ⟨takeRow!_eq_ok links grid now row, trivial⟩) trivial).1
  rw [ofGrid!, Schema.keyColumn!_eq_ok links, Access.ok_bind, ofGrid]
  by_cases single : schema.options.valueOnly = true
  · rw [if_pos single, if_pos single, stored]
  · rw [if_neg single, if_neg single]
    change (do return (← (dataRows grid).foldlM
      (takeRow! schema grid (keyGridColumn schema)) (empty, [])).1) = _
    rw [taken]
    rfl

end RowIngest

/-- Ingesting a sheet never faults. -/
theorem IngestedSheet.ofSheet!_eq_ok (sheet : Sheet) (origin : SheetOrigin)
    (mergeGroups : List String) :
    ofSheet! sheet origin mergeGroups = .ok (ofSheet? sheet origin mergeGroups) := by
  rw [ofSheet!, Header.compile!_eq_ok, Access.ok_bind, ofSheet?]
  cases compiled : Header.compile? sheet origin mergeGroups with
  | none => rfl
  | some schema =>
    have links := Header.linksInside_of_compile? compiled
    dsimp only
    rw [Option.map_some]
    by_cases clean : schema.isClean = true
    · rw [if_pos clean, if_pos clean, RowIngest.ofGrid!_eq_ok links]
      rfl
    · rw [if_neg clean, if_neg clean]
      rfl

end DesignTables
