import DesignTables.Proofs.Indexing.Rows
import DesignTables.Proofs.Merge.Placement

/-!
# Sheets merged by slots

The unification of a group goes between three kinds of slots: those of a sheet's columns, those of
the merged columns, and those of the cells of a row. A sheet's column is read where the sheet has
it, its links lead to placements of the same sheet, and a placement names a merged column, so the
table that is turned round from it names columns of the sheet again.
-/
namespace DesignTables

namespace Merge

variable {group : String} {schema : Schema}

/-- Places one column of a sheet. A known column is read to be compared. -/
def placeColumn! (group : String) (source : Schema) (unified : Unified) (column : Column) :
    Access Unified :=
  match unified.schema.slotOf? column.title with
  | some slot => do
    let known ← Access.read unified.schema.columns slot
    return { unified with
      placements := unified.placements ++ [⟨slot, false⟩]
      diagnostics := unified.diagnostics ++ (disagreements known column).map fun problem =>
        Diagnostic.of problem source.origin column.title Header.titleRow column.gridColumn }
  | none => return placeColumn group source unified column

def relink! (placements : List Placement) (link : Option Nat) : Access (Option Nat) := do
  let placement ← Access.follow placements link
  return placement.map (·.slot)

def linkColumn! (placements : List Placement) (isNew : Bool) (column merged : Column) :
    Access Column := do
  let change ← relink! placements column.change
  let arraySizeRef ← relink! placements column.arraySizeRef
  let enumGroupRef ← relink! placements column.enumGroupRef
  return if isNew then
    { merged with change := change, arraySizeRef := arraySizeRef, enumGroupRef := enumGroupRef }
  else
    { merged with
      change := merged.change.or change
      arraySizeRef := merged.arraySizeRef.or arraySizeRef
      enumGroupRef := merged.enumGroupRef.or enumGroupRef
      tracksLength := merged.tracksLength || column.tracksLength
      tracksCount := merged.tracksCount || column.tracksCount }

def linkColumns! (source : Schema) (placements : List Placement) (schema : Schema) :
    Access Schema :=
  (source.slots.zip placements).foldlM (fun schema ((_, slot), placement) => do
    let column ← Access.read source.columns slot
    let columns ← Access.update schema.columns placement.slot
      (linkColumn! placements placement.isNew column)
    return { schema with columns := columns }) schema

def addSheet! (group : String) (merged : Structure) (sheet : IngestedSheet) : Access Structure := do
  let unified ← sheet.schema.columns.foldlM (placeColumn! group sheet.schema)
    ⟨merged.schema, [], []⟩
  let linked ← linkColumns! sheet.schema unified.placements unified.schema
  return {
    schema := linked
    mappings := merged.mappings ++ [unified.placements.map (·.slot)]
    diagnostics := merged.diagnostics ++ unified.diagnostics }

/-- For every merged slot the first slot of a sheet that went there. -/
def reverse! (width : Nat) (mapping : List Nat) : Access (List (Option Nat)) :=
  mapping.zipIdx.foldlM (fun table (merged, slot) =>
    Access.modify table merged (·.or (some slot))) (List.replicate width none)

/-- One merged cell, given the slot of the sheet that it takes its value from. -/
def SourceRow.cell! (given : SourceRow) (schema : Schema) (merged : Nat) (source : Option Nat) :
    Access CellProvenance :=
  match source with
  | some slot => do
    let column ← Access.read given.sheet.schema.columns slot
    return { source := given.source, row := given.row.row, column := some column.gridColumn
             value := given.row.value slot }
  | none => do
    let column ← Access.read schema.columns merged
    return { source := given.source, row := given.row.row, column := none
             value := (column.dataType.map DataType.mergeDefault).getD "" }

/-- The rows of one sheet, for whose group the cell in a slot is read. -/
def sheetRows! (schema : Schema) (groupSlot : Option Nat) (source : Nat) (sheet : IngestedSheet)
    (mapping : List Nat) : Access (List (List CellProvenance)) := do
  let reverse ← reverse! schema.columns.length mapping
  sheet.rows.mapM fun row => do
    let cells ← reverse.zipIdx.mapM fun (own, merged) =>
      SourceRow.cell! ⟨source, sheet, mapping, row⟩ schema merged own
    let _ ← Access.follow cells groupSlot
    return cells

def rows! (schema : Schema) (groupSlot : Option Nat) (sheets : List IngestedSheet)
    (mappings : List (List Nat)) : Access (List (List CellProvenance)) := do
  let parts ← (sheets.zip mappings).zipIdx.mapM fun ((sheet, mapping), source) =>
    sheetRows! schema groupSlot source sheet mapping
  return parts.flatten

end Merge

def MergeOutcome.ofSheets! (group : String) (sheets : List IngestedSheet) (referenceOnly : Bool) :
    Access (Option MergeOutcome) :=
  match sheets.head? with
  | none => return none
  | some first =>
    match first.schema.merge with
    | none => return none
    | some header => do
      let start : Schema := { Schema.blank first.schema.origin .merge with
        name := group, merge := some header }
      let merged ← sheets.foldlM (Merge.addSheet! group) ⟨start, [], []⟩
      let provenance ← Merge.rows! merged.schema (merged.schema.findSlot? header.groupField) sheets
        merged.mappings
      let rows := provenance.zipIdx.map fun (cells, position) =>
        (⟨position + 1, cells.map (·.value)⟩ : TableRow)
      return some {
        table := {
          name := group
          groupField := header.groupField
          shardSize := header.shardSize
          sources := sheets.map (·.schema.origin)
          schema := merged.schema
          rows := rows
          provenance := provenance
          shards := none
          referenceOnly := referenceOnly }
        diagnostics := merged.diagnostics
        sizes := Merge.mergedSizes group merged.schema (Merge.sourceRows sheets merged.mappings)
        origins := rows.foldl (fun origins row =>
          RowIngest.recordOrigins merged.schema row origins) ReferenceIndex.empty }

namespace Merge

variable {group : String} {schema : Schema}

theorem placeColumn!_eq_ok (group : String) (source : Schema) (unified : Unified)
    (column : Column) :
    placeColumn! group source unified column = .ok (placeColumn group source unified column) := by
  rw [placeColumn!, placeColumn]
  cases place : unified.schema.slotOf? column.title with
  | none => rfl
  | some slot =>
    have inside := Schema.lt_of_slotOf? place
    have known : unified.schema.column? slot = some unified.schema.columns[slot] :=
      List.getElem?_eq_getElem inside
    dsimp only
    rw [Access.read_eq_ok known, Access.ok_bind, known]
    rfl

theorem relink!_eq_ok {placements : List Placement} {link : Option Nat}
    (below : ∀ slot ∈ link, slot < placements.length) :
    relink! placements link = .ok (relink placements link) := by
  rw [relink!, Access.follow_eq_ok below]
  rfl

theorem linkColumn!_eq_ok {placements : List Placement} {column : Column}
    (links : column.LinksBelow placements.length) (isNew : Bool) (merged : Column) :
    linkColumn! placements isNew column merged =
      .ok (linkColumn placements isNew column merged) := by
  rw [linkColumn!, relink!_eq_ok links.change, Access.ok_bind, relink!_eq_ok links.arraySizeRef,
    Access.ok_bind, relink!_eq_ok links.enumGroupRef, Access.ok_bind]
  rfl

/-- Linking reads the columns of the sheet and changes the merged columns that they were placed
in. -/
theorem linkColumns!_eq_ok {source : Schema} (links : source.LinksInside)
    {placements : List Placement} (length : placements.length = source.columns.length)
    (inside : ∀ placement ∈ placements, placement.slot < schema.columns.length) :
    linkColumns! source placements schema = .ok (linkColumns source placements schema) := by
  have zip : source.columns.zip placements =
      (source.slots.zip placements).map fun one => (one.1.1, one.2) := by
    have columns : source.slots.map Prod.fst = source.columns := List.zipIdx_map_fst ..
    rw [← columns, List.zip_map_left]
    rfl
  rw [linkColumns, zip, List.foldl_map, linkColumns!]
  -- Linking changes merged columns where they stand, so their number is the invariant.
  refine (Access.foldlM_eq_ok (fun now : Schema => now.columns.length = schema.columns.length)
    ?_ rfl).1
  rintro now width ⟨⟨column, slot⟩, placement⟩ mem
  have place := Header.column?_of_mem_slots (List.of_mem_zip mem).1
  have below := links.columns column (List.mem_of_getElem? place)
  rw [← length] at below
  have there : placement.slot < now.columns.length :=
    width ▸ inside placement (List.of_mem_zip mem).2
  have target : now.columns[placement.slot]? = some now.columns[placement.slot] :=
    List.getElem?_eq_getElem there
  dsimp only
  rw [Access.read_eq_ok place, Access.ok_bind,
    Access.update_eq_ok target (linkColumn!_eq_ok below placement.isNew _)]
  exact ⟨rfl, (Schema.length_modifyColumn now _ _).trans width⟩

theorem addSheet!_eq_ok (group : String) (merged : Structure) {sheet : IngestedSheet}
    (links : sheet.schema.LinksInside) :
    addSheet! group merged sheet = .ok (addSheet group merged sheet) := by
  have placed : sheet.schema.columns.foldlM (placeColumn! group sheet.schema)
      ⟨merged.schema, [], []⟩ = .ok (sheet.schema.columns.foldl (placeColumn group sheet.schema)
        ⟨merged.schema, [], []⟩) :=
    (Access.foldlM_eq_ok (fun _ => True)
      (fun now _ column _ => ⟨placeColumn!_eq_ok group sheet.schema now column, trivial⟩)
      trivial).1
  have placing := placing_placeColumns group sheet.schema merged.schema sheet.schema.columns
  rw [addSheet!, placed, Access.ok_bind, linkColumns!_eq_ok links placing.length placing.inside]
  rfl

/-- Turning a mapping round keeps the first slot that went to each merged one, behind what the table
has already. -/
private theorem foldlM_reverse {mapping : List Nat} (start : Nat) {table : List (Option Nat)}
    (inside : ∀ merged ∈ mapping, merged < table.length) :
    ∃ turned, (mapping.zipIdx start).foldlM (fun table (merged, slot) =>
        Access.modify table merged (·.or (some slot))) table = .ok turned ∧
      ∀ merged : Nat, turned[merged]? = (table[merged]?).map fun known =>
        known.or ((mapping.findIdx? (· == merged)).map (· + start)) := by
  induction mapping generalizing start table with
  | nil =>
    refine ⟨table, rfl, fun merged => ?_⟩
    simp
  | cons first rest ih =>
    have here := inside first List.mem_cons_self
    have later : ∀ merged ∈ rest, merged < (table.modify first (·.or (some start))).length := by
      intro merged mem
      rw [List.length_modify]
      exact inside merged (List.mem_cons_of_mem _ mem)
    obtain ⟨turned, result, told⟩ := ih (start + 1) later
    rw [List.zipIdx_cons, List.foldlM_cons]
    dsimp only
    rw [Access.modify_eq_ok here, Access.ok_bind]
    refine ⟨turned, result, fun merged => ?_⟩
    rw [told, List.getElem?_modify, List.findIdx?_cons]
    cases table[merged]? with
    | none => rfl
    | some known =>
      by_cases same : first = merged
      · subst same
        simp
      · simp [same, Function.comp_def, Nat.add_assoc, Nat.add_comm 1 start]

/-- Turned round, a mapping tells for every merged slot where it is found first. -/
theorem reverse!_eq_ok {mapping : List Nat}
    (inside : ∀ merged ∈ mapping, merged < schema.columns.length) :
    reverse! schema.columns.length mapping =
      .ok (schema.slots.map fun one => mapping.findIdx? (· == one.2)) := by
  have blank : ∀ merged ∈ mapping,
      merged < (List.replicate schema.columns.length (none : Option Nat)).length := by
    intro merged mem
    rw [List.length_replicate]
    exact inside merged mem
  obtain ⟨turned, result, told⟩ := foldlM_reverse 0 blank
  rw [reverse!, result]
  refine congrArg Except.ok (List.ext_getElem? fun merged => ?_)
  rw [told, List.getElem?_replicate, List.getElem?_map, Schema.slots, List.getElem?_zipIdx,
    Nat.zero_add]
  by_cases known : merged < schema.columns.length
  · rw [if_pos known, List.getElem?_eq_getElem known]
    simp
  · rw [if_neg known, List.getElem?_eq_none (Nat.not_lt.1 known)]
    rfl

theorem SourceRow.cell!_eq_ok {given : SourceRow} {merged : Nat} {column : Column}
    (place : schema.column? merged = some column)
    (length : given.mapping.length = given.sheet.schema.columns.length) :
    given.cell! schema merged (given.slotFor? merged) = .ok (given.cell column merged) := by
  cases own : given.slotFor? merged with
  | none =>
    rw [SourceRow.cell!, SourceRow.cell, own, Access.read_eq_ok place]
    rfl
  | some slot =>
    have inside : slot < given.sheet.schema.columns.length :=
      length ▸ (List.findIdx?_eq_some_iff_getElem.1 own).1
    have known : given.sheet.schema.column? slot = some given.sheet.schema.columns[slot] :=
      List.getElem?_eq_getElem inside
    rw [SourceRow.cell!, SourceRow.cell, own, Access.read_eq_ok known]
    dsimp only
    rw [known]
    rfl

theorem sheetRows!_eq_ok {groupSlot : Option Nat}
    (grouped : ∀ slot ∈ groupSlot, slot < schema.columns.length) {sheet : IngestedSheet}
    {mapping : List Nat} (maps : MapsByTitle sheet.schema.columns mapping schema) (source : Nat) :
    sheetRows! schema groupSlot source sheet mapping =
      .ok (sheet.rows.map fun row => SourceRow.cells ⟨source, sheet, mapping, row⟩ schema) := by
  have length : mapping.length = sheet.schema.columns.length := by
    have both := congrArg List.length maps
    rwa [List.length_map, List.length_map] at both
  have inside : ∀ merged ∈ mapping, merged < schema.columns.length := by
    intro merged mem
    have placed : some merged ∈ mapping.map some := List.mem_map_of_mem mem
    rw [maps] at placed
    obtain ⟨column, -, place⟩ := List.mem_map.1 placed
    exact Schema.lt_of_slotOf? place
  have paired : (schema.slots.map fun one => mapping.findIdx? (· == one.2)).zipIdx =
      schema.slots.map fun one => (mapping.findIdx? (· == one.2), one.2) := by
    refine List.ext_getElem? fun i => ?_
    rw [List.getElem?_zipIdx, List.getElem?_map, List.getElem?_map, Schema.slots,
      List.getElem?_zipIdx, Option.map_map, Option.map_map, Option.map_map]
    simp [Function.comp_def]
  rw [sheetRows!, reverse!_eq_ok inside, Access.ok_bind]
  refine Access.mapM_eq_ok fun row _ => ?_
  have cells : (schema.slots.map fun one => (mapping.findIdx? (· == one.2), one.2)).mapM
      (fun (own, merged) => SourceRow.cell! ⟨source, sheet, mapping, row⟩ schema merged own) =
      .ok (SourceRow.cells ⟨source, sheet, mapping, row⟩ schema) := by
    rw [List.mapM_map]
    refine Access.mapM_eq_ok fun one mem => ?_
    let given : SourceRow := ⟨source, sheet, mapping, row⟩
    have same : given.mapping.length = given.sheet.schema.columns.length := length
    exact SourceRow.cell!_eq_ok (Header.column?_of_mem_slots mem) same
  have group : ∀ slot ∈ groupSlot,
      slot < (SourceRow.cells ⟨source, sheet, mapping, row⟩ schema).length := by
    intro slot link
    rw [SourceRow.cells, List.length_map, Schema.slots, List.length_zipIdx]
    exact grouped slot link
  rw [paired, cells, Access.ok_bind, Access.follow_eq_ok group]
  rfl

theorem rows!_eq_ok {groupSlot : Option Nat}
    (grouped : ∀ slot ∈ groupSlot, slot < schema.columns.length) {sheets : List IngestedSheet}
    {mappings : List (List Nat)} (maps : List.Forall₂ (fun sheet mapping =>
      MapsByTitle sheet.schema.columns mapping schema) sheets mappings) :
    rows! schema groupSlot sheets mappings =
      .ok ((sourceRows sheets mappings).map (·.cells schema)) := by
  have parts : ∀ one ∈ (sheets.zip mappings).zipIdx,
      sheetRows! schema groupSlot one.2 one.1.1 one.1.2 = .ok (one.1.1.rows.map fun row =>
        SourceRow.cells ⟨one.2, one.1.1, one.1.2, row⟩ schema) := by
    intro one mem
    have pair := List.mem_of_getElem? (List.mk_mem_zipIdx_iff_getElem?.1 mem)
    exact sheetRows!_eq_ok grouped (List.forall₂_zip maps pair) one.2
  rw [rows!, Access.mapM_eq_ok parts, Access.ok_bind, sourceRows, List.map_flatMap]
  simp only [List.map_map]
  rfl

end Merge

/-- Merging sheets whose links are inside their columns reads slots of columns and cells only. -/
theorem MergeOutcome.ofSheets!_eq_ok (group : String) {sheets : List IngestedSheet}
    (links : ∀ sheet ∈ sheets, sheet.schema.LinksInside) (referenceOnly : Bool) :
    ofSheets! group sheets referenceOnly = .ok (ofSheets? group sheets referenceOnly) := by
  rw [ofSheets!, ofSheets?]
  cases sheets.head? with
  | none => rfl
  | some first =>
    cases tuple : first.schema.merge with
    | none =>
      simp [tuple]
    | some header =>
      let start : Schema := { Schema.blank first.schema.origin .merge with
        name := group, merge := some header }
      have unified : sheets.foldlM (Merge.addSheet! group) ⟨start, [], []⟩ =
          .ok (sheets.foldl (Merge.addSheet group) ⟨start, [], []⟩) :=
        (Access.foldlM_eq_ok (fun _ => True) (fun now _ sheet mem =>
          ⟨Merge.addSheet!_eq_ok group now (links sheet mem), trivial⟩) trivial).1
      have begun : Merge.Maps [] ⟨start, [], []⟩ := .start rfl rfl
      have maps := (begun.addSheets group sheets).mappings
      simp only [Option.bind_eq_bind, Option.bind_some, tuple]
      rw [unified, Access.ok_bind,
        Merge.rows!_eq_ok (fun _ place => Schema.lt_of_findSlot? place) maps]
      rfl

end DesignTables
