import DesignTables.Proofs.Catalog.Library
import DesignTables.Proofs.Header.Links
import DesignTables.Proofs.Index.Unions
import DesignTables.Proofs.Merge.Agreement
import DesignTables.Validation.Table

/-!
# Where the cells of a merge table come from

A column of a sheet goes to the merged column of its title, and titles are only ever added. So a
merged cell holds what its sheet has in the first column of the same title: the value, its place
and, if one was recorded, the element count. A sheet without the title gives no count.
-/
namespace DesignTables

namespace Schema

/-- The titles of the columns. -/
def titles (schema : Schema) : List String := schema.columns.map (·.title)

theorem slotOf?_eq (schema : Schema) (title : String) :
    schema.slotOf? title = schema.titles.findIdx? (· == title) := by
  rw [slotOf?, titles, List.findIdx?_map]
  rfl

theorem lt_of_slotOf? {schema : Schema} {title : String} {slot : Nat}
    (h : schema.slotOf? title = some slot) : slot < schema.columns.length :=
  (List.findIdx?_eq_some_iff_getElem.1 h).1

theorem lt_of_column? {schema : Schema} {slot : Nat} {column : Column}
    (h : schema.column? slot = some column) : slot < schema.columns.length :=
  (List.getElem?_eq_some_iff.1 h).1

theorem titleAt_eq {schema : Schema} {slot : Nat} {column : Column}
    (h : schema.column? slot = some column) : schema.titleAt slot = column.title := by
  rw [titleAt, h]
  rfl

/-- A title keeps its slot when titles are added behind. -/
theorem slotOf?_of_prefix {a b : Schema} (h : a.titles <+: b.titles) {title : String} {slot : Nat}
    (place : a.slotOf? title = some slot) : b.slotOf? title = some slot := by
  obtain ⟨more, same⟩ := h
  rw [slotOf?_eq] at place ⊢
  rw [← same, List.findIdx?_append, place]
  rfl

/-- Where no title occurs twice, a title tells the column. -/
theorem slotOf?_eq_some_iff {schema : Schema} (nodup : schema.titles.Nodup) {slot : Nat}
    {column : Column} (place : schema.column? slot = some column) {title : String} :
    schema.slotOf? title = some slot ↔ title = column.title := by
  have here : schema.titles[slot]? = some column.title := by
    rw [column?] at place
    rw [titles, List.getElem?_map, place]
    rfl
  obtain ⟨inside, own⟩ := List.getElem?_eq_some_iff.1 here
  rw [slotOf?_eq, List.findIdx?_eq_some_iff_getElem]
  constructor
  · rintro ⟨_, same, -⟩
    exact (eq_of_beq same).symm.trans own
  · rintro rfl
    refine ⟨inside, by rw [own]; exact beq_self_eq_true _, fun j earlier same => ?_⟩
    have equal := (eq_of_beq same).trans own.symm
    rw [nodup.getElem_inj_iff] at equal
    omega

/-- A new title gets the slot behind all others. -/
theorem slotOf?_of_added {a b : Schema} {column : Column} (added : b.columns = a.columns ++ [column])
    (new : a.slotOf? column.title = none) :
    b.slotOf? column.title = some a.columns.length := by
  rw [slotOf?, added, List.findIdx?_append]
  rw [slotOf?] at new
  rw [new, List.findIdx?_singleton, beq_self_eq_true]
  simp

end Schema

namespace Merge

variable {group : String} {source schema : Schema} {unified : Unified}

/-- The merged slots of some columns are those of their titles. -/
def MapsByTitle (columns : List Column) (mapping : List Nat) (schema : Schema) : Prop :=
  mapping.map some = columns.map fun column => schema.slotOf? column.title

theorem MapsByTitle.of_prefix {columns : List Column} {mapping : List Nat} {later : Schema}
    (h : MapsByTitle columns mapping schema) (grown : schema.titles <+: later.titles) :
    MapsByTitle columns mapping later := by
  refine Eq.trans h (List.map_congr_left fun column mem => ?_)
  have placed : schema.slotOf? column.title ∈ mapping.map some := by
    rw [h]
    exact List.mem_map_of_mem mem
  obtain ⟨slot, -, place⟩ := List.mem_map.1 placed
  rw [← place, Schema.slotOf?_of_prefix grown place.symm]

/-- A merged slot takes its value from the first column of its title. -/
theorem MapsByTitle.findIdx?_eq {given : Schema} {mapping : List Nat}
    (h : MapsByTitle given.columns mapping schema) (nodup : schema.titles.Nodup) {slot : Nat}
    {merged : Column} (place : schema.column? slot = some merged) :
    mapping.findIdx? (· == slot) = given.slotOf? merged.title := by
  have options : mapping.findIdx? (· == slot) = (mapping.map some).findIdx? (· == some slot) := by
    rw [List.findIdx?_map]
    rfl
  rw [options, h, List.findIdx?_map, Schema.slotOf?]
  congr 1
  funext column
  rw [Function.comp_apply, Bool.eq_iff_iff, beq_iff_eq, beq_iff_eq,
    Schema.slotOf?_eq_some_iff nodup place]

/-- What placing the columns of a sheet does: it adds columns behind, each with a placement that
says so, and places every column in a slot of its title. -/
structure Placing (start : Schema) (columns : List Column) (unified : Unified) : Prop where
  grown : start.columns <+: unified.schema.columns
  maps : MapsByTitle columns (unified.placements.map (·.slot)) unified.schema
  added : ∀ slot < unified.schema.columns.length, start.columns.length ≤ slot →
    ⟨slot, true⟩ ∈ unified.placements
  key : ∀ slot ∈ unified.schema.key, slot ∈ start.key ∨ slot < unified.schema.columns.length

theorem titles_of_columns {a b : Schema} (h : a.columns <+: b.columns) : a.titles <+: b.titles :=
  h.map _

/-- A column with a new title is added behind, and may become the key. -/
theorem placeColumn_of_new (group : String) (source : Schema) {column : Column}
    (new : unified.schema.slotOf? column.title = none) :
    ∃ added renamed, Merge.placeColumn group source unified column =
        ⟨added, unified.placements ++ [⟨unified.schema.columns.length, true⟩],
          unified.diagnostics⟩ ∧
      added.columns = unified.schema.columns ++ [renamed] ∧ renamed.title = column.title ∧
      ∀ slot ∈ added.key, slot ∈ unified.schema.key ∨ slot = unified.schema.columns.length := by
  rw [Merge.placeColumn, new]
  refine ⟨_, _, rfl, rfl, rfl, fun slot mem => ?_⟩
  dsimp only at mem
  split at mem
  · rcases Option.or_eq_some_iff.1 mem with held | ⟨-, taken⟩
    · exact .inl held
    · exact .inr (Option.some.inj taken).symm
  · exact .inl mem

theorem Placing.placeColumn {start : Schema} {columns : List Column}
    (h : Placing start columns unified) (group : String) (source : Schema) (column : Column) :
    Placing start (columns ++ [column]) (Merge.placeColumn group source unified column) := by
  cases place : unified.schema.slotOf? column.title with
  | some slot =>
    rw [Merge.placeColumn, place]
    refine ⟨h.grown, ?_, fun slot' inside outside => ?_, h.key⟩
    · simp only [MapsByTitle, List.map_append, List.map_cons, List.map_nil, place]
      rw [h.maps]
    · exact List.mem_append_left _ (h.added slot' inside outside)
  | none =>
    obtain ⟨added, renamed, result, columns', same, key⟩ :=
      placeColumn_of_new group source place
    have grown : unified.schema.columns <+: added.columns := ⟨[renamed], columns'.symm⟩
    have length := congrArg List.length columns'
    rw [List.length_append, List.length_singleton] at length
    rw [result]
    refine ⟨h.grown.trans grown, ?_, fun slot inside outside => ?_, fun slot mem => ?_⟩
    · have before := h.maps.of_prefix (titles_of_columns grown)
      have here := Schema.slotOf?_of_added columns' (same ▸ place)
      rw [same] at here
      simp only [MapsByTitle, List.map_append, List.map_cons, List.map_nil, here]
      rw [before]
    · rcases Nat.lt_or_ge slot unified.schema.columns.length with known | last
      · exact List.mem_append_left _ (h.added slot known outside)
      · obtain rfl : slot = unified.schema.columns.length := by
          dsimp only at inside
          omega
        exact List.mem_append_right _ List.mem_cons_self
    · dsimp only
      rcases key slot mem with known | rfl
      · rcases h.key slot known with first | inside
        · exact .inl first
        · exact .inr (by omega)
      · exact .inr (by omega)

theorem Placing.inside {start : Schema} {columns : List Column} (h : Placing start columns unified) :
    ∀ placement ∈ unified.placements, placement.slot < unified.schema.columns.length := by
  intro placement mem
  have placed : some placement.slot ∈
      columns.map fun column => unified.schema.slotOf? column.title := by
    rw [← h.maps]
    exact List.mem_map_of_mem (List.mem_map_of_mem mem)
  obtain ⟨column, -, place⟩ := List.mem_map.1 placed
  exact Schema.lt_of_slotOf? place

/-- Before its first column is placed a sheet has added nothing. -/
theorem Placing.start (schema : Schema) : Placing schema [] ⟨schema, [], []⟩ :=
  ⟨List.prefix_refl _, rfl, fun _ inside outside => absurd inside (Nat.not_lt.2 outside),
    fun _ mem => .inl mem⟩

/-- Placing the columns of a sheet one after the other places them all. -/
theorem placing_placeColumns (group : String) (source schema : Schema) (columns : List Column) :
    Placing schema columns (columns.foldl (placeColumn group source) ⟨schema, [], []⟩) :=
  foldl_passes (Placing.start schema) fun _ column _ _ _ known =>
    known.placeColumn group source column

theorem Placing.length {start : Schema} {columns : List Column} (h : Placing start columns unified) :
    unified.placements.length = columns.length := by
  have length := congrArg List.length h.maps
  rwa [List.length_map, List.length_map, List.length_map] at length

theorem titles_linkColumns (source : Schema) (placements : List Placement) (schema : Schema) :
    (linkColumns source placements schema).titles = schema.titles := by
  refine linkColumns_induction (P := fun now => now.titles = schema.titles) rfl ?_
  intro now kept column placement _
  refine Eq.trans ?_ kept
  exact Schema.map_columns_modifyColumn
    (fun c => (linkColumn_kept placements placement.isNew column c).1) now placement.slot

theorem key_linkColumns (source : Schema) (placements : List Placement) (schema : Schema) :
    (linkColumns source placements schema).key = schema.key :=
  linkColumns_induction (P := fun now => now.key = schema.key) rfl fun _ kept _ _ _ => kept

theorem lt_of_relink {placements : List Placement} {width : Nat}
    (inside : ∀ placement ∈ placements, placement.slot < width) {link : Option Nat} {source : Nat}
    (h : relink placements link = some source) : source < width := by
  obtain ⟨placement, found, rfl⟩ := Option.map_eq_some_iff.1 h
  obtain ⟨slot, -, place⟩ := Option.bind_eq_some_iff.1 found
  exact inside placement (List.mem_of_getElem? place)

theorem linksBelow_linkColumn {placements : List Placement} {width : Nat}
    (inside : ∀ placement ∈ placements, placement.slot < width) {isNew : Bool}
    {column merged : Column} (known : isNew = true ∨ merged.LinksBelow width) :
    (linkColumn placements isNew column merged).LinksBelow width := by
  cases isNew with
  | true =>
    exact ⟨fun _ link => lt_of_relink inside link, fun _ link => lt_of_relink inside link,
      fun _ link => lt_of_relink inside link⟩
  | false =>
    -- A known column keeps the links it has, and takes the others from the placements.
    have own := known.resolve_left Bool.false_ne_true
    have either {kept new : Option Nat} (below : ∀ slot ∈ kept, slot < width) :
        ∀ slot ∈ kept.or (relink placements new), slot < width := by
      intro slot link
      rcases Option.or_eq_some_iff.1 link with held | ⟨-, taken⟩
      · exact below slot held
      · exact lt_of_relink inside taken
    exact ⟨either own.change, either own.arraySizeRef, either own.enumGroupRef⟩

/-- Linking settles the links of the columns that are new, and keeps those of the others. -/
theorem linksBelow_linkColumns {placements : List Placement} {width : Nat}
    (inside : ∀ placement ∈ placements, placement.slot < width)
    (length : source.columns.length = placements.length)
    (known : ∀ slot column, schema.column? slot = some column →
      column.LinksBelow width ∨ ⟨slot, true⟩ ∈ placements) :
    ∀ column ∈ (linkColumns source placements schema).columns, column.LinksBelow width := by
  intro column mem
  obtain ⟨slot, place⟩ := List.mem_iff_getElem?.1 mem
  let Settled (now : Schema) : Prop := ∀ c, now.column? slot = some c → c.LinksBelow width
  have kept : ∀ now, Settled now → ∀ linked ∈ source.columns.zip placements,
      Settled (now.modifyColumn linked.2.slot
        (linkColumn placements linked.2.isNew linked.1)) := by
    intro now settled linked _ c found
    rw [Schema.column?, Schema.modifyColumn, List.getElem?_modify] at found
    obtain ⟨before, place, rfl⟩ := Option.map_eq_some_iff.1 found
    split
    · exact linksBelow_linkColumn inside (.inr (settled before place))
    · exact settled before place
  have settled : Settled (linkColumns source placements schema) := by
    by_cases isNew : ⟨slot, true⟩ ∈ placements
    · obtain ⟨i, here, same⟩ := List.mem_iff_getElem.1 isNew
      have linked : (source.columns[i], (⟨slot, true⟩ : Placement)) ∈
          source.columns.zip placements := by
        rw [← same, List.mem_iff_getElem]
        exact ⟨i, by rw [List.length_zip]; omega, List.getElem_zip⟩
      refine foldl_brings_about (P := Settled) linked kept ?_ schema
      intro now c found
      dsimp only at found
      rw [Schema.column?, Schema.modifyColumn, List.getElem?_modify] at found
      obtain ⟨before, -, rfl⟩ := Option.map_eq_some_iff.1 found
      rw [if_pos rfl]
      exact linksBelow_linkColumn inside (.inl rfl)
    · refine linkColumns_induction (P := Settled) (fun c found => ?_)
        fun now settled linked placement mem => kept now settled (linked, placement) mem
      exact (known slot c found).resolve_right isNew
  exact settled column place

/-- What is known of a merged structure: each sheet's columns go to the merged columns of their
titles, and the merged columns are linked to merged columns. -/
structure Maps (sheets : List IngestedSheet) (merged : Structure) : Prop where
  mappings : List.Forall₂ (fun sheet mapping =>
    MapsByTitle sheet.schema.columns mapping merged.schema) sheets merged.mappings
  links : merged.schema.LinksInside

/-- A structure without columns maps no sheet. -/
theorem Maps.start {schema : Schema} (columns : schema.columns = []) (key : schema.key = none) :
    Maps [] ⟨schema, [], []⟩ := by
  refine ⟨.nil, fun slot mem => ?_, fun column mem => ?_⟩
  · rw [key] at mem
    cases mem
  · rw [columns] at mem
    exact absurd mem List.not_mem_nil

theorem Maps.addSheet {sheets : List IngestedSheet} {merged : Structure} (h : Maps sheets merged)
    (group : String) (sheet : IngestedSheet) :
    Maps (sheets ++ [sheet]) (Merge.addSheet group merged sheet) := by
  have placing := placing_placeColumns group sheet.schema merged.schema sheet.schema.columns
  rw [Merge.addSheet]
  generalize sheet.schema.columns.foldl (Merge.placeColumn group sheet.schema)
    ⟨merged.schema, [], []⟩ = unified at placing
  have titles := titles_linkColumns sheet.schema unified.placements unified.schema
  have grown : merged.schema.titles <+:
      (linkColumns sheet.schema unified.placements unified.schema).titles := by
    rw [titles]
    exact titles_of_columns placing.grown
  have width : (linkColumns sheet.schema unified.placements unified.schema).columns.length =
      unified.schema.columns.length := by
    have length := congrArg List.length titles
    rwa [Schema.titles, Schema.titles, List.length_map, List.length_map] at length
  refine ⟨?_, ?_, ?_⟩
  · refine List.rel_append (h.mappings.imp fun _ _ maps => maps.of_prefix grown) ?_
    exact .cons (placing.maps.of_prefix (titles.symm ▸ List.prefix_refl _)) .nil
  · intro slot mem
    dsimp only at mem ⊢
    rw [key_linkColumns] at mem
    rw [width]
    rcases placing.key slot mem with first | inside
    · exact Nat.lt_of_lt_of_le (h.links.key slot first) placing.grown.length_le
    · exact inside
  · dsimp only
    rw [width]
    refine linksBelow_linkColumns placing.inside placing.length.symm fun slot column place => ?_
    rcases Nat.lt_or_ge slot merged.schema.columns.length with before | added
    · left
      obtain ⟨added, same⟩ := placing.grown
      rw [Schema.column?, ← same, List.getElem?_append_left before] at place
      exact (h.links.columns column (List.mem_of_getElem? place)).mono placing.grown.length_le
    · exact .inr (placing.added slot (Schema.lt_of_column? place) added)

theorem Maps.addSheets {merged : Structure} (h : Maps [] merged) (group : String)
    (sheets : List IngestedSheet) : Maps sheets (sheets.foldl (Merge.addSheet group) merged) :=
  foldl_passes h fun _ sheet _ _ _ known => known.addSheet group sheet

/-- A row of a group as a row of the merged table. -/
def SourceRow.merged (one : SourceRow) (schema : Schema) (position : Nat) : TableRow :=
  ⟨position + 1, (one.cells schema).map (·.value)⟩

/-- A row comes from a sheet of the group, whose columns go to those of their titles. -/
structure SourceRow.IsFrom (one : SourceRow) (sheets : List IngestedSheet) (schema : Schema) :
    Prop where
  sheet : sheets[one.source]? = some one.sheet
  row : one.row ∈ one.sheet.rows
  maps : MapsByTitle one.sheet.schema.columns one.mapping schema

namespace SourceRow

variable {one : SourceRow} {sheets : List IngestedSheet} {slot position : Nat} {column : Column}

theorem slotFor?_eq (h : one.IsFrom sheets schema) (nodup : schema.titles.Nodup)
    (place : schema.column? slot = some column) :
    one.slotFor? slot = one.sheet.schema.slotOf? column.title :=
  h.maps.findIdx?_eq nodup place

theorem cells_getElem? (place : schema.column? slot = some column) :
    (one.cells schema)[slot]? = some (one.cell column slot) := by
  rw [Schema.column?] at place
  rw [cells, Schema.slots, List.getElem?_map, List.getElem?_zipIdx, place, Nat.zero_add]
  rfl

theorem value_merged (place : schema.column? slot = some column) :
    (one.merged schema position).value slot = (one.cell column slot).value := by
  rw [TableRow.value, merged, List.getElem?_map, cells_getElem? place]
  rfl

theorem cell_of_slotFor? (column : Column) {own : Nat} (found : one.slotFor? slot = some own)
    {given : Column} (place : one.sheet.schema.column? own = some given) :
    one.cell column slot =
      ⟨one.source, one.row.row, some given.gridColumn, one.row.value own⟩ := by
  rw [cell, found]
  dsimp only
  rw [place]
  rfl

end SourceRow

theorem isFrom_of_mem_sourceRows {sheets : List IngestedSheet} {mappings : List (List Nat)}
    (maps : List.Forall₂ (fun sheet mapping =>
      MapsByTitle sheet.schema.columns mapping schema) sheets mappings)
    {one : SourceRow} (h : one ∈ sourceRows sheets mappings) : one.IsFrom sheets schema := by
  obtain ⟨⟨⟨sheet, mapping⟩, source⟩, mem, made⟩ := List.mem_flatMap.1 h
  obtain ⟨row, stored, rfl⟩ := List.mem_map.1 made
  have pair := List.mk_mem_zipIdx_iff_getElem?.1 mem
  refine ⟨?_, stored, List.forall₂_zip maps (List.mem_of_getElem? pair)⟩
  obtain ⟨known, -⟩ := List.getElem?_zip_eq_some.1 pair
  exact known

/-- Every row of every sheet goes into the table. -/
theorem exists_sourceRow {sheets : List IngestedSheet} {mappings : List (List Nat)}
    (length : sheets.length = mappings.length) {source : Nat} {sheet : IngestedSheet}
    (known : sheets[source]? = some sheet) {row : TableRow} (stored : row ∈ sheet.rows) :
    ∃ one ∈ sourceRows sheets mappings,
      one.source = source ∧ one.sheet = sheet ∧ one.row = row := by
  obtain ⟨inside, -⟩ := List.getElem?_eq_some_iff.1 known
  obtain ⟨mapping, mapped⟩ : ∃ mapping, mappings[source]? = some mapping :=
    ⟨_, List.getElem?_eq_getElem (length ▸ inside)⟩
  refine ⟨⟨source, sheet, mapping, row⟩, ?_, rfl, rfl, rfl⟩
  rw [sourceRows, List.mem_flatMap]
  refine ⟨((sheet, _), source), ?_, List.mem_map_of_mem stored⟩
  exact List.mk_mem_zipIdx_iff_getElem?.2 (List.getElem?_zip_eq_some.2 ⟨known, mapped⟩)

/-- The count of a merged cell that a row records. -/
theorem get?_foldl_record_size (one : SourceRow) (position slot row : Nat) (sizes : SizeIndex) :
    (schema.slots.foldl (fun sizes (_, slot) =>
      match one.size? slot with
      | some size => sizes.record group slot (position + 1) size
      | none => sizes) sizes).get? group slot row =
    (sizes.get? group slot row).or
      (if row = position + 1 ∧ slot < schema.columns.length then one.size? slot else none) := by
  let answer (given : Column × Nat) : Option Nat :=
    if row = position + 1 ∧ given.2 = slot then one.size? given.2 else none
  rw [foldl_first_reading (fun now : SizeIndex => now.get? group slot row) answer]
  · congr 1
    by_cases inside : slot < schema.columns.length
    · have mem := Header.mem_slots_of_lt inside
      have nodup : (schema.slots.map Prod.snd).Nodup := by
        rw [Schema.slots, List.zipIdx_map_snd]
        exact List.nodup_range'
      rw [findSome?_key nodup mem fun other _ apart => if_neg fun both => apart both.2]
      simp [inside]
    · rw [if_neg fun both => inside both.2, List.findSome?_eq_none_iff]
      rintro ⟨column, other⟩ mem
      have below := Schema.lt_of_column? (Header.column?_of_mem_slots mem)
      refine if_neg ?_
      rintro ⟨-, rfl⟩
      exact inside below
  · rintro now ⟨column, other⟩
    dsimp only [answer]
    cases one.size? other with
    | none => simp
    | some size =>
      dsimp only
      rw [SizeIndex.get?_record]
      by_cases here : row = position + 1 ∧ other = slot
      · obtain ⟨rfl, rfl⟩ := here
        simp
      · rw [if_neg here, if_neg, Option.or_none]
        rintro same
        simp only [Prod.mk.injEq, true_and] at same
        exact here ⟨same.2, same.1.symm⟩

/-- The element count of a merged cell is the one that its sheet recorded. -/
theorem get?_mergedSizes {given : List SourceRow} {position slot : Nat} {one : SourceRow}
    (here : given[position]? = some one) (inside : slot < schema.columns.length) :
    (mergedSizes group schema given).get? group slot (position + 1) = one.size? slot := by
  let answer (entry : SourceRow × Nat) : Option Nat :=
    if position + 1 = entry.2 + 1 ∧ slot < schema.columns.length then entry.1.size? slot else none
  have nodup : (given.zipIdx.map Prod.snd).Nodup := by
    rw [List.zipIdx_map_snd]
    exact List.nodup_range'
  have mem : (one, position) ∈ given.zipIdx := List.mk_mem_zipIdx_iff_getElem?.2 here
  rw [mergedSizes, foldl_first_reading
    (fun now : SizeIndex => now.get? group slot (position + 1)) answer]
  · rw [findSome?_key nodup mem]
    · simp [answer, inside, SizeIndex.get?, SizeIndex.empty, KeyTable.get?_empty]
    · intro other _ apart
      refine if_neg fun both => apart ?_
      have := both.1
      dsimp only
      omega
  · rintro now ⟨other, position'⟩
    exact get?_foldl_record_size other position' slot (position + 1) now

end Merge

/-- A sheet of a merge group that is ingested without a problem. -/
structure IngestedSheet.ShareOf (sheet : IngestedSheet) (group : String) : Prop where
  ingested : ∃ given origin mergeGroups,
    IngestedSheet.ofSheet? given origin mergeGroups = some sheet
  clean : sheet.diagnostics = []
  group : sheet.schema.merge.map (·.name) = some group

namespace Library

/-- The table sheets among some sheets of a workbook, ingested as shares of a group `g`. -/
def sharesOf (sheets : List Sheet) : List IngestedSheet :=
  sheets.filterMap fun sheet =>
    IngestedSheet.ofSheet? sheet ⟨"design", "M.xlsx", sheet.name⟩ ["g"]

/-- A sheet with the tuple of the group. -/
def shareSheet (name : String) (columns : List (String × String)) (rows : List (List String)) :
    Sheet :=
  sheetOf name "#merge" "g,id,0" columns rows

theorem shareOf_of_mem_sharesOf {sheets : List Sheet}
    (clean : ∀ sheet ∈ sharesOf sheets,
      sheet.diagnostics = [] ∧ sheet.schema.merge.map (·.name) = some "g") :
    ∀ sheet ∈ sharesOf sheets, sheet.ShareOf "g" := by
  intro sheet mem
  obtain ⟨given, -, ingested⟩ := List.mem_filterMap.1 mem
  exact ⟨⟨given, _, _, ingested⟩, (clean sheet mem).1, (clean sheet mem).2⟩

/-- A context that knows nothing. -/
def blankContext : ValidationContext :=
  ⟨EnumRegistry.empty, LocalizationRegistry.empty, ReferenceIndex.empty, SizeIndex.empty⟩

end Library

namespace MergeOutcome

/-- What a merge outcome is made of: the rows of its sheets, cell by cell. -/
structure Composed (outcome : MergeOutcome) (group : String) (sheets : List IngestedSheet)
    (given : List Merge.SourceRow) : Prop where
  isFrom : ∀ one ∈ given, one.IsFrom sheets outcome.table.schema
  all : ∀ source sheet, sheets[source]? = some sheet → ∀ row ∈ sheet.rows,
    ∃ one ∈ given, one.source = source ∧ one.sheet = sheet ∧ one.row = row
  links : outcome.table.schema.LinksInside
  sources : outcome.table.sources = sheets.map (·.schema.origin)
  provenance : outcome.table.provenance = given.map (·.cells outcome.table.schema)
  rows : outcome.table.rows = given.zipIdx.map fun (one, position) =>
    one.merged outcome.table.schema position
  sizes : outcome.sizes = Merge.mergedSizes group outcome.table.schema given

variable {group : String} {sheets : List IngestedSheet} {referenceOnly : Bool}
  {outcome : MergeOutcome}

/-- Merging needs the tuple of the first sheet only, and takes the group field and the shard size
from it. -/
theorem exists_ofSheets? {first : IngestedSheet} {header : MergeHeader}
    (head : sheets.head? = some first) (tuple : first.schema.merge = some header)
    (group : String) (referenceOnly : Bool) :
    ∃ outcome, ofSheets? group sheets referenceOnly = some outcome ∧
      outcome.table.groupField = header.groupField ∧
      outcome.table.shardSize = header.shardSize := by
  refine ⟨_, Option.bind_eq_some_iff.2 ⟨first, head, Option.bind_eq_some_iff.2
    ⟨header, tuple, rfl⟩⟩, rfl, rfl⟩

/-- The rows of the sheets, one sheet after the other, make the table. -/
theorem composed_sourceRows (h : ofSheets? group sheets referenceOnly = some outcome) :
    ∃ mappings : List (List Nat), sheets.length = mappings.length ∧
      outcome.Composed group sheets (Merge.sourceRows sheets mappings) := by
  obtain ⟨first, _, h⟩ := Option.bind_eq_some_iff.1 h
  obtain ⟨header, _, h⟩ := Option.bind_eq_some_iff.1 h
  have start : Merge.Maps [] ⟨{ Schema.blank first.schema.origin .merge with
      name := group, merge := some header }, [], []⟩ := .start rfl rfl
  have maps := start.addSheets group sheets
  obtain rfl := Option.some.inj h
  refine ⟨_, maps.mappings.length_eq,
    fun one mem => Merge.isFrom_of_mem_sourceRows maps.mappings mem,
    fun source sheet known row stored =>
      Merge.exists_sourceRow maps.mappings.length_eq known stored,
    maps.links, rfl, rfl, ?_, rfl⟩
  rw [List.zipIdx_map, List.map_map]
  rfl

theorem exists_composed (h : ofSheets? group sheets referenceOnly = some outcome) :
    ∃ given, outcome.Composed group sheets given := by
  obtain ⟨mappings, -, composed⟩ := composed_sourceRows h
  exact ⟨_, composed⟩

namespace Composed

variable {given : List Merge.SourceRow} (h : outcome.Composed group sheets given)
include h

theorem mem_rows_iff {row : TableRow} {position : Nat} :
    (row, position) ∈ outcome.table.rows.zipIdx ↔
      ∃ one, given[position]? = some one ∧ row = one.merged outcome.table.schema position := by
  rw [List.mk_mem_zipIdx_iff_getElem?, h.rows, List.getElem?_map, List.getElem?_zipIdx,
    Nat.zero_add, Option.map_map, Option.map_eq_some_iff]
  exact exists_congr fun one => and_congr_right fun _ => eq_comm

/-- Where a merged cell came from. -/
theorem provenanceAt?_eq {position slot : Nat} {one : Merge.SourceRow} {column : Column}
    (here : given[position]? = some one)
    (place : outcome.table.schema.column? slot = some column) :
    outcome.table.provenanceAt? position slot =
      some (one.sheet.schema.origin, one.cell column slot) := by
  have isFrom := h.isFrom one (List.mem_of_getElem? here)
  have cells : outcome.table.provenance[position]? = some (one.cells outcome.table.schema) := by
    rw [h.provenance, List.getElem?_map, here]
    rfl
  have source : (one.cell column slot).source = one.source := by
    rw [Merge.SourceRow.cell]
    split <;> rfl
  have origin : outcome.table.sources[(one.cell column slot).source]? =
      some one.sheet.schema.origin := by
    rw [source, h.sources, List.getElem?_map, isFrom.sheet]
    rfl
  simp only [MergeTable.provenanceAt?, cells, Option.bind_eq_bind, Option.bind_some,
    Merge.SourceRow.cells_getElem? place, origin]
  rfl

theorem size_eq {position slot : Nat} {one : Merge.SourceRow}
    (here : given[position]? = some one) (inside : slot < outcome.table.schema.columns.length) :
    outcome.sizes.get? group slot (position + 1) = one.size? slot := by
  rw [h.sizes]
  exact Merge.get?_mergedSizes here inside

end Composed

end MergeOutcome

end DesignTables
