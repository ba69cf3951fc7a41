import DesignTables.Proofs.Compile.Contents
import DesignTables.Proofs.Ingest.Sheets
import DesignTables.Proofs.Text.Lower
import DesignTables.Proofs.Validation.Problems

/-!
# The references of a run that writes

Every element of a reference column is zero, where that means none, or stands in a row of a table
or merge table of the run, in the column that the reference names. Tables that serve look-ups only
are among these; sheets of merge groups are not, their rows count where they were merged.
-/
namespace DesignTables

/-- Some row has a value in the column that a reference names. -/
def Schema.HoldsReferenced (schema : Schema) (rows : List TableRow) (target : ReferenceTarget)
    (element : String) : Prop :=
  ∃ column slot, (column, slot) ∈ schema.slots ∧ column.origin.isSome ∧
    Text.lower (schema.name ++ "/" ++ column.title) = target.table ++ "/" ++ target.field ∧
    ∃ row ∈ rows, row.value slot = element

/-- An indexed value stands in the column that its origin is named after. -/
theorem Schema.HoldsOrigin.holdsReferenced {schema : Schema} {rows : List TableRow}
    {target : ReferenceTarget} {element : String} (own : schema.OwnsOrigins)
    (h : schema.HoldsOrigin rows target.originName element) :
    schema.HoldsReferenced rows target element := by
  obtain ⟨column, slot, mem, ⟨name, named, lowered⟩, held⟩ := h
  have declared : name = originName schema.name column.title :=
    own column (List.mem_of_getElem? (Header.column?_of_mem_slots mem)) name named
  refine ⟨column, slot, mem, by rw [named]; rfl, ?_, held⟩
  rw [declared, originName, Text.lower_lower] at lowered
  exact lowered

namespace RunContext

variable {ctx : RunContext}

/-- What resolves at validation stands in a table of the run or in a merge table. -/
theorem holdsReferenced_of_resolve? (h : ctx.Ingests) {target : ReferenceTarget} {element : String}
    (found : (ctx.mergedState.references.resolve? target.originName element).isSome) :
    (∃ table ∈ ctx.mergedState.tables, table.schema.HoldsReferenced table.rows target element) ∨
      ∃ table ∈ ctx.mergedState.merges,
        table.schema.HoldsReferenced table.rows target element := by
  rw [resolve?_mergedState h, Option.isSome_or, Bool.or_eq_true, List.findSome?_isSome_iff,
    List.findSome?_isSome_iff] at found
  rcases found with ⟨sheet, mem, found⟩ | ⟨outcome, mem, found⟩
  · left
    obtain ⟨given, origin, ingested⟩ := mem_sheets mem
    rw [IngestedSheet.indexedOrigins] at found
    split at found
    next merge => cases found
    next plain =>
      have held := IngestedSheet.tracesTo_ofSheet? ingested _ _ found
      have referenced := held.holdsReferenced (IngestedSheet.readFrom_ofSheet? ingested).2.origins
      have kept : sheet ∈ ctx.sheets.filter (!·.isMerge) :=
        List.mem_filter.2 ⟨mem, by rw [Bool.eq_false_iff.2 plain]; rfl⟩
      rw [sheets, List.filter_append] at kept
      rw [tables_mergedState h]
      rcases List.mem_append.1 kept with kept | kept
      · exact ⟨sheet.asTable false, List.mem_append_left _ (List.mem_map_of_mem kept), referenced⟩
      · exact ⟨sheet.asTable true, List.mem_append_right _ (List.mem_map_of_mem kept), referenced⟩
  · right
    obtain ⟨group, _, merged⟩ := List.mem_filterMap.1 mem
    have held := MergeOutcome.tracesTo_ofSheets? merged _ _ found
    have referenced := held.holdsReferenced (MergeOutcome.ofSheets?_eq_some merged).2.origins
    obtain ⟨shards, same⟩ := CompileState.shardMerge_table outcome.table
    refine ⟨(CompileState.shardMerge outcome.table).1, ?_, ?_⟩
    · rw [merges_mergedState h]
      exact List.mem_map_of_mem mem
    · rw [same]
      exact referenced

end RunContext

/-- In a table that is validated without a problem, every element of a reference column is zero,
where that means none, or resolves. -/
theorem CompileState.resolves_of_clean {state : CompileState} {target : ValidationTarget}
    (none : (TableValidation.ofTarget target state.validationContext).diagnostics = [])
    {column : Column} {slot : Nat} (mem : (column, slot) ∈ target.schema.slots)
    {check : ReferenceTarget} (checked : column.check = some check) {row : TableRow}
    (stored : row ∈ target.rows) {element : String}
    (part : element ∈ column.elements (row.value slot)) :
    ((column.dataType = some .int ∨ column.dataType = some .float) ∧ element = "0") ∨
      (state.references.resolve? check.originName element).isSome := by
  obtain ⟨position, place⟩ := exists_mem_zipIdx stored
  have cell := TableValidation.diagnostics_ofTarget_eq_nil_iff.1 none row position place column slot
    mem
  have reference := (CheckedCell.check_problems_eq_nil_iff.1 cell).2.2.2.2
  rcases CheckedCell.resolved_of_checkReference reference checked part with zero | found
  · exact .inl (CheckedCell.isNoReference_iff.1 zero)
  · exact .inr found

namespace Run

variable {ctx : RunContext}

/-- In a run that writes, every element of a reference column is zero, where that means none, or a
value of the column that it refers to. -/
theorem references_resolve (h : (ofContext ctx).stage = .emit) :
    ∀ target ∈ (ofContext ctx).finalState.targets,
      ∀ column slot, (column, slot) ∈ target.schema.slots →
        ∀ check, column.check = some check →
          ∀ row ∈ target.rows, ∀ element ∈ column.elements (row.value slot),
            ((column.dataType = some .int ∨ column.dataType = some .float) ∧ element = "0") ∨
            (∃ table ∈ (ofContext ctx).finalState.tables,
              table.schema.HoldsReferenced table.rows check element) ∨
            ∃ table ∈ (ofContext ctx).finalState.merges,
              table.schema.HoldsReferenced table.rows check element := by
  obtain ⟨reaches, clean⟩ := stage_eq_emit_iff.1 h
  obtain ⟨tables, merges, targets, -, -⟩ := Validated.ofState_parts ctx.mergedState
  rw [finalState_of_emit h, tables, merges, targets]
  intro target mem column slot mem' check checked row stored element part
  have none := (isClean_ofState_iff.1 clean).2 target mem
  rcases CompileState.resolves_of_clean none mem' checked stored part with zero | found
  · exact .inl zero
  · exact .inr (RunContext.holdsReferenced_of_resolve? reaches.toIngests found)

/-- A shop whose goods are items of another workbook, which is ingested for look-ups only. -/
def shopAndItems : List Workbook :=
  [⟨"shop.xlsx", "design/shop.xlsx", [⟨"shop", Grid.ofTexts
      [["", "", ""], ["#data", "id", "goods[]"], ["", "key,int", "int,check<item/id>"],
       ["", "data", "data"], ["", "1", "7,0"], ["", "2", "8"]]⟩]⟩,
   ⟨"item.xlsx", "design/item.xlsx", [⟨"item", Grid.ofTexts
      [["", "", ""], ["#data", "id", "name"], ["", "key,int", "string"], ["", "data", "data"],
       ["", "7", "rope"], ["", "8", "lamp"]]⟩]⟩]

set_option maxRecDepth 100000 in
/-- The shop's goods resolve. -/
theorem references_resolve_shop :
    let run := Run.ofContext
      (RunContext.select Options.standard shopAndItems (.named ["shop"]) false)
    run.stage = .emit ∧ run.finalState.tables.map (·.referenceOnly) = [false, true] ∧
      ∀ target ∈ run.finalState.targets, ∀ column slot, (column, slot) ∈ target.schema.slots →
        ∀ check, column.check = some check →
          ∀ row ∈ target.rows, ∀ element ∈ column.elements (row.value slot),
            ((column.dataType = some .int ∨ column.dataType = some .float) ∧ element = "0") ∨
            (∃ table ∈ run.finalState.tables,
              table.schema.HoldsReferenced table.rows check element) ∨
            ∃ table ∈ run.finalState.merges,
              table.schema.HoldsReferenced table.rows check element := by
  have clean : (Run.ofContext (RunContext.select Options.standard shopAndItems
      (.named ["shop"]) false)).stage = .emit := by decide +kernel
  exact ⟨clean, by decide +kernel, references_resolve clean⟩

end Run

end DesignTables
