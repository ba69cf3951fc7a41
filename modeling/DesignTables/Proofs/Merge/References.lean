import DesignTables.Proofs.Ingest.Sheets
import DesignTables.Proofs.Merge.Placement
import DesignTables.Proofs.Validation.Concerns

/-!
# The reference problems of a merge table

A merged column checks what the first column of its title checks, and cuts values into elements as
that one does; no later sheet is compared with it on either. So a reference problem of a sheet is
found in the merge table exactly where the merged column checks the same target for every element
that the sheet's own column checks.
-/
namespace DesignTables

/-- Where a diagnostic points. -/
def Diagnostic.place (d : Diagnostic) : String × String × String × Nat × Nat :=
  (d.directory, d.file, d.sheet, d.row, d.column)

/-- A column checks a value against everything that another column checks it against. -/
def Column.ChecksLike (known column : Column) (value : String) : Prop :=
  ∀ target, column.check = some target → ∃ other, known.check = some other ∧
    other.originName = target.originName ∧
    ∀ element ∈ column.elements value,
      CheckedCell.isNoReference column element = false → element ∈ known.elements value

/-- Columns with one target that cut values alike check alike. -/
theorem Column.checksLike_of_eq {known column : Column} (check : known.check = column.check)
    (isArray : known.isArray = column.isArray) (value : String) :
    known.ChecksLike column value := by
  intro target checked
  refine ⟨target, check.trans checked, rfl, fun element mem _ => ?_⟩
  rw [Column.elements] at mem ⊢
  rw [isArray]
  exact mem

namespace CheckedCell

variable {cell : CheckedCell} {references : ReferenceIndex} {substituted : Bool}

theorem mem_checkReference_iff {problem : Problem} :
    problem ∈ (cell.checkReference references substituted).problems ↔
      ∃ target, cell.column.check = some target ∧
        ((references.hasOrigin target.originName = false ∧
            problem = .noSuchOrigin target.originName) ∨
          (references.hasOrigin target.originName = true ∧ ∃ element ∈ cell.elements,
            isNoReference cell.column element = false ∧
            references.resolve? target.originName element = none ∧
            problem = .referenceNotFound element)) := by
  rw [checkReference]
  cases cell.column.check with
  | none =>
    refine iff_of_false not_mem_clean ?_
    rintro ⟨_, same, _⟩
    cases same
  | some target =>
    simp only [Option.some.injEq, exists_eq_left']
    cases known : references.hasOrigin target.originName with
    | false => simp [CellOutcome.refuse]
    | true =>
      simp only [Bool.not_true, Bool.false_eq_true, if_false, Bool.true_eq_false, false_and,
        false_or, true_and]
      split
      next empty =>
        rw [List.isEmpty_iff.1 empty]
        refine iff_of_false (fun found => ?_) ?_
        · split at found
          · exact not_mem_resolve found
          · exact not_mem_clean found
        · rintro ⟨_, mem, _⟩
          exact absurd mem List.not_mem_nil
      next =>
        rw [mem_lookUp_iff]
        refine exists_congr fun element => and_congr_right fun _ => ?_
        rw [dereference?]
        cases isNoReference cell.column element <;> simp

end CheckedCell

namespace ReferenceIndex

/-- An index of one origin, whose values resolve to themselves. -/
def only (origin : String) (values : List String) : ReferenceIndex :=
  ⟨values.foldl (fun table value => table.record (origin, value) value) KeyTable.empty⟩

theorem resolve?_only (origin : String) (values : List String) (name raw : String) :
    (only origin values).resolve? name raw =
      if name = origin ∧ raw ∈ values then some raw else none := by
  let answer (value : String) : Option String :=
    if (name, raw) = (origin, value) then some value else none
  have first : ∀ (table : KeyTable (String × String) String) value,
      (table.record (origin, value) value).get? (name, raw) =
        (table.get? (name, raw)).or (answer value) := by
    intro table value
    rw [KeyTable.get?_record]
    dsimp only [answer]
    split
    next same => rw [same]
    next => rw [Option.or_none]
  rw [only, resolve?, foldl_first_reading (fun table : KeyTable _ _ => table.get? (name, raw))
    answer first, KeyTable.get?_empty, Option.none_or]
  split
  next both =>
    obtain ⟨rfl, mem⟩ := both
    rw [findSome?_only mem fun value _ apart => if_neg fun same => apart (Prod.mk.inj same).2.symm]
    exact if_pos rfl
  next apart =>
    rw [List.findSome?_eq_none_iff]
    intro value mem
    refine if_neg fun same => apart ?_
    obtain ⟨rfl, rfl⟩ := Prod.mk.inj same
    exact ⟨rfl, mem⟩

theorem hasOrigin_only {origin name : String} {values : List String} :
    (only origin values).hasOrigin name = true ↔ name = origin ∧ values ≠ [] := by
  rw [hasOrigin_iff]
  simp only [resolve?_only, Option.isSome_iff_ne_none, ne_eq, ite_eq_right_iff, reduceCtorEq,
    imp_false, not_not]
  rw [exists_and_left]
  refine and_congr_right fun _ => ⟨?_, List.exists_mem_of_ne_nil values⟩
  rintro ⟨value, mem⟩ rfl
  exact absurd mem List.not_mem_nil

end ReferenceIndex

namespace CheckedCell

/-- Where another cell checks the same value alike, it has every reference problem of the first. -/
theorem mem_checkReference_of_checksLike (cell other : CheckedCell)
    (alike : other.column.ChecksLike cell.column cell.value) (value : other.value = cell.value)
    (zero : isNoReference other.column = isNoReference cell.column)
    {references : ReferenceIndex} {substituted : Bool} {problem : Problem}
    (h : problem ∈ (cell.checkReference references substituted).problems) (substituted' : Bool) :
    problem ∈ (other.checkReference references substituted').problems := by
  obtain ⟨target, checked, found⟩ := mem_checkReference_iff.1 h
  obtain ⟨known, checked', same, elements⟩ := alike target checked
  refine mem_checkReference_iff.2 ⟨known, checked', ?_⟩
  rw [same, zero]
  refine found.imp_right ?_
  rintro ⟨origin, element, mem, counts, missing, rfl⟩
  refine ⟨origin, element, ?_, counts, missing, rfl⟩
  rw [CheckedCell.elements, value]
  exact elements element mem counts

/-- Some index gives the first cell a problem with a reference that the other one has not. -/
def FailsApart (cell other : CheckedCell) : Prop :=
  ∃ references problem, ∀ substituted substituted',
    problem ∈ (cell.checkReference references substituted).problems ∧
    ∀ problem' ∈ (other.checkReference references substituted').problems,
      problem'.code ≠ problem.code

section

variable {cell other : CheckedCell} {target : ReferenceTarget}

/-- A cell that checks nothing has no reference problem, so an index without the origin will do. -/
theorem failsApart_of_unchecked (checked : cell.column.check = some target)
    (unchecked : other.column.check = none) : cell.FailsApart other := by
  refine ⟨.empty, .noSuchOrigin target.originName, fun _ _ =>
    ⟨mem_checkReference_iff.2 ⟨target, checked, .inl ⟨rfl, rfl⟩⟩, fun problem' found => ?_⟩⟩
  obtain ⟨_, same, _⟩ := mem_checkReference_iff.1 found
  rw [unchecked] at same
  cases same

variable {known : ReferenceTarget} (checked : cell.column.check = some target)
  (checked' : other.column.check = some known)

include checked checked'

/-- Where the targets differ, the index has the origin of the other cell's target alone. -/
theorem failsApart_of_targets (apart : known.originName ≠ target.originName) :
    cell.FailsApart other := by
  have missing : (ReferenceIndex.only known.originName [""]).hasOrigin target.originName =
      false := by
    rw [Bool.eq_false_iff, ne_eq, ReferenceIndex.hasOrigin_only]
    exact fun both => apart both.1.symm
  have origin : (ReferenceIndex.only known.originName [""]).hasOrigin known.originName = true :=
    ReferenceIndex.hasOrigin_only.2 ⟨rfl, List.cons_ne_nil _ _⟩
  refine ⟨.only known.originName [""], .noSuchOrigin target.originName,
    fun _ _ => ⟨mem_checkReference_iff.2 ⟨target, checked, .inl ⟨missing, rfl⟩⟩,
      fun problem' found => ?_⟩⟩
  obtain ⟨_, same, found⟩ := mem_checkReference_iff.1 found
  obtain rfl := Option.some.inj (checked'.symm.trans same)
  rw [origin] at found
  obtain ⟨-, _, -, -, -, rfl⟩ := found.resolve_left fun h => by cases h.1
  exact Code.noConfusion

/-- Where an element is not among those of the other cell, the index lacks this element alone. -/
theorem failsApart_of_element (same : known.originName = target.originName)
    {element : String} (mem : element ∈ cell.elements)
    (counts : isNoReference cell.column element = false) (absent : element ∉ other.elements) :
    cell.FailsApart other := by
  have apart : element ≠ element ++ "." := by
    intro equal
    have length := congrArg String.length equal
    rw [String.length_append] at length
    exact absurd length (by simp)
  have origin : (ReferenceIndex.only target.originName
      ((element ++ ".") :: other.elements)).hasOrigin target.originName = true :=
    ReferenceIndex.hasOrigin_only.2 ⟨rfl, List.cons_ne_nil _ _⟩
  refine ⟨.only target.originName ((element ++ ".") :: other.elements),
    .referenceNotFound element, fun _ _ => ⟨mem_checkReference_iff.2 ⟨target, checked,
      .inr ⟨origin, element, mem, counts, ?_, rfl⟩⟩, fun problem' found => ?_⟩⟩
  · rw [ReferenceIndex.resolve?_only, if_neg]
    rintro ⟨-, mem⟩
    exact (List.mem_cons.1 mem).elim apart absent
  · obtain ⟨_, same', found⟩ := mem_checkReference_iff.1 found
    obtain rfl := Option.some.inj (checked'.symm.trans same')
    rw [same, origin] at found
    obtain ⟨-, element', mem', -, missing, -⟩ := found.resolve_left fun h => by cases h.1
    rw [ReferenceIndex.resolve?_only, if_pos ⟨rfl, List.mem_cons_of_mem _ mem'⟩] at missing
    cases missing

end

/-- Where it does not, some index gives the first cell a problem that the other one lacks. -/
theorem failsApart_of_not_checksLike (cell other : CheckedCell)
    (unlike : ¬ other.column.ChecksLike cell.column cell.value) (value : other.value = cell.value) :
    cell.FailsApart other := by
  simp only [Column.ChecksLike, not_forall, exists_prop] at unlike
  obtain ⟨target, checked, unlike⟩ := unlike
  cases checked' : other.column.check with
  | none => exact failsApart_of_unchecked checked checked'
  | some known =>
    by_cases same : known.originName = target.originName
    · obtain ⟨element, mem, counts, absent⟩ : ∃ element ∈ cell.elements,
          isNoReference cell.column element = false ∧ element ∉ other.elements := by
        by_contra none
        refine unlike ⟨known, checked', same, fun element mem counts => ?_⟩
        by_contra absent
        rw [← value] at absent
        exact none ⟨element, mem, counts, absent⟩
      exact failsApart_of_element checked checked' same mem counts absent
    · exact failsApart_of_targets checked checked' same

end CheckedCell

namespace IngestedSheet

/-- A clean sheet uses no title twice. -/
theorem ShareOf.titles_nodup {sheet : IngestedSheet} {group : String} (h : sheet.ShareOf group) :
    sheet.schema.titles.Nodup := by
  obtain ⟨given, origin, mergeGroups, ingested⟩ := h.ingested
  exact Header.nodup_titles_of_compile? (compile?_of_ofSheet? ingested)
    ((readFrom_ofSheet? ingested).2.header h.clean)

end IngestedSheet

namespace MergeOutcome

variable {group : String} {sheets : List IngestedSheet} {referenceOnly : Bool}
  {outcome : MergeOutcome}

/-- Every column of a sheet has a merged column of its title, which agrees with it when no problem
was found. -/
theorem exists_merged_column (h : ofSheets? group sheets referenceOnly = some outcome)
    (clean : outcome.diagnostics = []) {sheet : IngestedSheet} (known : sheet ∈ sheets)
    {column : Column} (mem : column ∈ sheet.schema.columns) :
    ∃ slot merged, outcome.table.schema.slotOf? column.title = some slot ∧
      outcome.table.schema.column? slot = some merged ∧ merged.title = column.title ∧
      merged.Agrees column := by
  obtain ⟨collects, found⟩ := unifies_ofSheets? h
  have harmonious := found.1 clean
  have given : column ∈ sheets.flatMap (·.schema.columns) :=
    List.mem_flatMap.2 ⟨sheet, known, mem⟩
  have place : outcome.table.schema.slotOf? column.title ≠ none := by
    intro new
    have unseen := (collects.find?_eq_none new).2
    have other := List.find?_eq_none.1 unseen column given
    exact other (beq_self_eq_true column.title)
  obtain ⟨slot, place⟩ := Option.ne_none_iff_exists'.1 place
  obtain ⟨merged, first, here, seen, same⟩ := collects.first place
  have title : first.title = column.title := by simpa using List.find?_some seen
  have agrees : first.Agrees column :=
    harmonious first (List.mem_of_find?_eq_some seen) column given title
  exact ⟨slot, merged, place, here, (Column.title_of_core same).trans title,
    (Column.agrees_of_core same).trans agrees⟩

/-- Every cell of a sheet has a merged cell: one of the merged column of its title, with its value
and its place. -/
theorem exists_merged_cell (h : ofSheets? group sheets referenceOnly = some outcome)
    {source : Nat} {sheet : IngestedSheet} (known : sheets[source]? = some sheet)
    (nodup : sheet.schema.titles.Nodup) {row : TableRow} (stored : row ∈ sheet.rows)
    {column : Column} {slot : Nat} (here : sheet.schema.column? slot = some column)
    {merged : Column} {slot' : Nat} (there : outcome.table.schema.column? slot' = some merged)
    (title : merged.title = column.title) :
    ∃ row' position', (row', position') ∈ outcome.table.rows.zipIdx ∧
      row'.value slot' = row.value slot ∧
      outcome.table.provenanceAt? position' slot' = some (sheet.schema.origin,
        ⟨source, row.row, some column.gridColumn, row.value slot⟩) := by
  obtain ⟨given, composed⟩ := exists_composed h
  obtain ⟨one, mem, rfl, rfl, rfl⟩ := composed.all source sheet known row stored
  obtain ⟨position, place⟩ := List.mem_iff_getElem?.1 mem
  have merges := (unifies_ofSheets? h).1.titles
  have own : one.slotFor? slot' = some slot := by
    rw [Merge.SourceRow.slotFor?_eq (composed.isFrom one mem) merges there, title]
    exact (Schema.slotOf?_eq_some_iff nodup here).2 rfl
  have cell := Merge.SourceRow.cell_of_slotFor? merged own here
  refine ⟨one.merged outcome.table.schema position, position,
    composed.mem_rows_iff.2 ⟨one, place, rfl⟩, ?_, ?_⟩
  · rw [Merge.SourceRow.value_merged there, cell]
  · rw [composed.provenanceAt?_eq place there, cell]

/-- The problems of a merged cell point to the cell of the sheet that it came from. -/
theorem mem_cellDiagnostics_merged_iff {table : MergeTable} {ctx : ValidationContext}
    {column given : Column} {row row' : TableRow} {slot position source : Nat}
    {origin : SheetOrigin} {value : String} {d : Diagnostic}
    (place : table.provenanceAt? position slot =
      some (origin, ⟨source, row.row, some given.gridColumn, value⟩)) :
    d ∈ (ValidationTarget.merged table).cellDiagnostics ctx column slot row' position ↔
      ∃ problem ∈ ((ValidationTarget.merged table).outcome ctx column slot row' position).problems,
        d = Diagnostic.of problem origin column.title row.row given.gridColumn := by
  rw [ValidationTarget.cellDiagnostics, ValidationTarget.locate]
  simp only [place, Option.getD_some, List.mem_map, eq_comm]

/-- Of a cell of a sheet, merging hides no reference problem in any context exactly when the merged
column checks the value against everything that the sheet's column does. -/
theorem reference_problems_kept (shares : ∀ sheet ∈ sheets, sheet.ShareOf group)
    (h : ofSheets? group sheets referenceOnly = some outcome) (clean : outcome.diagnostics = [])
    {source : Nat} {sheet : IngestedSheet} (known : sheets[source]? = some sheet)
    {row : TableRow} {position : Nat} (stored : (row, position) ∈ sheet.rows.zipIdx)
    {column : Column} {slot : Nat} (mem : (column, slot) ∈ sheet.schema.slots) :
    ∃ merged slot' row' position',
      outcome.table.schema.slotOf? column.title = some slot' ∧
      outcome.table.schema.column? slot' = some merged ∧
      outcome.table.provenanceAt? position' slot' = some (sheet.schema.origin,
        ⟨source, row.row, some column.gridColumn, row.value slot⟩) ∧
      (merged.ChecksLike column (row.value slot) → ∀ ctx,
        ∀ d ∈ (ValidationTarget.sheet sheet.schema sheet.rows).cellDiagnostics ctx column slot row
          position, d.code.concern? = some .reference →
          ∃ d' ∈ (TableValidation.ofTarget (.merged outcome.table) ctx).diagnostics,
            d'.code = d.code ∧ d'.place = d.place) ∧
      (¬ merged.ChecksLike column (row.value slot) → ∃ ctx,
        ∃ d ∈ (ValidationTarget.sheet sheet.schema sheet.rows).cellDiagnostics ctx column slot row
          position, d.code.concern? = some .reference ∧
          ∀ d' ∈ (ValidationTarget.merged outcome.table).cellDiagnostics ctx merged slot' row'
            position', d'.code ≠ d.code) := by
  have inside : sheet ∈ sheets := List.mem_of_getElem? known
  have here : sheet.schema.column? slot = some column := Header.column?_of_mem_slots mem
  obtain ⟨slot', merged, placed, there, title, agrees⟩ :=
    exists_merged_column h clean inside (List.mem_of_getElem? here)
  obtain ⟨row', position', stored', value, provenance⟩ := exists_merged_cell h known
    (shares sheet inside).titles_nodup
    (List.mem_of_getElem? (List.mk_mem_zipIdx_iff_getElem?.1 stored)) here there title
  have zero : CheckedCell.isNoReference merged = CheckedCell.isNoReference column := by
    funext element
    rw [CheckedCell.isNoReference, CheckedCell.isNoReference, agrees.dataType]
  let alone := ValidationTarget.sheet sheet.schema sheet.rows
  let own := alone.cell column slot row position
  let other := (ValidationTarget.merged outcome.table).cell merged slot' row' position'
  have same : other.value = own.value := value
  refine ⟨merged, slot', row', position', placed, there, provenance,
    fun alike ctx d found concern => ?_, fun unlike => ?_⟩
  · obtain ⟨problem, checked, rfl⟩ := List.mem_map.1 found
    have kept := CheckedCell.mem_checkReference_of_checksLike own other alike same zero
      ((CheckedCell.mem_check_iff_of_concern concern).1 checked)
      ((TableValidation.changedSlots outcome.table.schema ctx).contains slot')
    refine ⟨_, TableValidation.mem_diagnostics_ofTarget_iff.2 ⟨row', position', stored', merged,
      slot', List.mk_mem_zipIdx_iff_getElem?.2 there, (mem_cellDiagnostics_merged_iff provenance).2
        ⟨problem, (CheckedCell.mem_check_iff_of_concern concern).2 kept, rfl⟩⟩, rfl, rfl⟩
  · obtain ⟨references, problem, hidden⟩ :=
      CheckedCell.failsApart_of_not_checksLike own other unlike same
    let ctx : ValidationContext := { Library.blankContext with references := references }
    obtain ⟨found, absent⟩ := hidden
      ((TableValidation.changedSlots sheet.schema ctx).contains slot)
      ((TableValidation.changedSlots outcome.table.schema ctx).contains slot')
    have concern := CheckedCell.concern_of_checkReference found
    refine ⟨ctx, _, List.mem_map_of_mem
      ((CheckedCell.mem_check_iff_of_concern concern).2 found), concern, fun d' found' code => ?_⟩
    obtain ⟨problem', checked, rfl⟩ := (mem_cellDiagnostics_merged_iff provenance).1 found'
    have concern' : problem'.code.concern? = some .reference := (congrArg _ code).trans concern
    exact absent problem' ((CheckedCell.mem_check_iff_of_concern concern').1 checked) code

open Library

/-- Two sheets whose columns refer to the same table. -/
def checkedAlike : List IngestedSheet :=
  let columns := [("id", "key,int"), ("goods[]", "int,check<item/id>")]
  sharesOf [shareSheet "a" columns [["1", "7,0"]], shareSheet "b" columns [["2", "9"]]]

set_option maxRecDepth 100000 in
/-- Every reference problem of the two sheets is one of their merge table, in any context. -/
theorem reference_problems_kept_checkedAlike :
    ∃ outcome, ofSheets? "g" checkedAlike false = some outcome ∧
      (∀ sheet ∈ checkedAlike, (TableValidation.ofTarget (.sheet sheet.schema sheet.rows)
        blankContext).Reports .reference) ∧
      ∀ ctx, ∀ sheet ∈ checkedAlike,
        ∀ d ∈ (TableValidation.ofTarget (.sheet sheet.schema sheet.rows) ctx).diagnostics,
          d.code.concern? = some .reference →
            ∃ d' ∈ (TableValidation.ofTarget (.merged outcome.table) ctx).diagnostics,
              d'.code = d.code ∧ d'.place = d.place := by
  have run : (ofSheets? "g" checkedAlike false).map (fun outcome =>
      (outcome.diagnostics, decide (∀ merged ∈ outcome.table.schema.columns,
        ∀ sheet ∈ checkedAlike, ∀ column ∈ sheet.schema.columns, merged.title = column.title →
          merged.check = column.check ∧ merged.isArray = column.isArray))) = some ([], true) := by
    decide +kernel
  obtain ⟨outcome, merges, same⟩ := Option.map_eq_some_iff.1 run
  obtain ⟨clean, alike⟩ := Prod.mk.inj same
  refine ⟨outcome, merges, by decide +kernel, fun ctx sheet inside d reported concern => ?_⟩
  obtain ⟨source, known⟩ := List.mem_iff_getElem?.1 inside
  obtain ⟨row, position, stored, column, slot, mem, found⟩ :=
    TableValidation.mem_diagnostics_ofTarget_iff.1 reported
  obtain ⟨merged, slot', _, _, placed, there, _, kept, -⟩ :=
    reference_problems_kept (shareOf_of_mem_sharesOf (by decide +kernel)) merges clean known stored
      mem
  have here := List.mem_of_getElem? (Header.column?_of_mem_slots mem)
  have title : merged.title = column.title :=
    ((Schema.slotOf?_eq_some_iff (unifies_ofSheets? merges).1.titles there).1 placed).symm
  obtain ⟨check, isArray⟩ :=
    of_decide_eq_true alike merged (List.mem_of_getElem? there) sheet inside column here title
  exact kept (Column.checksLike_of_eq check isArray _) ctx d found concern

/-- Two sheets of which only the second refers to another table. -/
def checkedLater : List IngestedSheet :=
  sharesOf [
    shareSheet "a" [("id", "key,int"), ("x", "int")] [["1", "7"]],
    shareSheet "b" [("id", "key,int"), ("x", "int,check<item/id>")] [["2", "9"]]]

set_option maxRecDepth 100000 in
/-- A value that is not found in the second sheet alone is no problem of the merge table. -/
theorem not_reference_problems_kept_checkedLater :
    ¬ ∀ (group : String) (sheets : List IngestedSheet) (referenceOnly : Bool)
        (outcome : MergeOutcome) (ctx : ValidationContext),
      (∀ sheet ∈ sheets, sheet.ShareOf group) →
        ofSheets? group sheets referenceOnly = some outcome → outcome.diagnostics = [] →
          ∀ sheet ∈ sheets,
            ∀ d ∈ (TableValidation.ofTarget (.sheet sheet.schema sheet.rows) ctx).diagnostics,
              d.code = .referenceValueNotFound ∨ d.code = .referenceOriginMissing →
                ∃ d' ∈ (TableValidation.ofTarget (.merged outcome.table) ctx).diagnostics,
                  d'.code = d.code ∧ d'.place = d.place := by
  intro all
  let ctx : ValidationContext := { blankContext with references := .only "item/id" ["7"] }
  have run : (ofSheets? "g" checkedLater false).map (fun outcome =>
      (outcome.diagnostics, (TableValidation.ofTarget (.merged outcome.table) ctx).diagnostics)) =
        some ([], []) := by
    decide +kernel
  obtain ⟨outcome, merges, same⟩ := Option.map_eq_some_iff.1 run
  obtain ⟨clean, silent⟩ := Prod.mk.inj same
  have reported : ∃ sheet ∈ checkedLater,
      ∃ d ∈ (TableValidation.ofTarget (.sheet sheet.schema sheet.rows) ctx).diagnostics,
        d.code = .referenceValueNotFound := by
    decide +kernel
  obtain ⟨sheet, inside, d, found, code⟩ := reported
  obtain ⟨d', mem, -⟩ := all "g" checkedLater false outcome ctx
    (shareOf_of_mem_sharesOf (by decide +kernel)) merges clean sheet inside d found (.inl code)
  rw [silent] at mem
  exact absurd mem List.not_mem_nil

end MergeOutcome

end DesignTables
