import DesignTables.Proofs.Catalog.Library
import DesignTables.Proofs.Compile.Merging
import DesignTables.Proofs.Merge.Placement
import DesignTables.Proofs.Validation.Concerns

/-!
# The element counts of a merge table

A merged column is compared with the column that the first sheet to say so compares it with, and
every row of the table is compared, also a row whose sheet has no such comparison. So what merging
may report of element counts comes from the sheets that do not compare the two columns themselves.
-/
namespace DesignTables

namespace IngestedSheet

/-- The element count that a sheet recorded in a row, in the first column of a title. -/
def countOf? (sheet : IngestedSheet) (title : String) (row : TableRow) : Option Nat :=
  (sheet.schema.slotOf? title).bind fun slot => sheet.sizes.get? sheet.name slot row.row

/-- The sheet itself compares the element counts of one column with those of another. -/
def Compares (sheet : IngestedSheet) (title other : String) : Prop :=
  ∃ slot column source, sheet.schema.slotOf? title = some slot ∧
    sheet.schema.column? slot = some column ∧ column.arraySizeRef = some source ∧
    sheet.schema.slotOf? other = some source

/-- The validation of a sheet alone, against its own element counts. -/
def validateAlone (sheet : IngestedSheet) (ctx : ValidationContext) : TableValidation :=
  TableValidation.ofTarget (.sheet sheet.schema sheet.rows) { ctx with sizes := sheet.sizes }

/-- Where a sheet compares two columns without a problem, both counts are recorded and the same. -/
theorem counts_of_compares {sheet : IngestedSheet} {ctx : ValidationContext}
    (fits : ¬ (sheet.validateAlone ctx).Reports .size) {title other : String}
    (compares : sheet.Compares title other) {row : TableRow} (stored : row ∈ sheet.rows) :
    ∃ count, sheet.countOf? title row = some count ∧ sheet.countOf? other row = some count := by
  obtain ⟨slot, column, source, own, place, link, linked⟩ := compares
  obtain ⟨position, here⟩ := List.mem_iff_getElem?.1 stored
  rw [countOf?, countOf?, own, linked]
  exact TableValidation.not_reports_size_iff.1 fits row position
    (List.mk_mem_zipIdx_iff_getElem?.2 here) column slot (List.mk_mem_zipIdx_iff_getElem?.2 place)
    source link

end IngestedSheet

namespace MergeOutcome

variable {group : String} {sheets : List IngestedSheet} {referenceOnly : Bool}
  {outcome : MergeOutcome}

/-- The validation of the merge table against the element counts of its sheets. -/
def validateMerged (outcome : MergeOutcome) (ctx : ValidationContext) : TableValidation :=
  TableValidation.ofTarget (.merged outcome.table) { ctx with sizes := outcome.sizes }

theorem titles_nodup (h : ofSheets? group sheets referenceOnly = some outcome) :
    outcome.table.schema.titles.Nodup :=
  (unifies_ofSheets? h).1.titles

/-- A merged cell has the element count that its sheet recorded under the title of its column. -/
theorem size_eq_countOf? (h : ofSheets? group sheets referenceOnly = some outcome)
    {given : List Merge.SourceRow} (composed : outcome.Composed group sheets given)
    {position slot : Nat} {one : Merge.SourceRow} {column : Column}
    (here : given[position]? = some one)
    (place : outcome.table.schema.column? slot = some column) :
    outcome.sizes.get? group slot (position + 1) = one.sheet.countOf? column.title one.row := by
  have isFrom := composed.isFrom one (List.mem_of_getElem? here)
  rw [composed.size_eq here (Schema.lt_of_column? place), Merge.SourceRow.size?,
    Merge.SourceRow.slotFor?_eq isFrom (titles_nodup h) place]
  rfl

/-- Merging reports no element count exactly when, wherever a column of the table is compared with
another one, each sheet that does not compare them itself has the same count in both. -/
theorem fits_iff_counts (h : ofSheets? group sheets referenceOnly = some outcome)
    (ctx : ValidationContext)
    (alone : ∀ sheet ∈ sheets, ¬ (sheet.validateAlone ctx).Reports .size) :
    ¬ (outcome.validateMerged ctx).Reports .size ↔
      ∀ column ∈ outcome.table.schema.columns, ∀ link, column.arraySizeRef = some link →
        ∀ sheet ∈ sheets,
          ¬ sheet.Compares column.title (outcome.table.schema.titleAt link) →
            ∀ row ∈ sheet.rows, ∃ count, sheet.countOf? column.title row = some count ∧
              sheet.countOf? (outcome.table.schema.titleAt link) row = some count := by
  obtain ⟨given, composed⟩ := exists_composed h
  have name : outcome.table.schema.name = group := (ofSheets?_eq_some h).2.name
  -- The counts of a merged row are those of the row that it comes from.
  have counts : ∀ position one, given[position]? = some one →
      ∀ column slot, outcome.table.schema.column? slot = some column →
        ∀ link, column.arraySizeRef = some link →
          outcome.sizes.get? outcome.table.schema.name slot (position + 1) =
              one.sheet.countOf? column.title one.row ∧
            outcome.sizes.get? outcome.table.schema.name link (position + 1) =
              one.sheet.countOf? (outcome.table.schema.titleAt link) one.row := by
    intro position one here column slot place link found
    have inside :=
      (composed.links.columns column (List.mem_of_getElem? place)).arraySizeRef link found
    have linked : outcome.table.schema.column? link =
        some outcome.table.schema.columns[link] := List.getElem?_eq_getElem _
    rw [name, Schema.titleAt_eq linked]
    exact ⟨size_eq_countOf? h composed here place, size_eq_countOf? h composed here linked⟩
  rw [validateMerged, TableValidation.not_reports_size_iff]
  constructor
  · intro fits column mem link found sheet known _ row stored
    obtain ⟨source, known⟩ := List.mem_iff_getElem?.1 known
    obtain ⟨one, mem', -, rfl, rfl⟩ := composed.all source sheet known row stored
    obtain ⟨position, here⟩ := List.mem_iff_getElem?.1 mem'
    obtain ⟨slot, place⟩ := List.mem_iff_getElem?.1 mem
    obtain ⟨own, other⟩ := counts position one here column slot place link found
    have both := fits (one.merged outcome.table.schema position) position
      (composed.mem_rows_iff.2 ⟨one, here, rfl⟩) column slot
      (List.mk_mem_zipIdx_iff_getElem?.2 place) link found
    rw [← own, ← other]
    exact both
  · intro fits row position mem column slot place link found
    obtain ⟨one, here, rfl⟩ := composed.mem_rows_iff.1 mem
    have isFrom := composed.isFrom one (List.mem_of_getElem? here)
    have known : one.sheet ∈ sheets := List.mem_of_getElem? isFrom.sheet
    have place := Header.column?_of_mem_slots place
    obtain ⟨own, other⟩ := counts position one here column slot place link found
    have both : ∃ count, one.sheet.countOf? column.title one.row = some count ∧
        one.sheet.countOf? (outcome.table.schema.titleAt link) one.row = some count := by
      by_cases compares : one.sheet.Compares column.title (outcome.table.schema.titleAt link)
      · exact IngestedSheet.counts_of_compares (alone one.sheet known) compares isFrom.row
      · exact fits column (List.mem_of_getElem? place) link found one.sheet known compares one.row
          isFrom.row
    rw [← own, ← other] at both
    exact both

open Library

/-- Two sheets that compare the same columns, the second one the other way round. -/
def compared : List IngestedSheet :=
  sharesOf [
    shareSheet "a" [("id", "key,int"), ("n[]", "int"), ("x[]", "int,arraysizeref<n>")]
      [["1", "7,8", "1,2"]],
    shareSheet "b" [("id", "key,int"), ("n[]", "int,arraysizeref<x>"), ("x[]", "int")]
      [["2", "3", "5"]]]

set_option maxRecDepth 100000 in
/-- Each sheet has the counts that the other one asks for. -/
theorem fits_compared : ∃ outcome, ofSheets? "g" compared false = some outcome ∧
    outcome.table.schema.columns.map (·.arraySizeRef) = [none, some 2, some 1] ∧
    (∀ sheet ∈ compared, ¬ (sheet.validateAlone blankContext).Reports .size) ∧
    ¬ (outcome.validateMerged blankContext).Reports .size := by
  have alone : ∀ sheet ∈ compared, ¬ (sheet.validateAlone blankContext).Reports .size := by
    decide +kernel
  have run : (ofSheets? "g" compared false).map (fun outcome =>
      (outcome.table.schema.columns.map (·.arraySizeRef),
        decide (∀ column ∈ outcome.table.schema.columns, ∀ link ∈ column.arraySizeRef,
          ∀ sheet ∈ compared, ∀ row ∈ sheet.rows,
            sheet.countOf? (outcome.table.schema.titleAt link) row ≠ none ∧
              sheet.countOf? column.title row =
                sheet.countOf? (outcome.table.schema.titleAt link) row))) =
      some ([none, some 2, some 1], true) := by
    decide +kernel
  obtain ⟨outcome, merged, same⟩ := Option.map_eq_some_iff.1 run
  obtain ⟨links, counts⟩ := Prod.mk.inj same
  refine ⟨outcome, merged, links, alone, (fits_iff_counts merged blankContext alone).2 ?_⟩
  intro column mem link found sheet known _ row stored
  obtain ⟨recorded, equal⟩ := of_decide_eq_true counts column mem link found sheet known row stored
  obtain ⟨count, counted⟩ := Option.ne_none_iff_exists'.1 recorded
  exact ⟨count, equal.trans counted, counted⟩

/-- A sheet that compares two columns, and one that has neither of them. -/
def onceCompared : List IngestedSheet :=
  sharesOf [
    shareSheet "a" [("id", "key,int"), ("n[]", "int"), ("x[]", "int,arraysizeref<n>")]
      [["1", "7", "8"]],
    shareSheet "b" [("id", "key,int")] [["2"]]]

set_option maxRecDepth 100000 in
/-- Clean sheets that fit alone and merge without a problem need not fit together. -/
theorem not_fits_onceCompared :
    ¬ ∀ (group : String) (sheets : List IngestedSheet) (referenceOnly : Bool)
        (outcome : MergeOutcome) (ctx : ValidationContext),
      (∀ sheet ∈ sheets, sheet.ShareOf group) →
        ofSheets? group sheets referenceOnly = some outcome → outcome.diagnostics = [] →
          (∀ sheet ∈ sheets, ¬ (sheet.validateAlone ctx).Reports .size) →
            ¬ (outcome.validateMerged ctx).Reports .size := by
  intro all
  have run : (ofSheets? "g" onceCompared false).map (fun outcome =>
      (outcome.diagnostics, decide ((outcome.validateMerged blankContext).Reports .size))) =
      some ([], true) := by
    decide +kernel
  obtain ⟨outcome, merged, same⟩ := Option.map_eq_some_iff.1 run
  obtain ⟨none, reports⟩ := Prod.mk.inj same
  exact all "g" onceCompared false outcome blankContext
    (shareOf_of_mem_sharesOf (by decide +kernel)) merged none (by decide +kernel)
    (of_decide_eq_true reports)

end MergeOutcome

end DesignTables
