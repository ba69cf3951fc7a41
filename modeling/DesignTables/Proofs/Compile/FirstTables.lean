import DesignTables.Proofs.Catalog.Library
import DesignTables.Proofs.Compile.Absorption
import DesignTables.Proofs.Index.Unions
import Mathlib.Data.List.Induction
import Mathlib.Data.List.Nodup

/-!
# What any row of sheets leaves in the state of a run

Of the sheets of one name the first is kept and all else of the others is lost but one problem for
each. So the state is what the kept sheets come to in their order, whatever stood between them.
-/
namespace DesignTables

/-- A sheet that comes to the state of a run. -/
structure Arrival where
  sheet : IngestedSheet
  /-- The sheet serves look-ups only. -/
  referenceOnly : Bool

namespace Arrival

/-- The name of the table. -/
def name (arrival : Arrival) : String := arrival.sheet.name

/-- Whether the sheet is a share of a merge group. -/
def isMerge (arrival : Arrival) : Bool := arrival.sheet.isMerge

/-- The table as it is kept. -/
def asTable (arrival : Arrival) : LoadedTable := arrival.sheet.asTable arrival.referenceOnly

/-- The sheet as it waits for the rest of its merge group. -/
def asPending (arrival : Arrival) : MergeSheet := arrival.sheet.asPending arrival.referenceOnly

/-- Whether the rows of the sheet belong into the registry of a kind. -/
def registersAs (kind : Kind) (arrival : Arrival) : Bool :=
  arrival.sheet.schema.isClean && arrival.sheet.schema.kind == kind

/-- The arrivals that are the first of their names. -/
def firsts : List Arrival → List Arrival
  | [] => []
  | arrival :: later => arrival :: (firsts later).filter fun other => other.name ≠ arrival.name

theorem firsts_append_singleton (arrivals : List Arrival) (last : Arrival) :
    firsts (arrivals ++ [last]) =
      firsts arrivals ++ if last.name ∈ arrivals.map (·.name) then [] else [last] := by
  induction arrivals with
  | nil => rfl
  | cons arrival later ih =>
    rw [List.cons_append, firsts, ih, List.filter_append, firsts, List.cons_append, List.map_cons]
    congr 2
    by_cases same : last.name = arrival.name
    · rw [if_pos (same ▸ List.mem_cons_self : last.name ∈ arrival.name :: _)]
      split
      · rfl
      · exact List.filter_eq_nil_iff.2 (by simp [same])
    · simp only [List.mem_cons, same, false_or]
      split
      · rfl
      · exact List.filter_eq_self.2 (by simp [same])

/-- The first of its name is what a search for the name finds. -/
theorem mem_firsts_iff {arrivals : List Arrival} {arrival : Arrival} :
    arrival ∈ firsts arrivals ↔ arrivals.find? (·.name == arrival.name) = some arrival := by
  induction arrivals with
  | nil => simp [firsts]
  | cons first later ih =>
    rw [firsts, List.mem_cons, List.mem_filter, ih, List.find?_cons]
    by_cases same : first.name = arrival.name
    · have here : (first.name == arrival.name) = true := beq_iff_eq.2 same
      rw [here, Option.some.injEq, eq_comm (a := first)]
      refine or_iff_left ?_
      rintro ⟨-, other⟩
      exact absurd same.symm (by simpa using other)
    · have there : (first.name == arrival.name) = false := by simpa using same
      rw [there]
      constructor
      · rintro (rfl | ⟨found, -⟩)
        · exact absurd rfl same
        · exact found
      · exact fun found => .inr ⟨found, by simpa using Ne.symm same⟩

theorem sublist_firsts (arrivals : List Arrival) : (firsts arrivals).Sublist arrivals := by
  induction arrivals with
  | nil => exact .slnil
  | cons arrival later ih => exact (List.filter_sublist.trans ih).cons_cons arrival

theorem nodup_names_firsts (arrivals : List Arrival) : ((firsts arrivals).map (·.name)).Nodup := by
  induction arrivals with
  | nil => exact List.nodup_nil
  | cons arrival later ih =>
    rw [firsts, List.map_cons, List.nodup_cons]
    refine ⟨?_, ih.sublist (List.filter_sublist.map _)⟩
    intro mem
    obtain ⟨other, known, same⟩ := List.mem_map.1 mem
    exact absurd same (by simpa using (List.mem_filter.1 known).2)

theorem mem_names_firsts {arrivals : List Arrival} {name : String} :
    name ∈ (firsts arrivals).map (·.name) ↔ name ∈ arrivals.map (·.name) := by
  constructor
  · exact fun mem => ((sublist_firsts arrivals).map _).subset mem
  · intro mem
    obtain ⟨arrival, known, rfl⟩ := List.mem_map.1 mem
    have some : (arrivals.find? (·.name == arrival.name)).isSome :=
      List.find?_isSome.2 ⟨arrival, known, beq_iff_eq.2 rfl⟩
    obtain ⟨first, found⟩ := Option.isSome_iff_exists.1 some
    have same : first.name = arrival.name := by simpa using List.find?_some found
    exact List.mem_map.2 ⟨first, mem_firsts_iff.2 (same ▸ found), same⟩

end Arrival

namespace CompileState

open Arrival

/-- The state after some arrivals. -/
def ofArrivals (arrivals : List Arrival) : CompileState :=
  arrivals.foldl (fun state arrival => state.absorb arrival.sheet arrival.referenceOnly) empty

/-- The state that holds some arrivals, all of which are kept. -/
def holding (kept : List Arrival) : CompileState :=
  kept.foldl (fun state arrival => state.gather arrival.sheet arrival.referenceOnly) empty

theorem ofArrivals_append_singleton (arrivals : List Arrival) (last : Arrival) :
    ofArrivals (arrivals ++ [last]) =
      (ofArrivals arrivals).absorb last.sheet last.referenceOnly := by
  rw [ofArrivals, List.foldl_append]
  rfl

theorem holding_append_singleton (kept : List Arrival) (last : Arrival) :
    holding (kept ++ [last]) = (holding kept).gather last.sheet last.referenceOnly := by
  rw [holding, List.foldl_append]
  rfl

theorem names_holding (kept : List Arrival) : (holding kept).names = kept.map (·.name) := by
  induction kept using List.reverseRecOn with
  | nil => rfl
  | append_singleton kept last ih =>
    rw [holding_append_singleton, List.map_append, ← ih]
    rfl

/-- Whatever arrives, the state holds the first arrivals of all names, with the problems met. -/
theorem exists_ofArrivals_eq (arrivals : List Arrival) :
    ∃ found, ofArrivals arrivals = (holding (firsts arrivals)).report found := by
  induction arrivals using List.reverseRecOn with
  | nil => exact ⟨[], rfl⟩
  | append_singleton arrivals last ih =>
    obtain ⟨found, same⟩ := ih
    have names : (ofArrivals arrivals).names = (firsts arrivals).map (·.name) := by
      rw [same]
      exact names_holding _
    rw [ofArrivals_append_singleton, firsts_append_singleton]
    by_cases known : last.name ∈ arrivals.map (·.name)
    · rw [if_pos known, List.append_nil]
      rw [absorb_of_known _ (names ▸ mem_names_firsts.2 known), same]
      exact ⟨_, congrArg (fun found => { holding (firsts arrivals) with diagnostics := found })
        (List.append_assoc ..)⟩
    · rw [if_neg known, holding_append_singleton]
      rw [absorb_of_new _ (names ▸ fun mem => known (mem_names_firsts.1 mem)), same]
      exact ⟨_, congrArg (fun found => { (holding (firsts arrivals)).gather last.sheet
        last.referenceOnly with diagnostics := found }) (List.append_assoc ..)⟩

section

variable (kept : List Arrival)

/-- What is read of a state that holds arrivals, when a sheet changes the reading or leaves it. -/
theorem read_holding {γ : Type} (read : CompileState → γ) (counts : Arrival → Bool)
    (step : γ → Arrival → γ)
    (gathered : ∀ state arrival, read (state.gather arrival.sheet arrival.referenceOnly) =
      if counts arrival then step (read state) arrival else read state) :
    read (holding kept) = (kept.filter counts).foldl step (read empty) := by
  induction kept using List.reverseRecOn with
  | nil => rfl
  | append_singleton kept last ih =>
    rw [holding_append_singleton, gathered, ih, List.filter_append, List.foldl_append,
      List.filter_singleton]
    cases counts last <;> rfl

theorem tables_holding :
    (holding kept).tables = (kept.filter (!·.isMerge)).map (·.asTable) := by
  have read := read_holding kept (·.tables) (!·.isMerge)
    (fun tables arrival => tables ++ [arrival.asTable]) fun state arrival => by
      cases merge : arrival.sheet.isMerge <;> simp [gather, isMerge, asTable, merge]
  rw [read, List.foldl_append_eq_append, ← List.flatMap_def, ← List.map_eq_flatMap]
  rfl

theorem mergeSheets_holding :
    (holding kept).mergeSheets = (kept.filter (·.isMerge)).map (·.asPending) := by
  have read := read_holding kept (·.mergeSheets) (·.isMerge)
    (fun pending arrival => pending ++ [arrival.asPending]) fun state arrival => by
      cases merge : arrival.sheet.isMerge <;> simp [gather, isMerge, asPending, merge]
  rw [read, List.foldl_append_eq_append, ← List.flatMap_def, ← List.map_eq_flatMap]
  rfl

theorem references_holding : (holding kept).references =
    (kept.filter (!·.isMerge)).foldl (fun index arrival => index.absorb arrival.sheet.origins)
      ReferenceIndex.empty :=
  read_holding kept (·.references) (!·.isMerge) _ fun state arrival => by
    cases merge : arrival.sheet.isMerge <;>
      simp [gather, IngestedSheet.indexedOrigins, isMerge, merge, ReferenceIndex.absorb_empty]

theorem sizes_holding : (holding kept).sizes =
    (kept.filter (!·.isMerge)).foldl (fun index arrival => index.absorb arrival.sheet.sizes)
      SizeIndex.empty :=
  read_holding kept (·.sizes) (!·.isMerge) _ fun state arrival => by
    cases merge : arrival.sheet.isMerge <;>
      simp [gather, IngestedSheet.indexedSizes, isMerge, merge, SizeIndex.absorb_empty]

theorem enums_holding : (holding kept).enums =
    (kept.filter (·.registersAs .enumeration)).foldl (fun registry arrival =>
      (registry.registerSheet arrival.sheet.schema arrival.sheet.rows).1) EnumRegistry.empty :=
  read_holding kept (·.enums) (·.registersAs .enumeration) _ fun _ _ =>
    apply_ite Prod.fst ..

theorem localization_holding : (holding kept).localization =
    (kept.filter (·.registersAs .localization)).foldl (fun registry arrival =>
      (registry.registerSheet arrival.sheet.schema arrival.sheet.rows).1)
      LocalizationRegistry.empty :=
  read_holding kept (·.localization) (·.registersAs .localization) _ fun _ _ =>
    apply_ite Prod.fst ..

end

/-- The names of the loaded tables and of the waiting sheets of merge groups. -/
def heldNames (state : CompileState) : List String :=
  state.tables.map (·.schema.name) ++ state.mergeSheets.map (·.sheet.name)

theorem heldNames_holding_perm (kept : List Arrival) :
    (holding kept).heldNames.Perm (kept.map (·.name)) := by
  have parts : (holding kept).heldNames =
      ((kept.filter (!·.isMerge)) ++ kept.filter (·.isMerge)).map (·.name) := by
    rw [heldNames, tables_holding, mergeSheets_holding, List.map_append, List.map_map, List.map_map]
    rfl
  rw [parts]
  exact (List.perm_append_comm.trans (List.filter_append_perm _ _)).map _

/-- What a state holds of the arrivals that were kept, and that it holds nothing else. -/
structure HoldsAll (kept : List Arrival) (state : CompileState) : Prop where
  tables : state.tables = (kept.filter (!·.isMerge)).map (·.asTable)
  mergeSheets : state.mergeSheets = (kept.filter (·.isMerge)).map (·.asPending)
  distinct : state.heldNames.Nodup
  hasTable : ∀ name, state.hasTable name = true ↔ name ∈ state.heldNames
  references : state.references =
    (kept.filter (!·.isMerge)).foldl (fun index arrival => index.absorb arrival.sheet.origins)
      ReferenceIndex.empty
  /-- Of the values recorded for an origin the first one stands. -/
  resolves : ∀ origin raw, state.references.resolve? origin raw =
    (kept.filter (!·.isMerge)).findSome? (·.sheet.origins.resolve? origin raw)
  sizes : state.sizes =
    (kept.filter (!·.isMerge)).foldl (fun index arrival => index.absorb arrival.sheet.sizes)
      SizeIndex.empty
  /-- Of the element counts recorded for a cell the first one stands. -/
  counts : ∀ table slot row, state.sizes.get? table slot row =
    (kept.filter (!·.isMerge)).findSome? (·.sheet.sizes.get? table slot row)
  enums : state.enums =
    (kept.filter (·.registersAs .enumeration)).foldl (fun registry arrival =>
      (registry.registerSheet arrival.sheet.schema arrival.sheet.rows).1) EnumRegistry.empty
  localization : state.localization =
    (kept.filter (·.registersAs .localization)).foldl (fun registry arrival =>
      (registry.registerSheet arrival.sheet.schema arrival.sheet.rows).1) LocalizationRegistry.empty

theorem holdsAll_ofArrivals (arrivals : List Arrival) :
    (ofArrivals arrivals).HoldsAll (firsts arrivals) := by
  obtain ⟨found, same⟩ := exists_ofArrivals_eq arrivals
  have names := heldNames_holding_perm (firsts arrivals)
  rw [same]
  refine ⟨tables_holding _, mergeSheets_holding _, names.nodup_iff.2 (nodup_names_firsts _),
    fun name => ?_, references_holding _, fun origin raw => ?_, sizes_holding _,
    fun table slot row => ?_, enums_holding _, localization_holding _⟩
  · rw [hasTable_iff]
    change name ∈ (holding (firsts arrivals)).names ↔ name ∈ (holding (firsts arrivals)).heldNames
    rw [names_holding, names.mem_iff]
  · change (holding (firsts arrivals)).references.resolve? origin raw = _
    rw [references_holding, ReferenceIndex.resolve?_foldl_absorb]
    rfl
  · change (holding (firsts arrivals)).sizes.get? table slot row = _
    rw [sizes_holding, SizeIndex.get?_foldl_absorb]
    rfl

/-- The state after any arrivals holds the first arrival of every name and nothing of the others:
one more of a known name only adds the problem that the name is taken. -/
theorem ofArrivals_keeps_firsts (arrivals : List Arrival) :
    ((firsts arrivals).Sublist arrivals ∧
      ∀ arrival, arrival ∈ firsts arrivals ↔
        arrivals.find? (·.name == arrival.name) = some arrival) ∧
    (ofArrivals arrivals).HoldsAll (firsts arrivals) ∧
    ∀ sheet referenceOnly, (ofArrivals arrivals).hasTable sheet.name = true →
      ∃ problem : Diagnostic, problem.code = .duplicateTableName ∧
        (ofArrivals arrivals).absorb sheet referenceOnly =
          { ofArrivals arrivals with
            diagnostics := (ofArrivals arrivals).diagnostics ++ [problem] } :=
  ⟨⟨sublist_firsts arrivals, fun _ => mem_firsts_iff⟩, holdsAll_ofArrivals arrivals,
    fun _ referenceOnly known => ⟨_, rfl, absorb_of_known referenceOnly (hasTable_iff.1 known)⟩⟩

/-- Two goods under one name, and between them a share of a merge group. -/
def namesakes : List Arrival :=
  let columns := [("id", "key,int"), ("name", "string")]
  (Library.bookOf "goods.xlsx"
    [Library.sheetOf "item" "#data" "" columns [["7", "rope"]],
     Library.sheetOf "crate" "#merge" "crates,id,1" columns [["1", "oak"]],
     Library.sheetOf "item" "#data" "" columns [["8", "jar"]]]).ingest [] |>.map (⟨·, false⟩)

set_option maxRecDepth 100000 in
/-- The first item is kept and the second one is not, nor would it be if it came again. -/
theorem ofArrivals_keeps_firsts_namesakes :
    (ofArrivals namesakes).heldNames = ["item", "crate"] ∧
    (ofArrivals namesakes).references.resolve? "item/id" "7" = some "7" ∧
    (ofArrivals namesakes).references.resolve? "item/id" "8" = none ∧
    ∀ sheet, sheet.name = "item" → (ofArrivals namesakes).hasTable sheet.name = true ∧
      ∃ problem : Diagnostic, problem.code = .duplicateTableName ∧
        (ofArrivals namesakes).absorb sheet false =
          { ofArrivals namesakes with
            diagnostics := (ofArrivals namesakes).diagnostics ++ [problem] } := by
  refine ⟨by decide +kernel, by decide +kernel, by decide +kernel, fun sheet named => ?_⟩
  have known : (ofArrivals namesakes).hasTable sheet.name = true := by
    rw [named]
    decide +kernel
  exact ⟨known, (ofArrivals_keeps_firsts namesakes).2.2 sheet false known⟩

end CompileState

end DesignTables
