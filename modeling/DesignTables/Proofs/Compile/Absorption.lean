import DesignTables.Compile.State
import Mathlib.Logic.Basic

/-!
# What taking ingested sheets one after the other comes to

A sheet is taken without a problem when its name is new, it brought no problem of its own and the
registry of its kind has room for it. A row of such sheets only appends: every part of the state is
a list, a registry or a union of what the sheets hold, in their order.
-/
namespace DesignTables

namespace IngestedSheet

/-- Whether the sheet is a share of a merge group. -/
def isMerge (sheet : IngestedSheet) : Bool := sheet.schema.kind == .merge

/-- The table of the sheet as it is kept. -/
def asTable (sheet : IngestedSheet) (referenceOnly : Bool) : LoadedTable :=
  ⟨sheet.schema, sheet.rows, referenceOnly⟩

/-- The sheet as it waits for the rest of its merge group. -/
def asPending (sheet : IngestedSheet) (referenceOnly : Bool) : MergeSheet :=
  ⟨{ sheet with diagnostics := [] }, referenceOnly⟩

/-- The origin values that the sheet adds to the index: those of a merge sheet wait. -/
def indexedOrigins (sheet : IngestedSheet) : ReferenceIndex :=
  if sheet.isMerge then ReferenceIndex.empty else sheet.origins

/-- The element counts that the sheet adds to the index: those of a merge sheet wait. -/
def indexedSizes (sheet : IngestedSheet) : SizeIndex :=
  if sheet.isMerge then SizeIndex.empty else sheet.sizes

end IngestedSheet

namespace EnumRegistry

/-- The registry with the rows of a sheet, if it is an enumeration sheet with a clean header. -/
def takeSheet (registry : EnumRegistry) (sheet : IngestedSheet) : EnumRegistry × List Diagnostic :=
  if sheet.schema.isClean && sheet.schema.kind == .enumeration then
    registry.registerSheet sheet.schema sheet.rows
  else (registry, [])

/-- The registry with the rows of many sheets, and all problems met. -/
def takeSheets (registry : EnumRegistry) : List IngestedSheet → EnumRegistry × List Diagnostic
  | [] => (registry, [])
  | sheet :: sheets =>
    let taken := registry.takeSheet sheet
    let rest := taken.1.takeSheets sheets
    (rest.1, taken.2 ++ rest.2)

end EnumRegistry

namespace LocalizationRegistry

/-- The registry with the rows of a sheet, if it is a localization sheet with a clean header. -/
def takeSheet (registry : LocalizationRegistry) (sheet : IngestedSheet) :
    LocalizationRegistry × List Diagnostic :=
  if sheet.schema.isClean && sheet.schema.kind == .localization then
    registry.registerSheet sheet.schema sheet.rows
  else (registry, [])

/-- The registry with the rows of many sheets, and all problems met. -/
def takeSheets (registry : LocalizationRegistry) :
    List IngestedSheet → LocalizationRegistry × List Diagnostic
  | [] => (registry, [])
  | sheet :: sheets =>
    let taken := registry.takeSheet sheet
    let rest := taken.1.takeSheets sheets
    (rest.1, taken.2 ++ rest.2)

end LocalizationRegistry

namespace CompileState

theorem isClean_iff {state : CompileState} : state.isClean = true ↔ state.diagnostics = [] :=
  List.isEmpty_iff

theorem hasTable_iff {state : CompileState} {name : String} :
    state.hasTable name = true ↔ name ∈ state.names :=
  List.contains_iff_mem

/-- What a sheet needs to be taken without a problem. -/
structure Admits (state : CompileState) (sheet : IngestedSheet) : Prop where
  isNew : sheet.name ∉ state.names
  isClean : sheet.diagnostics = []
  enums : (state.enums.takeSheet sheet).2 = []
  localization : (state.localization.takeSheet sheet).2 = []

/-- The state with one more sheet, everything it holds at the end of what was there. -/
def gather (state : CompileState) (sheet : IngestedSheet) (referenceOnly : Bool) : CompileState :=
  { state with
    tables := state.tables ++ if sheet.isMerge then [] else [sheet.asTable referenceOnly]
    mergeSheets :=
      state.mergeSheets ++ if sheet.isMerge then [sheet.asPending referenceOnly] else []
    enums := (state.enums.takeSheet sheet).1
    localization := (state.localization.takeSheet sheet).1
    references := state.references.absorb sheet.indexedOrigins
    sizes := state.sizes.absorb sheet.indexedSizes
    names := state.names ++ [sheet.name] }

/-- A sheet of a new name is gathered, and every problem it brings is noted. -/
theorem absorb_of_new {state : CompileState} {sheet : IngestedSheet} (referenceOnly : Bool)
    (h : sheet.name ∉ state.names) :
    state.absorb sheet referenceOnly =
      (state.gather sheet referenceOnly).report
        (sheet.diagnostics ++ (state.enums.takeSheet sheet).2 ++
          (state.localization.takeSheet sheet).2) := by
  have new : state.hasTable sheet.schema.name = false := by
    rw [← Bool.not_eq_true, hasTable_iff]
    exact h
  cases kind : sheet.schema.kind <;> cases clean : sheet.schema.isClean <;>
    simp [absorb, new, kind, clean, keepTable, keepMergeSheet, register, gather, report,
      EnumRegistry.takeSheet, LocalizationRegistry.takeSheet, IngestedSheet.isMerge,
      IngestedSheet.asTable, IngestedSheet.asPending, IngestedSheet.indexedOrigins,
      IngestedSheet.indexedSizes, IngestedSheet.name, ReferenceIndex.absorb, SizeIndex.absorb,
      KeyTable.absorb, ReferenceIndex.empty, SizeIndex.empty, KeyTable.empty]

/-- A sheet of a known name leaves everything but the diagnostics as it was. -/
theorem absorb_of_known {state : CompileState} {sheet : IngestedSheet} (referenceOnly : Bool)
    (h : sheet.name ∈ state.names) :
    state.absorb sheet referenceOnly =
      state.report [Diagnostic.of (.repeatedTableName sheet.name) sheet.schema.origin "" 0 0] := by
  rw [absorb, if_pos (hasTable_iff.2 h)]

/-- Taking a sheet finds no problem exactly when there was none and the state admits the sheet. -/
theorem isClean_absorb_iff {state : CompileState} {sheet : IngestedSheet} {referenceOnly : Bool} :
    (state.absorb sheet referenceOnly).isClean = true ↔
      state.isClean = true ∧ state.Admits sheet := by
  by_cases known : sheet.name ∈ state.names
  · rw [absorb_of_known referenceOnly known, isClean_iff]
    constructor
    · intro h; simp [report] at h
    · rintro ⟨_, admits⟩; exact absurd known admits.isNew
  · rw [absorb_of_new referenceOnly known, isClean_iff, isClean_iff]
    simp only [report, gather, List.append_eq_nil_iff]
    constructor
    · rintro ⟨clean, ⟨own, enums⟩, localization⟩
      exact ⟨clean, known, own, enums, localization⟩
    · rintro ⟨clean, admits⟩
      exact ⟨clean, ⟨admits.isClean, admits.enums⟩, admits.localization⟩

theorem absorb_of_admits {state : CompileState} {sheet : IngestedSheet} (referenceOnly : Bool)
    (h : state.Admits sheet) :
    state.absorb sheet referenceOnly = state.gather sheet referenceOnly := by
  rw [absorb_of_new referenceOnly h.isNew, h.isClean, h.enums, h.localization]
  simp [report]

/-- What many sheets need to be taken without a problem. -/
structure AdmitsAll (state : CompileState) (sheets : List IngestedSheet) : Prop where
  isNew : ∀ sheet ∈ sheets, sheet.name ∉ state.names
  nodup : (sheets.map (·.name)).Nodup
  isClean : ∀ sheet ∈ sheets, sheet.diagnostics = []
  enums : (state.enums.takeSheets sheets).2 = []
  localization : (state.localization.takeSheets sheets).2 = []

theorem admitsAll_nil (state : CompileState) : state.AdmitsAll [] := by
  constructor <;> simp [EnumRegistry.takeSheets, LocalizationRegistry.takeSheets]

theorem admitsAll_cons_iff {state : CompileState} {sheet : IngestedSheet}
    {sheets : List IngestedSheet} (referenceOnly : Bool) :
    state.AdmitsAll (sheet :: sheets) ↔
      state.Admits sheet ∧ (state.gather sheet referenceOnly).AdmitsAll sheets := by
  constructor
  · intro h
    have nodup := List.nodup_cons.1 h.nodup
    have enums := List.append_eq_nil_iff.1 h.enums
    have localization := List.append_eq_nil_iff.1 h.localization
    refine ⟨⟨h.isNew _ (by simp), h.isClean _ (by simp), enums.1, localization.1⟩,
      ⟨?_, nodup.2, fun s mem => h.isClean s (by simp [mem]), enums.2, localization.2⟩⟩
    intro later mem known
    rcases List.mem_append.1 known with known | known
    · exact h.isNew later (by simp [mem]) known
    · rw [List.mem_singleton] at known
      exact nodup.1 (List.mem_map.2 ⟨later, mem, known⟩)
  · rintro ⟨first, rest⟩
    refine ⟨?_, ?_, ?_, ?_, ?_⟩
    · intro s mem known
      rcases List.mem_cons.1 mem with rfl | mem
      · exact first.isNew known
      · exact rest.isNew s mem (List.mem_append_left _ known)
    · rw [List.map_cons, List.nodup_cons]
      refine ⟨?_, rest.nodup⟩
      intro mem
      obtain ⟨later, mem, same⟩ := List.mem_map.1 mem
      exact rest.isNew later mem (by simp [gather, same])
    · intro s mem
      rcases List.mem_cons.1 mem with rfl | mem
      · exact first.isClean
      · exact rest.isClean s mem
    · exact List.append_eq_nil_iff.2 ⟨first.enums, rest.enums⟩
    · exact List.append_eq_nil_iff.2 ⟨first.localization, rest.localization⟩

/-- The state with many more sheets. -/
def gatherAll (state : CompileState) (sheets : List IngestedSheet) (referenceOnly : Bool) :
    CompileState :=
  { state with
    tables :=
      state.tables ++ (sheets.filter (!·.isMerge)).map fun sheet => sheet.asTable referenceOnly
    mergeSheets :=
      state.mergeSheets ++ (sheets.filter (·.isMerge)).map fun sheet =>
        sheet.asPending referenceOnly
    enums := (state.enums.takeSheets sheets).1
    localization := (state.localization.takeSheets sheets).1
    references := sheets.foldl (fun index sheet => index.absorb sheet.indexedOrigins)
      state.references
    sizes := sheets.foldl (fun index sheet => index.absorb sheet.indexedSizes) state.sizes
    names := state.names ++ sheets.map (·.name) }

section

variable (state : CompileState) (sheets : List IngestedSheet) (referenceOnly : Bool)

theorem tables_gatherAll : (state.gatherAll sheets referenceOnly).tables =
    state.tables ++ (sheets.filter (!·.isMerge)).map fun sheet => sheet.asTable referenceOnly := rfl

theorem mergeSheets_gatherAll : (state.gatherAll sheets referenceOnly).mergeSheets =
    state.mergeSheets ++ (sheets.filter (·.isMerge)).map fun sheet =>
      sheet.asPending referenceOnly := rfl

theorem merges_gatherAll : (state.gatherAll sheets referenceOnly).merges = state.merges := rfl

theorem references_gatherAll : (state.gatherAll sheets referenceOnly).references =
    sheets.foldl (fun index sheet => index.absorb sheet.indexedOrigins) state.references := rfl

theorem sizes_gatherAll : (state.gatherAll sheets referenceOnly).sizes =
    sheets.foldl (fun index sheet => index.absorb sheet.indexedSizes) state.sizes := rfl

theorem names_gatherAll :
    (state.gatherAll sheets referenceOnly).names = state.names ++ sheets.map (·.name) := rfl

end

theorem gatherAll_nil (state : CompileState) (referenceOnly : Bool) :
    state.gatherAll [] referenceOnly = state := by
  simp [gatherAll, EnumRegistry.takeSheets, LocalizationRegistry.takeSheets]

theorem gatherAll_cons (state : CompileState) (sheet : IngestedSheet)
    (sheets : List IngestedSheet) (referenceOnly : Bool) :
    state.gatherAll (sheet :: sheets) referenceOnly =
      (state.gather sheet referenceOnly).gatherAll sheets referenceOnly := by
  cases merge : sheet.isMerge <;>
    simp [gatherAll, gather, merge, EnumRegistry.takeSheets, LocalizationRegistry.takeSheets]

/-- Many sheets are taken without a problem exactly when there was none and the state admits all
of them. -/
theorem isClean_foldl_absorb_iff {state : CompileState} {sheets : List IngestedSheet}
    {referenceOnly : Bool} :
    (sheets.foldl (·.absorb · referenceOnly) state).isClean = true ↔
      state.isClean = true ∧ state.AdmitsAll sheets := by
  induction sheets generalizing state with
  | nil => simp [admitsAll_nil]
  | cons sheet sheets ih =>
    rw [List.foldl_cons, ih, isClean_absorb_iff, admitsAll_cons_iff referenceOnly]
    constructor
    · rintro ⟨⟨clean, admits⟩, rest⟩
      rw [absorb_of_admits referenceOnly admits] at rest
      exact ⟨clean, admits, rest⟩
    · rintro ⟨clean, admits, rest⟩
      rw [absorb_of_admits referenceOnly admits]
      exact ⟨⟨clean, admits⟩, rest⟩

theorem foldl_absorb_of_admitsAll {state : CompileState} {sheets : List IngestedSheet}
    (referenceOnly : Bool) (h : state.AdmitsAll sheets) :
    sheets.foldl (·.absorb · referenceOnly) state = state.gatherAll sheets referenceOnly := by
  induction sheets generalizing state with
  | nil => rw [List.foldl_nil, gatherAll_nil]
  | cons sheet sheets ih =>
    obtain ⟨admits, rest⟩ := (admitsAll_cons_iff referenceOnly).1 h
    rw [List.foldl_cons, absorb_of_admits referenceOnly admits, ih rest, gatherAll_cons]

theorem admitsAll_append_iff {state : CompileState} {first second : List IngestedSheet}
    (referenceOnly : Bool) : state.AdmitsAll (first ++ second) ↔
      state.AdmitsAll first ∧ (state.gatherAll first referenceOnly).AdmitsAll second := by
  induction first generalizing state with
  | nil =>
    rw [List.nil_append, gatherAll_nil]
    exact (and_iff_right (admitsAll_nil state)).symm
  | cons sheet first ih =>
    rw [List.cons_append, admitsAll_cons_iff referenceOnly, ih, admitsAll_cons_iff referenceOnly,
      and_assoc, gatherAll_cons]

end CompileState

end DesignTables
