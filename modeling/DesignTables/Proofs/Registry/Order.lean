import DesignTables.Proofs.Catalog.Library
import DesignTables.Proofs.Registry.Enums
import DesignTables.Proofs.Registry.Strings

/-!
# Sheets registered in any order

Which rows are refused depends on the order in which sheets are registered, but not whether any row
is: a group can belong to one sheet and a key to one row. Where nothing is refused, the registries
are what the sheets register one by one, in another order, and no reading depends on that.
-/
namespace DesignTables

namespace EnumRegistry

variable {sheets others : List IngestedSheet}

theorem takeSheets_clean_perm_iff (perm : sheets.Perm others)
    (names : (sheets.map (·.name)).Nodup) :
    (empty.takeSheets sheets).2 = [] ↔ (empty.takeSheets others).2 = [] := by
  have names' : (others.map (·.name)).Nodup := (perm.map _).nodup_iff.1 names
  have groups := (perm.flatMap_right groupsOf).map (·.name)
  rw [(takeSheets_empty_iff names).1, (takeSheets_empty_iff names').1, groups.nodup_iff]
  exact and_congr_left fun _ => ⟨fun all sheet mem => all sheet (perm.mem_iff.2 mem),
    fun all sheet mem => all sheet (perm.mem_iff.1 mem)⟩

/-- A group comes from one sheet, so it is the same in every order of the sheets. -/
theorem group?_takeSheets_perm (perm : sheets.Perm others) (names : (sheets.map (·.name)).Nodup)
    (clean : (empty.takeSheets sheets).2 = []) (name : String) :
    (empty.takeSheets sheets).1.group? name = (empty.takeSheets others).1.group? name := by
  have names' : (others.map (·.name)).Nodup := (perm.map _).nodup_iff.1 names
  have clean' := (takeSheets_clean_perm_iff perm names).1 clean
  have distinct := ((takeSheets_empty_iff names).1.1 clean).2
  have distinct' := ((takeSheets_empty_iff names').1.1 clean').2
  rw [group?, group?, (takeSheets_empty_iff names).2 clean, (takeSheets_empty_iff names').2 clean']
  exact find?_key_congr distinct distinct' (fun _ => (perm.flatMap_right groupsOf).mem_iff) name

end EnumRegistry

namespace LocalizationRegistry

variable {sheets others : List IngestedSheet}

theorem takeSheets_clean_perm_iff (perm : sheets.Perm others) :
    (empty.takeSheets sheets).2 = [] ↔ (empty.takeSheets others).2 = [] := by
  rw [(takeSheets_empty_iff sheets).1, (takeSheets_empty_iff others).1]
  exact ((perm.flatMap_right stringsOf).map (·.key)).nodup_iff

/-- A key comes from one row, so its string is the same in every order of the sheets. -/
theorem find?_takeSheets_perm (perm : sheets.Perm others) (clean : (empty.takeSheets sheets).2 = [])
    (key : String) :
    (empty.takeSheets sheets).1.find? key = (empty.takeSheets others).1.find? key := by
  have clean' := (takeSheets_clean_perm_iff perm).1 clean
  have distinct := (takeSheets_empty_iff sheets).1.1 clean
  have distinct' := (takeSheets_empty_iff others).1.1 clean'
  rw [find?, find?, (takeSheets_empty_iff sheets).2 clean, (takeSheets_empty_iff others).2 clean']
  exact find?_key_congr distinct distinct' (fun _ => (perm.flatMap_right stringsOf).mem_iff) key

end LocalizationRegistry

namespace CompileState

/-- The state after the rows of some sheets were registered in their order. -/
def registerAll (sheets : List IngestedSheet) : CompileState :=
  sheets.foldl (fun state sheet => state.register sheet.schema sheet.rows) empty

/-- The rows of a sheet go into the registry of its kind, and the other registry stays. -/
theorem register_eq (state : CompileState) (sheet : IngestedSheet) :
    state.register sheet.schema sheet.rows =
      { state with
        enums := (state.enums.takeSheet sheet).1
        localization := (state.localization.takeSheet sheet).1 }.report
          ((state.enums.takeSheet sheet).2 ++ (state.localization.takeSheet sheet).2) := by
  cases clean : sheet.schema.isClean <;> cases kind : sheet.schema.kind <;>
    simp [register, clean, kind, EnumRegistry.takeSheet, LocalizationRegistry.takeSheet, report]

/-- Both registries are filled as they would be alone, and a problem of either one is a problem. -/
theorem foldl_register (state : CompileState) (sheets : List IngestedSheet) :
    let after := sheets.foldl (fun state sheet => state.register sheet.schema sheet.rows) state
    after.enums = (state.enums.takeSheets sheets).1 ∧
    after.localization = (state.localization.takeSheets sheets).1 ∧
    (after.isClean = true ↔ state.isClean = true ∧
      (state.enums.takeSheets sheets).2 = [] ∧ (state.localization.takeSheets sheets).2 = []) := by
  induction sheets generalizing state with
  | nil => exact ⟨rfl, rfl, by simp [EnumRegistry.takeSheets, LocalizationRegistry.takeSheets]⟩
  | cons sheet sheets ih =>
    obtain ⟨enums, localization, clean⟩ := ih (state.register sheet.schema sheet.rows)
    rw [register_eq] at enums localization clean
    refine ⟨?_, ?_, ?_⟩
    · rw [List.foldl_cons, register_eq, enums]
      rfl
    · rw [List.foldl_cons, register_eq, localization]
      rfl
    · rw [List.foldl_cons, register_eq, clean, isClean_iff, isClean_iff]
      simp only [report, List.append_eq_nil_iff, EnumRegistry.takeSheets,
        LocalizationRegistry.takeSheets]
      tauto

section

variable (sheets : List IngestedSheet)

theorem enums_registerAll :
    (registerAll sheets).enums = (EnumRegistry.empty.takeSheets sheets).1 :=
  (foldl_register empty sheets).1

theorem localization_registerAll :
    (registerAll sheets).localization = (LocalizationRegistry.empty.takeSheets sheets).1 :=
  (foldl_register empty sheets).2.1

theorem isClean_registerAll_iff : (registerAll sheets).isClean = true ↔
    (EnumRegistry.empty.takeSheets sheets).2 = [] ∧
      (LocalizationRegistry.empty.takeSheets sheets).2 = [] :=
  (foldl_register empty sheets).2.2.trans (and_iff_right rfl)

end

/-- Sheets of different names are registered without a problem in every order or in none. Then every
group, with its texts, its owning sheet and its flag, and every localized string reads the same in
all orders. -/
theorem registerAll_perm {sheets others : List IngestedSheet} (perm : sheets.Perm others)
    (names : (sheets.map (·.name)).Nodup) :
    ((registerAll sheets).diagnostics = [] ↔ (registerAll others).diagnostics = []) ∧
    ((registerAll sheets).diagnostics = [] →
      ((∀ group text, (registerAll sheets).enums.resolve? group text =
          (registerAll others).enums.resolve? group text) ∧
        ∀ group, (registerAll sheets).enums.group? group =
          (registerAll others).enums.group? group) ∧
      (∀ key, (registerAll sheets).localization.hasKey key =
        (registerAll others).localization.hasKey key) ∧
      (∀ key, ((registerAll sheets).localization.find? key).map (·.category) =
        ((registerAll others).localization.find? key).map (·.category)) ∧
      ∀ language key, (registerAll sheets).localization.text? language key =
        (registerAll others).localization.text? language key) := by
  simp only [← isClean_iff, isClean_registerAll_iff, enums_registerAll, localization_registerAll]
  constructor
  · rw [EnumRegistry.takeSheets_clean_perm_iff perm names,
      LocalizationRegistry.takeSheets_clean_perm_iff perm]
  · rintro ⟨enums, localization⟩
    have groups := EnumRegistry.group?_takeSheets_perm perm names enums
    have strings := LocalizationRegistry.find?_takeSheets_perm perm localization
    refine ⟨⟨fun group text => ?_, groups⟩, fun key => ?_, fun key => ?_, fun language key => ?_⟩
    · rw [EnumRegistry.resolve?, EnumRegistry.resolve?, groups]
    · rw [LocalizationRegistry.hasKey, LocalizationRegistry.hasKey, strings]
    · rw [strings]
    · rw [LocalizationRegistry.text?, LocalizationRegistry.text?, strings]

/-- Two enumeration sheets and the texts between them. -/
def palettes : List IngestedSheet :=
  (Library.bookOf "types.xlsx"
    [Library.sheetOf "colors" "#type" "" Library.codeColumns
      [["1", "color", "red", "1", "x"], ["2", "color", "blue", "2", "x"]],
     Library.sheetOf "texts" "#localtext" "" [("key", "key,string"), ("en", "string")]
      [["hello", "Hello"]],
     Library.sheetOf "shapes" "#type" "nocode" Library.codeColumns
      [["1", "shape", "round", "1", "x"]]]).ingest []

set_option maxRecDepth 100000 in
/-- Texts, colors and shapes are the same when the shapes are registered first. -/
theorem registerAll_perm_palettes :
    palettes.Perm palettes.reverse ∧ (palettes.map (·.name)).Nodup ∧
    (registerAll palettes.reverse).diagnostics = [] ∧
    (registerAll palettes).enums.resolve? "COLOR" "BLUE" = some "2" ∧
    (registerAll palettes.reverse).enums.resolve? "COLOR" "BLUE" = some "2" ∧
    ((registerAll palettes).enums.group? "SHAPE").map (·.nocode) = some true ∧
    (registerAll palettes).enums.group? "SHAPE" =
      (registerAll palettes.reverse).enums.group? "SHAPE" ∧
    (registerAll palettes).localization.text? "en" "hello" = some "Hello" ∧
    (registerAll palettes.reverse).localization.text? "en" "hello" = some "Hello" := by
  have perm : palettes.Perm palettes.reverse := palettes.reverse_perm.symm
  have names : (palettes.map (·.name)).Nodup := by decide +kernel
  have clean : (registerAll palettes).diagnostics = [] := by decide +kernel
  have blue : (registerAll palettes).enums.resolve? "COLOR" "BLUE" = some "2" := by decide +kernel
  have hello : (registerAll palettes).localization.text? "en" "hello" = some "Hello" := by
    decide +kernel
  obtain ⟨inEitherOrder, same⟩ := registerAll_perm perm names
  obtain ⟨⟨resolve, groups⟩, -, -, texts⟩ := same clean
  exact ⟨perm, names, inEitherOrder.1 clean, blue, (resolve _ _).symm.trans blue, by decide +kernel,
    groups _, hello, (texts _ _).symm.trans hello⟩

end CompileState

end DesignTables
