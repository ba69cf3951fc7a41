import DesignTables.Proofs.Compile.Absorption
import Mathlib.Data.List.Nodup

/-!
# What localization sheets come to in one registry

All sheets share one set of keys. So many sheets are registered without a problem exactly when no
key occurs twice in all of their rows, and the registry is then these rows in their order.
-/
namespace DesignTables.LocalizationRegistry

/-- The strings that a sheet defines. -/
def stringsOf (sheet : IngestedSheet) : List LocalizedString :=
  if sheet.schema.isClean && sheet.schema.kind == .localization then
    match sheet.schema.key with
    | some keySlot => sheet.rows.map (rowOf sheet.schema keySlot)
    | none => []
  else []

theorem hasKey_iff {registry : LocalizationRegistry} {key : String} :
    registry.hasKey key = true ↔ key ∈ registry.strings.map (·.key) := by
  rw [hasKey, find?, List.find?_isSome]
  simp

theorem foldl_takeRow_iff {schema : Schema} {keySlot : Nat} {rows : List TableRow}
    {registry : LocalizationRegistry} (nodup : (registry.strings.map (·.key)).Nodup) :
    ((rows.foldl (takeRow schema keySlot) (registry, [])).2 = [] ↔
      ((registry.strings ++ rows.map (rowOf schema keySlot)).map (·.key)).Nodup) ∧
    ((rows.foldl (takeRow schema keySlot) (registry, [])).2 = [] →
      (rows.foldl (takeRow schema keySlot) (registry, [])).1.strings =
        registry.strings ++ rows.map (rowOf schema keySlot)) := by
  have noted : ∀ (rows : List TableRow) (now : LocalizationRegistry × List Diagnostic),
      now.2 ≠ [] → (rows.foldl (takeRow schema keySlot) now).2 ≠ [] := by
    intro rows
    induction rows with
    | nil => exact fun _ h => h
    | cons row rows ih =>
      intro now h
      apply ih
      simp only [takeRow]
      split
      · exact h
      · simp
  induction rows generalizing registry with
  | nil => simpa using nodup
  | cons row rows ih =>
    rw [List.foldl_cons, List.map_cons, ← List.singleton_append, ← List.append_assoc]
    by_cases taken : registry.hasKey (rowOf schema keySlot row).key = true
    · have step : (takeRow schema keySlot (registry, []) row).2 ≠ [] := by
        simp only [takeRow, insert?, if_pos taken]
        simp
      refine ⟨⟨fun clean => absurd clean (noted rows _ step), fun distinct => ?_⟩,
        fun clean => absurd clean (noted rows _ step)⟩
      rw [List.map_append, List.map_append, List.nodup_append', List.nodup_append'] at distinct
      exact absurd (List.mem_cons_self ..) (distinct.1.2.2 (hasKey_iff.1 taken))
    · have step : takeRow schema keySlot (registry, []) row =
          (⟨registry.strings ++ [rowOf schema keySlot row]⟩, []) := by
        simp only [takeRow, insert?, if_neg taken]
      have nodup' : ((registry.strings ++ [rowOf schema keySlot row]).map (·.key)).Nodup := by
        rw [List.map_append, List.nodup_append']
        refine ⟨nodup, List.nodup_singleton _, fun key mem mem' => ?_⟩
        rw [List.map_singleton, List.mem_singleton] at mem'
        exact taken (hasKey_iff.2 (mem' ▸ mem))
      rw [step]
      exact ih nodup'

theorem takeSheet_iff (sheet : IngestedSheet) {registry : LocalizationRegistry}
    (nodup : (registry.strings.map (·.key)).Nodup) :
    ((registry.takeSheet sheet).2 = [] ↔
      ((registry.strings ++ stringsOf sheet).map (·.key)).Nodup) ∧
    ((registry.takeSheet sheet).2 = [] →
      (registry.takeSheet sheet).1.strings = registry.strings ++ stringsOf sheet) := by
  rw [takeSheet, stringsOf]
  split
  · rw [registerSheet]
    cases sheet.schema.key with
    | some keySlot => exact foldl_takeRow_iff nodup
    | none => simpa using nodup
  · simpa using nodup

/-- Many sheets are registered when no key occurs twice, and then with all of their strings. -/
theorem takeSheets_iff {sheets : List IngestedSheet} {registry : LocalizationRegistry}
    (nodup : (registry.strings.map (·.key)).Nodup) :
    ((registry.takeSheets sheets).2 = [] ↔
      ((registry.strings ++ sheets.flatMap stringsOf).map (·.key)).Nodup) ∧
    ((registry.takeSheets sheets).2 = [] →
      (registry.takeSheets sheets).1.strings = registry.strings ++ sheets.flatMap stringsOf) := by
  induction sheets generalizing registry with
  | nil => simpa [takeSheets] using nodup
  | cons sheet sheets ih =>
    obtain ⟨alone, strings⟩ := takeSheet_iff sheet nodup
    have unfolded : registry.takeSheets (sheet :: sheets) =
        (((registry.takeSheet sheet).1.takeSheets sheets).1,
          (registry.takeSheet sheet).2 ++ ((registry.takeSheet sheet).1.takeSheets sheets).2) := rfl
    rw [unfolded, List.append_eq_nil_iff, List.flatMap_cons, ← List.append_assoc]
    by_cases clean : (registry.takeSheet sheet).2 = []
    · have distinct : ((registry.takeSheet sheet).1.strings.map (·.key)).Nodup := by
        rw [strings clean]
        exact alone.1 clean
      have rest := ih distinct
      rw [strings clean] at rest
      exact ⟨(and_iff_right clean).trans rest.1, fun both => rest.2 both.2⟩
    · refine ⟨⟨fun both => absurd both.1 clean, fun distinct => ?_⟩, fun both => absurd both.1 clean⟩
      rw [List.map_append, List.nodup_append'] at distinct
      exact absurd (alone.2 distinct.1) clean

theorem takeSheets_empty_iff (sheets : List IngestedSheet) :
    ((empty.takeSheets sheets).2 = [] ↔ ((sheets.flatMap stringsOf).map (·.key)).Nodup) ∧
    ((empty.takeSheets sheets).2 = [] →
      (empty.takeSheets sheets).1.strings = sheets.flatMap stringsOf) :=
  have none : (empty.strings.map (·.key)).Nodup := List.nodup_nil
  takeSheets_iff none

theorem takeSheets_append (registry : LocalizationRegistry) (first second : List IngestedSheet) :
    registry.takeSheets (first ++ second) =
      (((registry.takeSheets first).1.takeSheets second).1,
        (registry.takeSheets first).2 ++ ((registry.takeSheets first).1.takeSheets second).2) := by
  induction first generalizing registry with
  | nil => rfl
  | cons sheet first ih => simp only [List.cons_append, takeSheets, ih, List.append_assoc]

/-- A sheet that is no localization defines nothing. -/
theorem stringsOf_eq_nil {sheet : IngestedSheet} (h : sheet.schema.kind ≠ .localization) :
    stringsOf sheet = [] := by
  rw [stringsOf, if_neg]
  simp [h]

end DesignTables.LocalizationRegistry
