import DesignTables.Proofs.Catalog.Companions
import DesignTables.Proofs.Compile.Contents
import DesignTables.Proofs.Registry.Enums
import DesignTables.Proofs.Registry.Strings

/-!
The registries, merge groups and validated tables of a run, by the sheets of its two rounds.
-/
namespace DesignTables

namespace CompileState

/-- Fewer sheets, in any order, are taken without a problem where all of them are. -/
theorem admitsAll_of_subperm {all some : List IngestedSheet} (h : empty.AdmitsAll all)
    (sub : some.Subperm all) : empty.AdmitsAll some := by
  have names : (some.map (·.name)).Nodup := nodup_of_subperm (subperm_map sub _) h.nodup
  have enums := (EnumRegistry.takeSheets_empty_iff h.nodup).1.1 h.enums
  have strings := (LocalizationRegistry.takeSheets_empty_iff all).1.1 h.localization
  refine ⟨fun _ _ => List.not_mem_nil, names, fun sheet mem => h.isClean sheet (sub.subset mem),
    (EnumRegistry.takeSheets_empty_iff names).1.2 ⟨fun sheet mem => enums.1 sheet (sub.subset mem), ?_⟩,
    (LocalizationRegistry.takeSheets_empty_iff some).1.2 ?_⟩
  · exact nodup_of_subperm (subperm_map (subperm_flatMap sub _) _) enums.2
  · exact nodup_of_subperm (subperm_map (subperm_flatMap sub _) _) strings

/-- A merge table that serves more than look-ups is validated. -/
theorem merged_mem_targets {state : CompileState} {table : MergeTable} (mem : table ∈ state.merges)
    (own : table.referenceOnly = false) : .merged table ∈ state.targets := by
  refine List.mem_append_right _ (List.mem_map_of_mem (List.mem_filter.2 ⟨mem, ?_⟩))
  rw [own]
  rfl

end CompileState

namespace RunContext

open Library

variable {ctx : RunContext}

theorem admitsAll_sheets (h : ctx.Ingests) : CompileState.empty.AdmitsAll ctx.sheets := by
  have second := h.second
  rw [firstRound_eq h.first] at second
  rw [sheets, CompileState.admitsAll_append_iff false]
  exact ⟨h.first, ⟨second.isNew, second.nodup, second.isClean, second.enums, second.localization⟩⟩

/-- Every sheet of a run was read from a header without problems. -/
theorem readFrom_of_sheet (h : ctx.Ingests) {sheet : IngestedSheet} (mem : sheet ∈ ctx.sheets) :
    ∃ given origin, Header.compile? given origin ctx.catalog.mergeGroups = some sheet.schema ∧
      sheet.schema.isClean = true := by
  obtain ⟨given, origin, ingested⟩ := mem_sheets mem
  have clean := (admitsAll_sheets h).isClean sheet mem
  exact ⟨given, origin, IngestedSheet.compile?_of_ofSheet? ingested,
    (IngestedSheet.readFrom_ofSheet? ingested).2.header clean⟩

theorem ingests_of_admitsAll (h : CompileState.empty.AdmitsAll ctx.sheets)
    (targets : (schemasOf ctx.firstRound).flatMap (ctx.unknownTargets ctx.firstRound) = []) :
    ctx.Ingests := by
  obtain ⟨first, second⟩ := (CompileState.admitsAll_append_iff false).1 h
  refine ⟨first, targets, ?_⟩
  rw [firstRound_eq first]
  exact ⟨second.isNew, second.nodup, second.isClean, second.enums, second.localization⟩

theorem groups_mergedState (h : ctx.Ingests) :
    ctx.mergedState.enums.groups = ctx.sheets.flatMap EnumRegistry.groupsOf ∧
      ((ctx.sheets.flatMap EnumRegistry.groupsOf).map (·.name)).Nodup := by
  have all := admitsAll_sheets h
  have taken : ctx.mergedState.enums = (EnumRegistry.empty.takeSheets ctx.sheets).1 := by
    rw [mergedState, CompileState.buildMerges_eq, CompileState.withOutcomes, secondRound_eq h,
      firstRound_eq h.first, sheets, EnumRegistry.takeSheets_append]
    rfl
  have registered := EnumRegistry.takeSheets_empty_iff all.nodup
  rw [taken]
  exact ⟨registered.2 all.enums, (registered.1.1 all.enums).2⟩

theorem strings_mergedState (h : ctx.Ingests) :
    ctx.mergedState.localization.strings = ctx.sheets.flatMap LocalizationRegistry.stringsOf := by
  have all := admitsAll_sheets h
  have taken : ctx.mergedState.localization =
      (LocalizationRegistry.empty.takeSheets ctx.sheets).1 := by
    rw [mergedState, CompileState.buildMerges_eq, CompileState.withOutcomes, secondRound_eq h,
      firstRound_eq h.first, sheets, LocalizationRegistry.takeSheets_append]
    rfl
  rw [taken]
  exact (LocalizationRegistry.takeSheets_empty_iff _).2 all.localization

theorem filter_pendingOf (sheets : List IngestedSheet) (referenceOnly : Bool) (group : String) :
    (pendingOf sheets referenceOnly).filter (·.group? == some group) =
      (sheets.filter (inGroup group)).map (·.asPending referenceOnly) := by
  rw [pendingOf, List.filter_map, List.filter_filter]
  congr 1
  refine List.filter_congr fun sheet _ => ?_
  rw [Function.comp, IngestedSheet.isMerge, inGroup, IngestedSheet.group?, MergeSheet.group?,
    IngestedSheet.asPending]
  split
  next merge => rw [merge]; exact Bool.and_true _
  next other =>
    have off : (sheet.schema.kind == Kind.merge) = false := beq_eq_false_iff_ne.2 other
    rw [off]
    exact Bool.and_false _

/-- A merge group of the run unifies its sheets from both rounds, and serves look-ups only when
none of them is from the first. -/
theorem mergeOutcome?_secondRound (h : ctx.Ingests) (group : String) :
    ctx.secondRound.mergeOutcome? group =
      MergeOutcome.ofSheets? group (ctx.sheets.filter (inGroup group))
        ((ctx.ingestedOf ctx.selected).filter (inGroup group)).isEmpty := by
  have bare : ∀ (some : List IngestedSheet) (referenceOnly : Bool), some ⊆ ctx.sheets →
      (((some.filter (inGroup group)).map (·.asPending referenceOnly)).map (·.sheet)) =
        some.filter (inGroup group) := by
    intro some referenceOnly sub
    rw [List.map_map]
    have same : ∀ sheet ∈ some.filter (inGroup group),
        ((·.sheet) ∘ (·.asPending referenceOnly)) sheet = sheet := by
      intro sheet mem
      have clean := (admitsAll_sheets h).isClean sheet (sub (List.mem_filter.1 mem).1)
      simp only [Function.comp, IngestedSheet.asPending, ← clean]
    rw [List.map_congr_left same, List.map_id']
  rw [CompileState.mergeOutcome?, CompileState.sheetsOfGroup, mergeSheets_secondRound h,
    List.filter_append, filter_pendingOf, filter_pendingOf, List.map_append,
    bare _ _ (List.subset_append_left _ _), bare _ _ (List.subset_append_right _ _),
    ← List.filter_append, ← sheets]
  congr 1
  rw [List.all_append, List.all_map, List.all_map]
  cases (ctx.ingestedOf ctx.selected).filter (inGroup group) with
  | nil =>
    rw [List.all_nil, Bool.true_and, List.isEmpty_nil, List.all_eq_true]
    exact fun _ _ => rfl
  | cons sheet rest => rfl

theorem mem_mergeGroups_secondRound_iff (h : ctx.Ingests) {group : String} :
    group ∈ ctx.secondRound.mergeGroups ↔ ∃ sheet ∈ ctx.sheets, sheet.group? = some group := by
  have filled : ∀ some : List IngestedSheet, ∀ referenceOnly,
      (∃ pending ∈ pendingOf some referenceOnly, pending.group? = Option.some group) ↔
        ∃ sheet ∈ some, sheet.group? = Option.some group := by
    intro some referenceOnly
    have same := filter_pendingOf some referenceOnly group
    constructor
    · rintro ⟨pending, mem, named⟩
      have known : pending ∈ (pendingOf some referenceOnly).filter
          (·.group? == Option.some group) := List.mem_filter.2 ⟨mem, beq_iff_eq.2 named⟩
      rw [same] at known
      obtain ⟨sheet, inside, -⟩ := List.mem_map.1 known
      obtain ⟨mem, grouped⟩ := List.mem_filter.1 inside
      exact ⟨sheet, mem, beq_iff_eq.1 grouped⟩
    · rintro ⟨sheet, mem, named⟩
      have known : sheet.asPending referenceOnly ∈
          (some.filter (inGroup group)).map (·.asPending referenceOnly) :=
        List.mem_map_of_mem (List.mem_filter.2 ⟨mem, beq_iff_eq.2 named⟩)
      rw [← same] at known
      obtain ⟨inside, grouped⟩ := List.mem_filter.1 known
      exact ⟨_, inside, beq_iff_eq.1 grouped⟩
  rw [CompileState.mem_mergeGroups_iff, mergeSheets_secondRound h, sheets]
  simp only [List.mem_append, or_and_right, exists_or, filled]

/-- A validated table is a plain sheet of the first round, or a merge group that is there from the
first round. -/
theorem mem_targets_iff (h : ctx.Ingests) {target : ValidationTarget} :
    target ∈ ctx.mergedState.targets ↔
      (∃ sheet ∈ ctx.ingestedOf ctx.selected, sheet.schema.kind = .data ∧
        target = .sheet sheet.schema sheet.rows) ∨
      ∃ group outcome, (∃ sheet ∈ ctx.ingestedOf ctx.selected, sheet.group? = some group) ∧
        ctx.secondRound.mergeOutcome? group = some outcome ∧
        target = .merged (CompileState.shardMerge outcome.table).1 := by
  have own : ∀ outcome group, ctx.secondRound.mergeOutcome? group = some outcome →
      ((CompileState.shardMerge outcome.table).1.referenceOnly = false ↔
        ∃ sheet ∈ ctx.ingestedOf ctx.selected, sheet.group? = some group) := by
    intro outcome group found
    rw [mergeOutcome?_secondRound h] at found
    obtain ⟨shards, same⟩ := CompileState.shardMerge_table outcome.table
    rw [same]
    change outcome.table.referenceOnly = false ↔ _
    rw [MergeOutcome.referenceOnly_ofSheets? found, List.isEmpty_eq_false_iff_exists_mem]
    simp only [List.mem_filter, inGroup, beq_iff_eq]
  rw [CompileState.targets, List.mem_append, tables_mergedState h, merges_mergedState h]
  refine or_congr ?_ ?_
  · simp only [List.mem_map, List.mem_filter, List.mem_append, tablesOf, Bool.and_eq_true,
      Bool.not_eq_true', beq_iff_eq]
    constructor
    · rintro ⟨table, ⟨⟨sheet, ⟨mem, -⟩, rfl⟩ | ⟨sheet, ⟨mem, -⟩, rfl⟩, plain, kind⟩, rfl⟩
      · exact ⟨sheet, mem, kind, rfl⟩
      · cases plain
    · rintro ⟨sheet, mem, kind, rfl⟩
      refine ⟨sheet.asTable false, ⟨.inl ⟨sheet, ⟨mem, ?_⟩, rfl⟩, rfl, kind⟩, rfl⟩
      rw [IngestedSheet.isMerge, kind]
      rfl
  · simp only [List.mem_map, List.mem_filter, Bool.not_eq_true', CompileState.mergeOutcomes,
      List.mem_filterMap]
    constructor
    · rintro ⟨_, ⟨⟨outcome, ⟨group, mem, found⟩, rfl⟩, plain⟩, rfl⟩
      exact ⟨group, outcome, (own outcome group found).1 plain, found, rfl⟩
    · rintro ⟨group, outcome, some, found, rfl⟩
      refine ⟨_, ⟨⟨outcome, ⟨group, ?_, found⟩, rfl⟩, (own outcome group found).2 some⟩, rfl⟩
      obtain ⟨sheet, mem, named⟩ := some
      exact (mem_mergeGroups_secondRound_iff h).2 ⟨sheet, List.mem_append_left _ mem, named⟩

end RunContext

end DesignTables
