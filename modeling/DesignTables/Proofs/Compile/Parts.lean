import DesignTables.Proofs.Compile.Rounds
import DesignTables.Proofs.Compile.Selection
import DesignTables.Proofs.Merge.Agreement
import DesignTables.Proofs.Text.Lower
import DesignTables.Proofs.Validation.Agreement

/-!
# What a selected table is validated against

Two runs over one library are compared: one ingests all sheets, the other what it selected and what
that asks for. Where the library is well kept a reference, an element count, an enumeration group
or a localized string that a selected table asks for is found in one table or merge group alone,
which both runs have. So the validation of the table reads the same in both.
-/
namespace DesignTables

namespace Library

variable {books : List Workbook}

/-- A sheet that answers for a reference is the table that the reference names. -/
theorem name_of_resolve? (kept : WellKept books) {asking sheet : IngestedSheet}
    (asked : asking ∈ sheets books) {column : Column} (mem : column ∈ asking.schema.columns)
    {target : ReferenceTarget} (checked : column.check = some target)
    (known : sheet ∈ sheets books) {raw : String}
    (found : (sheet.indexedOrigins.resolve? target.originName raw).isSome) :
    sheet.schema.kind ≠ .merge ∧ sheet.name = target.table := by
  obtain ⟨given, read⟩ := readFrom_of_mem_sheets known
  rw [IngestedSheet.indexedOrigins, IngestedSheet.isMerge] at found
  split at found
  next => cases found
  next plain =>
    rw [beq_iff_eq] at plain
    have name : sheet.tableName = sheet.name := by
      rw [IngestedSheet.tableName, IngestedSheet.group?, if_neg plain, Option.getD_none]
    obtain ⟨origin, slot, mem', ⟨label, named, lowered⟩, -⟩ := read.traces _ _ found
    have inside : origin ∈ sheet.schema.columns :=
      List.mem_of_getElem? (Header.column?_of_mem_slots mem')
    rw [read.origins origin inside label named, originName, Text.lower_lower] at lowered
    refine ⟨plain, name ▸ kept.origins sheet known origin inside (by rw [named]; rfl) asking asked
      column mem target checked ?_⟩
    rw [name]
    exact lowered

/-- A merge group that answers for a reference is the table that the reference names. -/
theorem group_of_resolve? (kept : WellKept books) {asking : IngestedSheet}
    (asked : asking ∈ sheets books) {column : Column} (mem : column ∈ asking.schema.columns)
    {target : ReferenceTarget} (checked : column.check = some target) {group : String}
    {some : List IngestedSheet} (known : ∀ sheet ∈ some, sheet ∈ sheets books ∧
      sheet.group? = Option.some group) {referenceOnly : Bool} {outcome : MergeOutcome}
    (merged : MergeOutcome.ofSheets? group some referenceOnly = Option.some outcome) {raw : String}
    (found : (outcome.origins.resolve? target.originName raw).isSome) : group = target.table := by
  obtain ⟨origin, slot, mem', ⟨label, named, lowered⟩, -⟩ :=
    MergeOutcome.tracesTo_ofSheets? merged _ _ found
  have inside : origin ∈ outcome.table.schema.columns :=
    List.mem_of_getElem? (Header.column?_of_mem_slots mem')
  obtain ⟨-, bears⟩ := MergeOutcome.ofSheets?_eq_some merged
  obtain ⟨sheet, member, given, mem'', core⟩ := MergeOutcome.core_of_mem_ofSheets? merged inside
  obtain ⟨inLibrary, grouped⟩ := known sheet member
  have name : sheet.tableName = group := by
    rw [IngestedSheet.tableName, grouped, Option.getD_some]
  have isOrigin : given.origin.isSome = true := by
    rw [Column.isSome_origin_of_core core, named]
    rfl
  rw [bears.origins origin inside label named, originName, Text.lower_lower, bears.name] at lowered
  refine name ▸ kept.origins sheet inLibrary given mem'' isOrigin asking asked column mem target
    checked ?_
  rw [name, Column.title_of_core core]
  exact lowered

end Library

theorem CompileState.agreeOn {a b : CompileState} {schema : Schema}
    (enums : ∀ column ∈ schema.columns, column.isEnum = true →
      ∀ name, a.enums.group? name = b.enums.group? name)
    (localization : ∀ column ∈ schema.columns, column.dataType = some .localText →
      ∀ key, a.localization.hasKey key = b.localization.hasKey key)
    (references : ∀ column ∈ schema.columns, ∀ target, column.check = some target → ∀ raw,
      a.references.resolve? target.originName raw = b.references.resolve? target.originName raw)
    (sizes : ∀ slot row, a.sizes.get? schema.name slot row = b.sizes.get? schema.name slot row) :
    a.validationContext.AgreeOn b.validationContext schema :=
  ⟨enums, localization, references, sizes⟩

namespace MergeOutcome

theorem bind_ofSheets? {β : Type} {read : MergeOutcome → Option β}
    (loose : ∀ (outcome : MergeOutcome) (table : MergeTable),
      read { outcome with table := table } = read outcome)
    (group : String) (sheets : List IngestedSheet) (a b : Bool) :
    (ofSheets? group sheets a).bind read = (ofSheets? group sheets b).bind read := by
  have same : ∀ referenceOnly, (ofSheets? group sheets referenceOnly).bind read =
      ((ofSheets? group sheets false).map fun outcome => { outcome with
        table := { outcome.table with referenceOnly := referenceOnly } }).bind read := by
    intro referenceOnly
    congr 1
    rw [ofSheets?, ofSheets?]
    cases sheets.head? with
    | none => rfl
    | some first =>
      cases header : first.schema.merge with
      | none => simp [header]
      | some tuple => simp [header]
  rw [same a, same b]
  cases ofSheets? group sheets false with
  | none => rfl
  | some outcome => exact (loose outcome _).trans (loose outcome _).symm

end MergeOutcome

namespace RunContext

open Library

/-- A run ingests, of all sheets of a library, what suffices for the sheets that it selects; another
one selects all of them. -/
structure PartOf (few many : RunContext) (books : List Workbook) : Prop where
  kept : WellKept books
  all : many.ingestedOf many.selected = Library.sheets books
  rest : many.ingestedOf many.secondary = []
  reaches : many.Reaches
  enough : Suffices (Library.sheets books) (few.ingestedOf few.selected)
    (few.ingestedOf few.secondary)
  targets : (schemasOf few.firstRound).flatMap (few.unknownTargets few.firstRound) = []

namespace PartOf

variable {few many : RunContext} {books : List Workbook}

theorem sheets_many (h : PartOf few many books) : many.sheets = Library.sheets books := by
  rw [sheets, h.all, h.rest, List.append_nil]

theorem admitsAll (h : PartOf few many books) :
    CompileState.empty.AdmitsAll (Library.sheets books) :=
  h.sheets_many ▸ admitsAll_sheets h.reaches.toIngests

theorem ingests (h : PartOf few many books) : few.Ingests :=
  ingests_of_admitsAll (CompileState.admitsAll_of_subperm h.admitsAll h.enough.subperm) h.targets

theorem subset (h : PartOf few many books) : few.sheets ⊆ Library.sheets books :=
  h.enough.subperm.subset

theorem mem_first (h : PartOf few many books) {sheet : IngestedSheet}
    (mem : sheet ∈ few.ingestedOf few.selected) : sheet ∈ Library.sheets books :=
  h.subset (List.mem_append_left _ mem)

/-- A merge group of the first round is there as a whole. -/
theorem filter_sheets (h : PartOf few many books) {group : String}
    (held : ∃ sheet ∈ few.ingestedOf few.selected, sheet.group? = some group) :
    few.sheets.filter (inGroup group) = (Library.sheets books).filter (inGroup group) := by
  have whole := h.enough.whole group held
  have none : (few.ingestedOf few.secondary).filter (inGroup group) = [] := by
    rw [List.filter_eq_nil_iff]
    intro sheet mem grouped
    have first : sheet ∈ (few.ingestedOf few.selected).filter (inGroup group) := by
      rw [whole]
      exact List.mem_filter.2 ⟨h.subset (List.mem_append_right _ mem), grouped⟩
    have names := nodup_names h.ingests
    rw [sheets, List.map_append, List.nodup_append'] at names
    exact names.2.2 (List.mem_map_of_mem (List.mem_filter.1 first).1) (List.mem_map_of_mem mem)
  rw [sheets, List.filter_append, whole, none, List.append_nil]

theorem mergeOutcome?_many (h : PartOf few many books) (group : String) :
    many.secondRound.mergeOutcome? group =
      MergeOutcome.ofSheets? group ((Library.sheets books).filter (inGroup group))
        ((Library.sheets books).filter (inGroup group)).isEmpty := by
  rw [mergeOutcome?_secondRound h.reaches.toIngests, h.sheets_many, h.all]

/-- A merge group of the first round is unified as in the run over everything. -/
theorem mergeOutcome?_eq (h : PartOf few many books) {group : String}
    (held : ∃ sheet ∈ few.ingestedOf few.selected, sheet.group? = some group) :
    few.secondRound.mergeOutcome? group = many.secondRound.mergeOutcome? group := by
  rw [mergeOutcome?_secondRound h.ingests, h.mergeOutcome?_many, h.filter_sheets held,
    h.enough.whole group held]

theorem mem_mergeGroups (h : PartOf few many books) {group : String}
    (mem : group ∈ few.secondRound.mergeGroups) : group ∈ many.secondRound.mergeGroups := by
  rw [mem_mergeGroups_secondRound_iff h.ingests] at mem
  rw [mem_mergeGroups_secondRound_iff h.reaches.toIngests, h.sheets_many]
  obtain ⟨sheet, mem, named⟩ := mem
  exact ⟨sheet, h.subset mem, named⟩

/-- What is found while the groups are unified is found in the run over everything. -/
theorem reaches_few (h : PartOf few many books) : few.Reaches where
  toIngests := h.ingests
  merges := by
    intro outcome mem
    obtain ⟨group, mem, found⟩ := List.mem_filterMap.1 mem
    obtain ⟨whole, foundWhole⟩ :=
      Option.isSome_iff_exists.1 (CompileState.isSome_mergeOutcome? (h.mem_mergeGroups mem))
    have clean := h.reaches.merges whole (List.mem_filterMap.2 ⟨group, h.mem_mergeGroups mem, foundWhole⟩)
    by_cases held : ∃ sheet ∈ few.ingestedOf few.selected, sheet.group? = some group
    · rw [h.mergeOutcome?_eq held, foundWhole] at found
      rw [← Option.some.inj found]
      exact clean
    · -- a group that serves look-ups only is not sharded, and may be there in part
      have none : (few.ingestedOf few.selected).filter (inGroup group) = [] := by
        rw [List.filter_eq_nil_iff]
        exact fun sheet mem grouped => held ⟨sheet, mem, beq_iff_eq.1 grouped⟩
      rw [mergeOutcome?_secondRound h.ingests, none] at found
      rw [h.mergeOutcome?_many] at foundWhole
      have shards : (CompileState.shardMerge outcome.table).2 = [] := by
        rw [CompileState.shardMerge, MergeOutcome.referenceOnly_ofSheets? found]
        simp
      rw [CompileState.mergeProblems, shards, List.append_nil,
        MergeOutcome.diagnostics_ofSheets?_eq_nil_iff found]
      have all := (MergeOutcome.diagnostics_ofSheets?_eq_nil_iff foundWhole).1
        (List.append_eq_nil_iff.1 clean).1
      have sub : (few.sheets.filter (inGroup group)).flatMap (·.schema.columns) ⊆
          ((Library.sheets books).filter (inGroup group)).flatMap (·.schema.columns) := by
        intro column mem
        obtain ⟨sheet, mem, own⟩ := List.mem_flatMap.1 mem
        obtain ⟨mem, grouped⟩ := List.mem_filter.1 mem
        exact List.mem_flatMap.2 ⟨sheet, List.mem_filter.2 ⟨h.subset mem, grouped⟩, own⟩
      exact fun a ha b hb => all a (sub ha) b (sub hb)

section

variable {β : Type} (key : String) {merged : MergeOutcome → Option β}
  (groups : ∀ group some referenceOnly outcome,
    (∀ sheet ∈ some, sheet ∈ Library.sheets books ∧ sheet.group? = Option.some group) →
    MergeOutcome.ofSheets? group some referenceOnly = Option.some outcome →
    (merged outcome).isSome → group = key)
  (loose : ∀ (outcome : MergeOutcome) (table : MergeTable),
    merged { outcome with table := table } = merged outcome)
  (whole : (∃ sheet ∈ Library.sheets books, sheet.group? = some key) →
    few.sheets.filter (inGroup key) = (Library.sheets books).filter (inGroup key))

include groups loose whole

/-- A reading that only one merge group answers is the same in both runs, when that group is there as a
whole. -/
theorem mergeOutcomes_reading_eq (h : PartOf few many books) :
    few.secondRound.mergeOutcomes.findSome? merged =
      many.secondRound.mergeOutcomes.findSome? merged := by
  have answers {some : List IngestedSheet} {group : String} (sub : some ⊆ Library.sheets books)
      (found : ((MergeOutcome.ofSheets? group (some.filter (inGroup group)) false).bind
        merged).isSome) : group = key := by
    obtain ⟨value, found⟩ := Option.isSome_iff_exists.1 found
    obtain ⟨outcome, unified, found⟩ := Option.bind_eq_some_iff.1 found
    refine groups group _ false outcome (fun sheet mem => ?_) unified (by rw [found]; rfl)
    obtain ⟨mem, grouped⟩ := List.mem_filter.1 mem
    exact ⟨sub mem, beq_iff_eq.1 grouped⟩
  have few? (group : String) : (few.secondRound.mergeOutcome? group).bind merged =
      (MergeOutcome.ofSheets? group (few.sheets.filter (inGroup group)) false).bind merged := by
    rw [mergeOutcome?_secondRound h.ingests, MergeOutcome.bind_ofSheets? loose]
  have many? (group : String) : (many.secondRound.mergeOutcome? group).bind merged =
      (MergeOutcome.ofSheets? group ((Library.sheets books).filter (inGroup group)) false).bind
        merged := by
    rw [h.mergeOutcome?_many, MergeOutcome.bind_ofSheets? loose]
  have same : ∀ group ∈ few.secondRound.mergeGroups,
      (few.secondRound.mergeOutcome? group).bind merged =
        (many.secondRound.mergeOutcome? group).bind merged := by
    intro group mem
    rw [few?, many?]
    by_cases own : group = key
    · subst own
      obtain ⟨sheet, mem, named⟩ := (mem_mergeGroups_secondRound_iff h.ingests).1 mem
      rw [whole ⟨sheet, h.subset mem, named⟩]
    · rw [Option.not_isSome_iff_eq_none.1 fun found => own (answers h.subset found),
        Option.not_isSome_iff_eq_none.1 fun found => own (answers (List.Subset.refl _) found)]
  have nodup (state : CompileState) : (state.mergeGroups.map id).Nodup := by
    rw [List.map_id]
    exact CompileState.nodup_mergeGroups _
  rw [CompileState.mergeOutcomes, CompileState.mergeOutcomes, findSome?_filterMap_eq,
    findSome?_filterMap_eq, ← List.head?_filterMap, List.filterMap_congr same, List.head?_filterMap]
  refine findSome?_congr_of_only (k := key) id (nodup _) (nodup _)
    (fun group mem => h.mem_mergeGroups mem) fun group mem found => ?_
  rw [many?] at found
  obtain rfl : group = key := answers (List.Subset.refl _) found
  refine ⟨?_, rfl⟩
  rw [mem_mergeGroups_secondRound_iff h.reaches.toIngests, h.sheets_many] at mem
  obtain ⟨sheet, mem, named⟩ := mem
  have inside : sheet ∈ few.sheets.filter (inGroup group) := by
    rw [whole ⟨sheet, mem, named⟩]
    exact List.mem_filter.2 ⟨mem, beq_iff_eq.2 named⟩
  exact (mem_mergeGroups_secondRound_iff h.ingests).2 ⟨sheet, (List.mem_filter.1 inside).1, named⟩

/-- A reading that only one table or merge group answers is the same in both runs, when that table
is there and that group is there as a whole. -/
theorem reading_eq (h : PartOf few many books) {plain : IngestedSheet → Option β}
    (tables : ∀ sheet ∈ Library.sheets books, (plain sheet).isSome →
      sheet ∈ few.sheets ∧ sheet.name = key) :
    (few.sheets.findSome? plain).or (few.secondRound.mergeOutcomes.findSome? merged) =
      (many.sheets.findSome? plain).or (many.secondRound.mergeOutcomes.findSome? merged) := by
  have sheetsEq : few.sheets.findSome? plain = many.sheets.findSome? plain := by
    rw [h.sheets_many]
    exact findSome?_congr_of_only (·.name) (nodup_names h.ingests) h.admitsAll.nodup h.subset tables
  rw [sheetsEq, h.mergeOutcomes_reading_eq key groups loose whole]

end

/-- The sheets of a shared kind that is asked for are in both runs. -/
theorem mem_sheets_of_asked (h : PartOf few many books) {kind : Kind} (shared : kind ∈ sharedKinds)
    (asked : ∃ sheet ∈ few.ingestedOf few.selected, sheet.schema.needs.asks kind = true)
    {sheet : IngestedSheet} (own : sheet.schema.kind = kind) :
    sheet ∈ few.sheets ↔ sheet ∈ many.sheets := by
  rw [h.sheets_many]
  exact ⟨fun mem => h.subset mem, fun mem => h.enough.kinds kind shared asked sheet mem own⟩

theorem group?_eq (h : PartOf few many books)
    (asked : ∃ sheet ∈ few.ingestedOf few.selected, sheet.schema.needs.enums = true)
    (name : String) : few.mergedState.enums.group? name = many.mergedState.enums.group? name := by
  obtain ⟨groups, nodup⟩ := groups_mergedState h.ingests
  obtain ⟨groups', nodup'⟩ := groups_mergedState h.reaches.toIngests
  rw [EnumRegistry.group?, EnumRegistry.group?, groups, groups']
  refine find?_key_congr nodup nodup' (fun group => ?_) name
  rw [List.mem_flatMap, List.mem_flatMap]
  refine exists_congr fun sheet => and_congr_left fun mem => ?_
  refine h.mem_sheets_of_asked (show Kind.enumeration ∈ sharedKinds by decide) asked ?_
  by_contra other
  rw [EnumRegistry.groupsOf_eq_nil other] at mem
  exact absurd mem List.not_mem_nil

theorem hasKey_eq (h : PartOf few many books)
    (asked : ∃ sheet ∈ few.ingestedOf few.selected, sheet.schema.needs.localization = true)
    (key : String) :
    few.mergedState.localization.hasKey key = many.mergedState.localization.hasKey key := by
  rw [Bool.eq_iff_iff, LocalizationRegistry.hasKey_iff, LocalizationRegistry.hasKey_iff,
    strings_mergedState h.ingests, strings_mergedState h.reaches.toIngests, List.mem_map,
    List.mem_map]
  refine exists_congr fun entry => and_congr_left fun _ => ?_
  rw [List.mem_flatMap, List.mem_flatMap]
  refine exists_congr fun sheet => and_congr_left fun mem => ?_
  refine h.mem_sheets_of_asked (show Kind.localization ∈ sharedKinds by decide) asked ?_
  by_contra other
  rw [LocalizationRegistry.stringsOf_eq_nil other] at mem
  exact absurd mem List.not_mem_nil

/-- Either a merge group or a table that a reference of a selected table names is there. -/
theorem target_is_there (h : PartOf few many books) {asking : IngestedSheet}
    (asked : asking ∈ few.ingestedOf few.selected) {column : Column}
    (mem : column ∈ asking.schema.columns) {target : ReferenceTarget}
    (checked : column.check = some target) :
    ((∃ sheet ∈ Library.sheets books, sheet.group? = some target.table) ∧
      few.sheets.filter (inGroup target.table) =
        (Library.sheets books).filter (inGroup target.table)) ∨
    ((¬ ∃ sheet ∈ Library.sheets books, sheet.group? = some target.table) ∧
      ∀ sheet ∈ Library.sheets books, sheet.name = target.table → sheet ∈ few.sheets) := by
  obtain ⟨given, read⟩ := readFrom_of_mem_sheets (h.mem_first asked)
  have cover := read.needs column mem
  have isGroup : (Catalog.ofWorkbooks books).mergeGroups.contains target.table = true ↔
      ∃ sheet ∈ Library.sheets books, sheet.group? = some target.table :=
    contains_mergeGroups_iff h.kept h.admitsAll.isClean
  cases known : (Catalog.ofWorkbooks books).mergeGroups.contains target.table with
  | true =>
    exact .inl ⟨isGroup.1 known,
      h.enough.merges asking asked target.table (cover.merges target checked known)⟩
  | false =>
    refine .inr ⟨fun group => ?_, fun sheet mem' same => ?_⟩
    · rw [isGroup.2 group] at known
      cases known
    · exact h.enough.tables asking asked target.table (cover.tables target checked known) sheet mem'
        same

/-- A reference of a selected table resolves alike in both runs. -/
theorem resolve?_eq (h : PartOf few many books) {asking : IngestedSheet}
    (asked : asking ∈ few.ingestedOf few.selected) {column : Column}
    (mem : column ∈ asking.schema.columns) {target : ReferenceTarget}
    (checked : column.check = some target) (raw : String) :
    few.mergedState.references.resolve? target.originName raw =
      many.mergedState.references.resolve? target.originName raw := by
  have inLibrary := h.mem_first asked
  have there := h.target_is_there asked mem checked
  rw [resolve?_mergedState h.ingests, resolve?_mergedState h.reaches.toIngests]
  refine h.reading_eq target.table ?_ (fun _ _ => rfl) ?_ ?_
  · intro group some referenceOnly outcome known merged found
    exact group_of_resolve? h.kept inLibrary mem checked known merged found
  · intro group
    rcases there with ⟨-, whole⟩ | ⟨none, -⟩
    · exact whole
    · exact absurd group none
  · intro sheet known found
    obtain ⟨plain, name⟩ := name_of_resolve? h.kept inLibrary mem checked known found
    rcases there with ⟨⟨member, known', named⟩, -⟩ | ⟨-, all⟩
    · exact absurd (name ▸ named) (h.kept.tables sheet known plain member known')
    · exact ⟨all sheet known name, name⟩

/-- The columns of a table that is validated are those of selected sheets. -/
theorem columns_of_target (h : PartOf few many books) {target : ValidationTarget}
    (mem : target ∈ few.mergedState.targets) {column : Column}
    (own : column ∈ target.schema.columns) :
    (∃ sheet ∈ few.ingestedOf few.selected, ∃ given ∈ sheet.schema.columns,
      given.core = column.core) ∧
    (column.isEnum = true → ∃ sheet ∈ few.ingestedOf few.selected,
      ∃ given ∈ sheet.schema.columns, given.isEnum = true) := by
  rcases (mem_targets_iff h.ingests).1 mem with
    ⟨sheet, asked, -, rfl⟩ | ⟨group, outcome, held, found, rfl⟩
  · exact ⟨⟨sheet, asked, column, own, rfl⟩, fun isEnum => ⟨sheet, asked, column, own, isEnum⟩⟩
  · have first : ∀ sheet ∈ few.sheets.filter (inGroup group),
        sheet ∈ few.ingestedOf few.selected := by
      intro sheet mem
      rw [h.filter_sheets held, ← h.enough.whole group held] at mem
      exact (List.mem_filter.1 mem).1
    have inside : column ∈ outcome.table.schema.columns := by
      obtain ⟨shards, same⟩ := CompileState.shardMerge_table outcome.table
      change column ∈ (CompileState.shardMerge outcome.table).1.schema.columns at own
      rw [same] at own
      exact own
    rw [mergeOutcome?_secondRound h.ingests] at found
    constructor
    · obtain ⟨sheet, mem, given, mem', core⟩ := MergeOutcome.core_of_mem_ofSheets? found inside
      exact ⟨sheet, first sheet mem, given, mem', core⟩
    · intro isEnum
      obtain ⟨sheet, mem, given, mem', isEnum⟩ :=
        MergeOutcome.isEnum_of_mem_ofSheets? found inside isEnum
      exact ⟨sheet, first sheet mem, given, mem', isEnum⟩

/-- The element counts of a selected table are the same in both runs. -/
theorem size_eq (h : PartOf few many books) {target : ValidationTarget}
    (mem : target ∈ few.mergedState.targets) (slot row : Nat) :
    few.mergedState.sizes.get? target.schema.name slot row =
      many.mergedState.sizes.get? target.schema.name slot row := by
  have counted : ∀ sheet ∈ Library.sheets books, ∀ name,
      (sheet.indexedSizes.get? name slot row).isSome → sheet.schema.kind ≠ .merge ∧ sheet.name = name := by
    intro sheet known name found
    obtain ⟨given, read⟩ := readFrom_of_mem_sheets known
    rw [IngestedSheet.indexedSizes, IngestedSheet.isMerge] at found
    split at found
    next => cases found
    next plain =>
      rw [beq_iff_eq] at plain
      exact ⟨plain, (read.sizes name slot row found).symm⟩
  rcases (mem_targets_iff h.ingests).1 mem with
    ⟨own, asked, data, rfl⟩ | ⟨group, outcome, held, found, rfl⟩
  · have noGroup : ¬ ∃ sheet ∈ Library.sheets books, sheet.group? = some own.name := by
      rintro ⟨member, known, named⟩
      exact h.kept.tables own (h.mem_first asked) (by rw [data]; decide) member known named
    have name : (ValidationTarget.sheet own.schema own.rows).schema.name = own.name := rfl
    rw [name, size_mergedState h.ingests, size_mergedState h.reaches.toIngests]
    refine h.reading_eq own.name ?_ (fun _ _ => rfl) (fun some => absurd some noGroup) ?_
    · intro group some referenceOnly outcome _ merged found
      exact (MergeOutcome.belongsTo_ofSheets? merged _ _ _ found).symm
    · intro sheet known found
      obtain ⟨-, name⟩ := counted sheet known _ found
      have same := eq_of_key_eq h.admitsAll.nodup known (h.mem_first asked) name
      exact ⟨same ▸ List.mem_append_left _ asked, name⟩
  · have name : (ValidationTarget.merged (CompileState.shardMerge outcome.table).1).schema.name =
        group := CompileState.name_shardMerge found
    rw [name, size_mergedState h.ingests, size_mergedState h.reaches.toIngests]
    refine h.reading_eq group ?_ (fun _ _ => rfl) (fun _ => h.filter_sheets held) ?_
    · intro other some referenceOnly outcome _ merged found
      exact (MergeOutcome.belongsTo_ofSheets? merged _ _ _ found).symm
    · intro sheet known found
      obtain ⟨plain, own⟩ := counted sheet known _ found
      obtain ⟨member, asked, named⟩ := held
      exact absurd (own ▸ named) (h.kept.tables sheet known plain member (h.mem_first asked))

/-- Everything that a selected table is validated against reads the same in both runs. -/
theorem agreeOn (h : PartOf few many books) {target : ValidationTarget}
    (mem : target ∈ few.mergedState.targets) :
    few.mergedState.validationContext.AgreeOn many.mergedState.validationContext
      target.schema := by
  refine CompileState.agreeOn ?_ ?_ ?_ (h.size_eq mem)
  · intro column own isEnum name
    obtain ⟨sheet, asked, given, mem', isEnum⟩ := (h.columns_of_target mem own).2 isEnum
    obtain ⟨_, read⟩ := readFrom_of_mem_sheets (h.mem_first asked)
    exact h.group?_eq ⟨sheet, asked, (read.needs given mem').enums isEnum⟩ name
  · intro column own type key
    obtain ⟨sheet, asked, given, mem', core⟩ := (h.columns_of_target mem own).1
    obtain ⟨_, read⟩ := readFrom_of_mem_sheets (h.mem_first asked)
    have type' : given.dataType = some .localText :=
      (Column.agrees_of_core core).dataType.trans type
    exact h.hasKey_eq ⟨sheet, asked, (read.needs given mem').localization type'⟩ key
  · intro column own check checked raw
    obtain ⟨sheet, asked, given, mem', core⟩ := (h.columns_of_target mem own).1
    have checked' : given.check = some check :=
      (Column.check_of_core core).trans checked
    exact h.resolve?_eq asked mem' checked' raw

end PartOf

end RunContext

end DesignTables
