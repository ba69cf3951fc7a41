import DesignTables.Proofs.Catalog.Companions
import DesignTables.Proofs.Compile.Contents
import Mathlib.Data.List.Pairwise

/-!
# What the two rounds of a run take from a well kept library

The first round takes the workbooks that were chosen, in the order of the library, and with each of
them its companions. The second round takes what the first one asks for and does not hold: all
sheets of a kind that is needed, the whole of a merge group in its order, and every table.
-/
namespace DesignTables

/-- Whether a table needs the sheets of a shared kind. -/
def TableNeeds.asks (needs : TableNeeds) : Kind → Bool
  | .enumeration => needs.enums
  | .localization => needs.localization
  | .merge | .data => false

namespace Library

/-- Two rounds of sheets hold, of all sheets, everything that the first round asks for. -/
structure Suffices (all first second : List IngestedSheet) : Prop where
  subperm : (first ++ second).Subperm all
  /-- The first round holds all of a merge group or nothing. -/
  whole : ∀ group, (∃ sheet ∈ first, sheet.group? = some group) →
    first.filter (inGroup group) = all.filter (inGroup group)
  kinds : ∀ kind ∈ sharedKinds, (∃ sheet ∈ first, sheet.schema.needs.asks kind = true) →
    ∀ sheet ∈ all, sheet.schema.kind = kind → sheet ∈ first ++ second
  merges : ∀ sheet ∈ first, ∀ group ∈ sheet.schema.needs.merges,
    (first ++ second).filter (inGroup group) = all.filter (inGroup group)
  tables : ∀ sheet ∈ first, ∀ name ∈ sheet.schema.needs.tables, ∀ other ∈ all,
    other.name = name → other ∈ first ++ second

variable {books : List Workbook} {b : Workbook}

/-- Two sheets of one name are one sheet. -/
theorem book_eq_of_name (nodup : ((sheets books).map (·.name)).Nodup) {a : Workbook}
    (ha : a ∈ books) (hb : b ∈ books) {sheet other : IngestedSheet} (share : sheet ∈ shares books a)
    (share' : other ∈ shares books b) (same : sheet.name = other.name) : sheet = other :=
  eq_of_key_eq nodup (List.mem_flatMap.2 ⟨a, ha, share⟩) (List.mem_flatMap.2 ⟨b, hb, share'⟩) same

/-- A sheet that shares its name with no other one is in one workbook only. -/
theorem eq_of_shares (nodup : ((sheets books).map (·.name)).Nodup) {a : Workbook}
    (ha : a ∈ books) (hb : b ∈ books) {sheet : IngestedSheet} (share : sheet ∈ shares books a)
    (share' : sheet ∈ shares books b) : a = b := by
  have apart := (List.nodup_flatMap.1 (nodup.of_map _)).2
  have : Std.Symm (Function.onFun List.Disjoint (shares books)) :=
    ⟨fun _ _ h _ first second => h second first⟩
  by_contra other
  exact apart.forall ha hb other share share'

theorem filter_flatMap_shares (some : List Workbook) (sort : IngestedSheet → Bool) :
    (some.flatMap (shares books)).filter sort =
      (some.filter (holds books sort)).flatMap fun book => (shares books book).filter sort := by
  rw [List.filter_flatMap, flatMap_filter_of_empty]
  intro book _ none
  rw [List.filter_eq_nil_iff]
  intro sheet share sorted
  have held := holds_iff.2 ⟨sheet, share, sorted⟩
  rw [none] at held
  cases held

end Library

namespace RunContext

open Library

/-- The run is over some workbooks and their catalog. -/
structure Over (ctx : RunContext) (books : List Workbook) : Prop where
  workbooks : ctx.workbooks = books
  catalog : ctx.catalog = Catalog.ofWorkbooks books

variable {ctx : RunContext} {books : List Workbook}

theorem Over.ingestedOf (h : ctx.Over books) (nodup : (books.map (·.name)).Nodup)
    {some : List Workbook} (sub : some ⊆ books) :
    ctx.ingestedOf (some.map (·.name)) = some.flatMap (shares books) := by
  have found : (some.map (·.name)).filterMap ctx.workbook? = some := by
    have look : ctx.workbook? = fun name => books.find? (·.name == name) := by
      funext name
      rw [workbook?, h.workbooks]
    rw [look]
    exact filterMap_find?_key nodup sub
  rw [RunContext.ingestedOf, sheetsOf, found, List.filterMap_flatMap]
  congr 1
  funext book
  rw [List.filterMap_map, shares, Workbook.ingest, ← h.catalog]
  rfl

theorem Over.known (h : ctx.Over books) {some : List Workbook} (sub : some ⊆ books) :
    ctx.known (some.map (·.name)) = some.map (·.name) := by
  rw [RunContext.known, List.filter_eq_self]
  intro name mem
  obtain ⟨book, known, rfl⟩ := List.mem_map.1 mem
  rw [workbook?, h.workbooks, List.find?_isSome]
  exact ⟨book, sub known, beq_self_eq_true _⟩

/-- Where names are told apart, a workbook is the first of its name. -/
theorem Over.workbook?_of_mem (h : ctx.Over books) (nodup : (books.map (·.name)).Nodup)
    {book : Workbook} (mem : book ∈ books) : ctx.workbook? book.name = some book := by
  rw [workbook?, h.workbooks]
  exact find?_key nodup mem

/-- The sheets of some names are the shares of the first workbooks of these names. -/
theorem Over.mem_ingestedOf_iff (h : ctx.Over books) {names : List String} {sheet : IngestedSheet} :
    sheet ∈ ctx.ingestedOf names ↔ ∃ book ∈ books, book.name ∈ names ∧
      ctx.workbook? book.name = some book ∧ sheet ∈ shares books book := by
  rw [RunContext.mem_ingestedOf_iff, h.catalog]
  constructor
  · rintro ⟨name, listed, book, found, given, mem, ingested⟩
    have first := found
    rw [workbook?, h.workbooks] at first
    obtain rfl : book.name = name := by simpa using List.find?_some first
    exact ⟨book, List.mem_of_find?_eq_some first, listed, found,
      mem_shares_iff.2 ⟨given, mem, ingested⟩⟩
  · rintro ⟨book, -, listed, found, share⟩
    obtain ⟨given, mem, ingested⟩ := mem_shares_iff.1 share
    exact ⟨book.name, listed, book, found, given, mem, ingested⟩

theorem Over.mem_sheets_of_ingested (h : ctx.Over books) {names : List String}
    {sheet : IngestedSheet} (mem : sheet ∈ ctx.ingestedOf names) : sheet ∈ Library.sheets books := by
  obtain ⟨book, known, -, -, share⟩ := h.mem_ingestedOf_iff.1 mem
  exact List.mem_flatMap.2 ⟨book, known, share⟩

/-- The selected workbooks are those of a sort, in the order of the library. -/
structure Selects (ctx : RunContext) (books : List Workbook) (sort : Workbook → Bool) : Prop
    extends Over ctx books where
  selected : ctx.selected = (books.filter sort).map (·.name)

variable {sort : Workbook → Bool}

theorem Selects.ingested (h : ctx.Selects books sort) (kept : WellKept books) :
    ctx.ingestedOf ctx.selected = (books.filter sort).flatMap (shares books) := by
  rw [h.selected]
  exact h.toOver.ingestedOf kept.names (List.filter_subset_self _)

theorem Selects.mem_ingested_iff (h : ctx.Selects books sort) (kept : WellKept books)
    {sheet : IngestedSheet} : sheet ∈ ctx.ingestedOf ctx.selected ↔
      ∃ book ∈ books, sort book = true ∧ sheet ∈ shares books book := by
  rw [h.ingested kept, List.mem_flatMap]
  simp only [List.mem_filter, and_assoc]

/-- The sheets of the first round in their state. -/
structure Holds (state : CompileState) (sheets : List IngestedSheet) : Prop where
  names : ∀ name, state.hasTable name = true ↔ ∃ sheet ∈ sheets, sheet.name = name
  kinds : ∀ kind ≠ Kind.merge, state.hasKind kind = true ↔ ∃ sheet ∈ sheets, sheet.schema.kind = kind
  groups : ∀ group, state.hasMergeGroup group = true ↔ ∃ sheet ∈ sheets, sheet.group? = some group
  schemas : ∀ schema, schema ∈ schemasOf state ↔ ∃ sheet ∈ sheets, sheet.schema = schema

theorem holds_firstRound (h : CompileState.empty.AdmitsAll (ctx.ingestedOf ctx.selected)) :
    Holds ctx.firstRound (ctx.ingestedOf ctx.selected) where
  names name := by
    rw [CompileState.hasTable_iff, names_firstRound h, List.mem_map]
  kinds kind special := by
    rw [CompileState.hasKind, tables_firstRound h, tablesOf, List.any_map, List.any_eq_true]
    simp only [Function.comp, IngestedSheet.asTable, beq_iff_eq, List.mem_filter]
    constructor
    · rintro ⟨sheet, ⟨mem, -⟩, same⟩
      exact ⟨sheet, mem, same⟩
    · rintro ⟨sheet, mem, same⟩
      refine ⟨sheet, ⟨mem, ?_⟩, same⟩
      rw [IngestedSheet.isMerge, same]
      simpa using special
  groups group := by
    rw [CompileState.hasMergeGroup, mergeSheets_firstRound h, pendingOf, List.any_map,
      List.any_eq_true]
    simp only [Function.comp, IngestedSheet.asPending, MergeSheet.group?, beq_iff_eq,
      List.mem_filter]
    constructor
    · rintro ⟨sheet, ⟨mem, merge⟩, same⟩
      rw [IngestedSheet.isMerge, beq_iff_eq] at merge
      exact ⟨sheet, mem, by rw [IngestedSheet.group?, if_pos merge, same]⟩
    · rintro ⟨sheet, mem, same⟩
      have merge := IngestedSheet.kind_of_group? same
      refine ⟨sheet, ⟨mem, by rw [IngestedSheet.isMerge, merge]; rfl⟩, ?_⟩
      rw [IngestedSheet.group?, if_pos merge] at same
      exact same
  schemas schema := by
    rw [schemasOf, List.mem_append, tables_firstRound h, mergeSheets_firstRound h, tablesOf,
      pendingOf, List.map_map, List.map_map, List.mem_map, List.mem_map]
    simp only [Function.comp, IngestedSheet.asTable, IngestedSheet.asPending, List.mem_filter]
    constructor
    · rintro (⟨sheet, ⟨mem, -⟩, same⟩ | ⟨sheet, ⟨mem, -⟩, same⟩) <;> exact ⟨sheet, mem, same⟩
    · rintro ⟨sheet, mem, same⟩
      cases merge : sheet.isMerge with
      | true => exact .inr ⟨sheet, ⟨mem, merge⟩, same⟩
      | false => exact .inl ⟨sheet, ⟨mem, by rw [merge]; rfl⟩, same⟩

theorem loaded_firstRound (h : CompileState.empty.AdmitsAll (ctx.ingestedOf ctx.selected)) :
    ctx.firstRound.loaded = ctx.known ctx.selected := by
  rw [firstRound_eq h]
  exact List.nil_append _

theorem Selects.isLoaded_iff (h : ctx.Selects books sort) (kept : WellKept books)
    (admits : CompileState.empty.AdmitsAll (ctx.ingestedOf ctx.selected)) {book : Workbook}
    (mem : book ∈ books) : ctx.firstRound.isLoaded book.name = true ↔ sort book = true := by
  rw [CompileState.isLoaded, List.contains_iff_mem, loaded_firstRound admits, h.selected,
    h.toOver.known (List.filter_subset_self _), List.mem_map]
  constructor
  · rintro ⟨other, mem', same⟩
    obtain ⟨known, sorted⟩ := List.mem_filter.1 mem'
    rw [← eq_of_key_eq kept.names known mem same]
    exact sorted
  · exact fun sorted => ⟨book, List.mem_filter.2 ⟨mem, sorted⟩, rfl⟩

/-- A table is neither there nor in a workbook exactly when no sheet of the library has its name. -/
theorem Over.isUnknown_iff (h : ctx.Over books)
    (admits : CompileState.empty.AdmitsAll (ctx.ingestedOf ctx.selected)) (name : String) :
    (!ctx.firstRound.hasTable name && (ctx.catalog.workbookOfSheet? name).isNone) = true ↔
      ∀ sheet ∈ Library.sheets books, sheet.name ≠ name := by
  rw [Bool.and_eq_true, h.catalog, workbookOfSheet?_eq, Option.isNone_map,
    Option.isNone_iff_eq_none, List.find?_eq_none]
  constructor
  · rintro ⟨-, none⟩ sheet mem same
    obtain ⟨book, inside, share⟩ := List.mem_flatMap.1 mem
    exact none book inside (holds_iff.2 ⟨sheet, share, beq_iff_eq.2 same⟩)
  · intro none
    constructor
    · rw [Bool.not_eq_true', ← Bool.not_eq_true, (holds_firstRound admits).names]
      rintro ⟨sheet, mem, same⟩
      exact none sheet (h.mem_sheets_of_ingested mem) same
    · intro book inside held
      obtain ⟨sheet, share, same⟩ := holds_iff.1 held
      exact none sheet (List.mem_flatMap.2 ⟨book, inside, share⟩) (beq_iff_eq.1 same)

/-- No reference of a selected table leads nowhere exactly when every table that is referred to is
in the library. -/
theorem Over.unknownTargets_eq_nil_iff (h : ctx.Over books)
    (admits : CompileState.empty.AdmitsAll (ctx.ingestedOf ctx.selected)) :
    (schemasOf ctx.firstRound).flatMap (ctx.unknownTargets ctx.firstRound) = [] ↔
      ∀ asking ∈ ctx.ingestedOf ctx.selected, ∀ name ∈ asking.schema.needs.tables,
        ∃ sheet ∈ Library.sheets books, sheet.name = name := by
  have held := holds_firstRound admits
  rw [List.flatMap_eq_nil_iff]
  simp only [unknownTargets, List.map_eq_nil_iff, List.filter_eq_nil_iff, h.isUnknown_iff admits,
    not_forall, not_not, exists_prop]
  constructor
  · intro all asking mem
    exact all asking.schema ((held.schemas _).2 ⟨asking, mem, rfl⟩)
  · intro all schema mem
    obtain ⟨asking, known, rfl⟩ := (held.schemas schema).1 mem
    exact all asking known

/-- The names of the workbooks that are looked for, before repetitions and what is there are
dropped. -/
def wanted (ctx : RunContext) : List String :=
  ctx.missingKind ctx.firstRound .enumeration (·.enums) ++
    ctx.missingKind ctx.firstRound .localization (·.localization) ++
    (schemasOf ctx.firstRound).flatMap (ctx.missingTargets ctx.firstRound)

theorem secondary_eq (ctx : RunContext) :
    ctx.secondary = ctx.wanted.eraseDups.filter (!ctx.firstRound.isLoaded ·) := rfl

theorem mem_wanted_of_target {schema : Schema} (mem : schema ∈ schemasOf ctx.firstRound)
    {name : String} (missing : name ∈ ctx.missingTargets ctx.firstRound schema) :
    name ∈ ctx.wanted := by
  rw [wanted, List.mem_append]
  exact .inr (List.mem_flatMap.2 ⟨schema, mem, missing⟩)

theorem mem_secondary_iff {name : String} :
    name ∈ ctx.secondary ↔ name ∈ ctx.wanted ∧ ctx.firstRound.isLoaded name = false := by
  rw [secondary_eq, List.mem_filter, List.mem_eraseDups, Bool.not_eq_true']

/-- Whatever is wanted is there after the second round. -/
theorem Over.mem_sheets_of_wanted (h : ctx.Over books)
    (admits : CompileState.empty.AdmitsAll (ctx.ingestedOf ctx.selected)) {book : Workbook}
    (mem : book ∈ books) (own : ctx.workbook? book.name = some book)
    (wanted : book.name ∈ ctx.wanted) {sheet : IngestedSheet} (share : sheet ∈ shares books book) :
    sheet ∈ ctx.sheets := by
  rw [RunContext.sheets, List.mem_append, h.mem_ingestedOf_iff, h.mem_ingestedOf_iff]
  cases loaded : ctx.firstRound.isLoaded book.name with
  | true =>
    rw [CompileState.isLoaded, List.contains_iff_mem, loaded_firstRound admits] at loaded
    exact .inl ⟨book, mem, (List.mem_filter.1 loaded).1, own, share⟩
  | false => exact .inr ⟨book, mem, mem_secondary_iff.2 ⟨wanted, loaded⟩, own, share⟩

/-- Every table that is referred to is taken, if its workbook is the first of its name. -/
theorem Over.mem_sheets_of_name (h : ctx.Over books)
    (nodup : ((Library.sheets books).map (·.name)).Nodup)
    (admits : CompileState.empty.AdmitsAll (ctx.ingestedOf ctx.selected)) {asking : Schema}
    (asked : asking ∈ schemasOf ctx.firstRound) {book : Workbook} (mem : book ∈ books)
    (own : ctx.workbook? book.name = some book) {sheet : IngestedSheet}
    (share : sheet ∈ shares books book) (needed : sheet.name ∈ asking.needs.tables) :
    sheet ∈ ctx.sheets := by
  cases there : ctx.firstRound.hasTable sheet.name with
  | true =>
    obtain ⟨other, mem', same⟩ := ((holds_firstRound admits).names sheet.name).1 there
    have known := List.mem_flatMap.2 ⟨book, mem, share⟩
    obtain rfl := eq_of_key_eq nodup (h.mem_sheets_of_ingested mem') known same
    exact List.mem_append_left _ mem'
  | false =>
    have found : books.find? (holds books (ofName sheet.name)) = some book := by
      cases found : books.find? (holds books (ofName sheet.name)) with
      | none =>
        have held := List.find?_eq_none.1 found book mem
        exact absurd (holds_iff.2 ⟨sheet, share, by rw [ofName, beq_iff_eq]⟩) held
      | some first =>
        obtain ⟨other, share', same⟩ := holds_iff.1 (List.find?_some found)
        have known := List.mem_of_find?_eq_some found
        obtain rfl := book_eq_of_name nodup known mem share' share (beq_iff_eq.1 same)
        rw [eq_of_shares nodup known mem share' share]
    refine h.mem_sheets_of_wanted admits mem own (mem_wanted_of_target asked ?_) share
    rw [missingTargets, List.mem_append]
    refine .inr (List.mem_filterMap.2 ⟨sheet.name, ?_, ?_⟩)
    · rw [List.mem_filter, there]
      exact ⟨needed, rfl⟩
    · rw [h.catalog, workbookOfSheet?_eq, found]
      rfl

theorem nodup_secondary (ctx : RunContext) : ctx.secondary.Nodup := by
  rw [secondary_eq]
  exact (nodup_eraseDups _).sublist List.filter_sublist

/-- The names of the workbooks that hold a table sheet. -/
def tableBooks (books : List Workbook) : List String := namesWith books fun _ => true

theorem namesWith_subset (books : List Workbook) (sort : IngestedSheet → Bool) :
    namesWith books sort ⊆ tableBooks books := by
  refine List.map_subset _ fun book mem => ?_
  obtain ⟨known, held⟩ := List.mem_filter.1 mem
  obtain ⟨sheet, share, -⟩ := holds_iff.1 held
  exact List.mem_filter.2 ⟨known, holds_iff.2 ⟨sheet, share, rfl⟩⟩

/-- Only workbooks with a table sheet are looked for. -/
theorem Over.wanted_subset (h : ctx.Over books) (kept : WellKept books)
    (clean : ∀ sheet ∈ Library.sheets books, sheet.diagnostics = []) :
    ctx.wanted ⊆ tableBooks books := by
  have kind : ∀ kind ∈ sharedKinds, ∀ isNeeded,
      ctx.missingKind ctx.firstRound kind isNeeded ⊆ tableBooks books := by
    intro kind shared isNeeded
    rw [missingKind, h.catalog]
    split
    · rw [workbooksOfKind_eq kept (ne_data_of_mem_sharedKinds shared)]
      exact namesWith_subset books _
    · exact List.nil_subset _
  have targets : ∀ schema, ctx.missingTargets ctx.firstRound schema ⊆ tableBooks books := by
    intro schema name mem
    rw [missingTargets, h.catalog, List.mem_append, List.mem_flatMap, List.mem_filterMap] at mem
    rcases mem with ⟨group, _, mem⟩ | ⟨table, _, found⟩
    · rw [workbooksInGroup_eq kept clean] at mem
      exact namesWith_subset books _ mem
    · rw [workbookOfSheet?_eq] at found
      obtain ⟨book, first, rfl⟩ := Option.map_eq_some_iff.1 found
      exact namesWith_subset books _ (List.mem_map_of_mem
        (List.mem_filter.2 ⟨List.mem_of_find?_eq_some first, List.find?_some first⟩))
  intro name mem
  rw [wanted, List.mem_append, List.mem_append, List.mem_flatMap] at mem
  rcases mem with (mem | mem) | ⟨schema, _, mem⟩
  · exact kind .enumeration (by decide) _ mem
  · exact kind .localization (by decide) _ mem
  · exact targets schema mem

/-- The workbooks of the second round. -/
def secondBooks (ctx : RunContext) : List Workbook := ctx.secondary.filterMap ctx.workbook?

theorem Over.secondary (h : ctx.Over books) (kept : WellKept books)
    (clean : ∀ sheet ∈ Library.sheets books, sheet.diagnostics = []) :
    ctx.secondBooks ⊆ books ∧ ctx.secondary = ctx.secondBooks.map (·.name) := by
  have found : ∀ name ∈ ctx.secondary, ∃ book ∈ books, ctx.workbook? name = some book ∧
      book.name = name := by
    intro name mem
    obtain ⟨book, inside, rfl⟩ :=
      List.mem_map.1 (h.wanted_subset kept clean (mem_secondary_iff.1 mem).1)
    have known := (List.mem_filter.1 inside).1
    exact ⟨book, known, h.workbook?_of_mem kept.names known, rfl⟩
  constructor
  · intro book mem
    obtain ⟨name, mem, same⟩ := List.mem_filterMap.1 mem
    obtain ⟨book', known, same', -⟩ := found name mem
    obtain rfl := Option.some.inj (same.symm.trans same')
    exact known
  · rw [secondBooks]
    generalize ctx.secondary = names at found
    induction names with
    | nil => rfl
    | cons name names ih =>
      obtain ⟨book, _, same, named⟩ := found name List.mem_cons_self
      rw [List.filterMap_cons_some same, List.map_cons, named,
        ← ih fun other mem => found other (List.mem_cons_of_mem _ mem)]

section

variable (h : ctx.Selects books sort) (kept : WellKept books)
  (clean : ∀ sheet ∈ Library.sheets books, sheet.diagnostics = [])
  (nodup : ((Library.sheets books).map (·.name)).Nodup)
  (admits : CompileState.empty.AdmitsAll (ctx.ingestedOf ctx.selected))
  (closed : ∀ a ∈ books, ∀ b ∈ books, sort a = true → Companions books a b → sort b = true)

include h kept clean admits

omit admits in
/-- The sheets of both rounds are those of the chosen and of the looked-for workbooks. -/
theorem Selects.sheets_eq :
    ctx.sheets = (books.filter sort ++ ctx.secondBooks).flatMap (shares books) := by
  obtain ⟨sub, names⟩ := h.toOver.secondary kept clean
  rw [RunContext.sheets, h.ingested kept, names, h.toOver.ingestedOf kept.names sub,
    List.flatMap_append]

/-- No workbook is taken twice. -/
theorem Selects.subperm_books : (books.filter sort ++ ctx.secondBooks).Subperm books := by
  obtain ⟨sub, names⟩ := h.toOver.secondary kept clean
  refine List.Nodup.subperm ?_ ?_
  · rw [List.nodup_append']
    refine ⟨(List.Nodup.of_map _ kept.names).filter _, ?_, ?_⟩
    · exact List.Nodup.of_map (·.name) (names ▸ nodup_secondary ctx)
    · intro book first second
      obtain ⟨mem, sorted⟩ := List.mem_filter.1 first
      have listed : book.name ∈ ctx.secondary := names ▸ List.mem_map_of_mem second
      have new := (mem_secondary_iff.1 listed).2
      rw [(h.isLoaded_iff kept admits mem).2 sorted] at new
      cases new
  · exact List.append_subset.2 ⟨List.filter_subset_self _, sub⟩

omit clean admits in
include closed in
/-- A sort of sheets that companions share is in the first round as a whole or not at all. -/
theorem Selects.whole {some : IngestedSheet → Bool}
    (companions : ∀ a b, holds books some a = true → holds books some b = true →
      Companions books a b) (held : ∃ sheet ∈ ctx.ingestedOf ctx.selected, some sheet = true) :
    (∀ book ∈ books, holds books some book = true → sort book = true) ∧
      (ctx.ingestedOf ctx.selected).filter some = (Library.sheets books).filter some := by
  obtain ⟨sheet, mem, sorted⟩ := held
  obtain ⟨first, known, chosen, share⟩ := (h.mem_ingested_iff kept).1 mem
  have all : ∀ book ∈ books, holds books some book = true → sort book = true :=
    fun book mem' held' => closed first known book mem' chosen
      (companions first book (holds_iff.2 ⟨sheet, share, sorted⟩) held')
  refine ⟨all, ?_⟩
  rw [h.ingested kept, Library.sheets, filter_flatMap_shares, filter_flatMap_shares,
    List.filter_filter]
  congr 1
  refine List.filter_congr fun book mem' => ?_
  cases held' : holds books some book with
  | true => rw [all book mem' held']; rfl
  | false => rfl

omit clean in
/-- The workbooks of a needed kind are wanted, unless a sheet of the kind is there. -/
theorem Selects.mem_wanted_of_kind {kind : Kind} (shared : kind ∈ sharedKinds)
    (asked : ∃ sheet ∈ ctx.ingestedOf ctx.selected, sheet.schema.needs.asks kind = true)
    (new : ctx.firstRound.hasKind kind = false) {book : Workbook} (mem : book ∈ books)
    (held : holds books (ofKind kind) book = true) : book.name ∈ ctx.wanted := by
  have missing : ∀ isNeeded : TableNeeds → Bool, (∀ needs : TableNeeds, needs.asks kind = true →
      isNeeded needs = true) → book.name ∈ ctx.missingKind ctx.firstRound kind isNeeded := by
    intro isNeeded implied
    obtain ⟨sheet, known, asks⟩ := asked
    have some : ((schemasOf ctx.firstRound).any fun schema => isNeeded schema.needs) = true :=
      List.any_eq_true.2 ⟨sheet.schema, ((holds_firstRound admits).schemas _).2 ⟨sheet, known, rfl⟩,
        implied _ asks⟩
    rw [missingKind, some, new, h.toOver.catalog,
      workbooksOfKind_eq kept (ne_data_of_mem_sharedKinds shared)]
    exact (mem_namesWith_iff kept mem).2 held
  rw [wanted, List.mem_append, List.mem_append]
  cases kind with
  | enumeration => exact .inl (.inl (missing _ fun _ asks => asks))
  | localization => exact .inl (.inr (missing _ fun _ asks => asks))
  | merge => exact absurd rfl (ne_merge_of_mem_sharedKinds shared)
  | data => exact absurd rfl (ne_data_of_mem_sharedKinds shared)

omit clean in
include closed in
/-- All sheets of a needed kind are taken. -/
theorem Selects.mem_sheets_of_kind {kind : Kind} (shared : kind ∈ sharedKinds)
    (asked : ∃ sheet ∈ ctx.ingestedOf ctx.selected, sheet.schema.needs.asks kind = true)
    {sheet : IngestedSheet} (mem : sheet ∈ Library.sheets books)
    (own : sheet.schema.kind = kind) : sheet ∈ ctx.sheets := by
  obtain ⟨book, known, share⟩ := List.mem_flatMap.1 mem
  have sorted : ofKind kind sheet = true := beq_iff_eq.2 own
  cases there : ctx.firstRound.hasKind kind with
  | true =>
    obtain ⟨other, mem', same⟩ := ((holds_firstRound admits).kinds kind
      (ne_merge_of_mem_sharedKinds shared)).1 there
    have whole := (h.whole kept closed (fun a b ha hb => .inl ⟨kind, shared, ha, hb⟩)
      ⟨other, mem', beq_iff_eq.2 same⟩).2
    have inFirst : sheet ∈ (ctx.ingestedOf ctx.selected).filter (ofKind kind) := by
      rw [whole]
      exact List.mem_filter.2 ⟨mem, sorted⟩
    exact List.mem_append_left _ (List.mem_filter.1 inFirst).1
  | false =>
    have held := holds_iff.2 ⟨sheet, share, sorted⟩
    exact h.toOver.mem_sheets_of_wanted admits known (h.toOver.workbook?_of_mem kept.names known)
      (h.mem_wanted_of_kind kept admits shared asked there known held) share

omit h clean admits in
theorem filter_namesWith_of_apart {some : IngestedSheet → Bool} {group : String}
    (apart : ∀ book ∈ books, holds books some book = true →
      holds books (inGroup group) book = false) :
    (namesWith books some).filter (namesWith books (inGroup group)).contains = [] := by
  rw [List.filter_eq_nil_iff]
  intro name mem listed
  obtain ⟨book, inside, rfl⟩ := List.mem_map.1 mem
  obtain ⟨known, held⟩ := List.mem_filter.1 inside
  rw [List.contains_iff_mem, mem_namesWith_iff kept known, apart book known held] at listed
  cases listed

omit h clean admits in
theorem filter_namesWith_group (group other : String) :
    CopiesOf (namesWith books (inGroup group))
      ((namesWith books (inGroup other)).filter (namesWith books (inGroup group)).contains) := by
  by_cases same : other = group
  · subst same
    refine ⟨1, ?_⟩
    rw [List.replicate_one, List.flatten_singleton, List.filter_eq_self]
    exact fun name mem => List.contains_iff_mem.2 mem
  · refine ⟨0, filter_namesWith_of_apart kept fun book known held => ?_⟩
    rw [← Bool.not_eq_true]
    exact fun held' => same (group_eq_of_holds kept known held held')

omit h kept clean admits in
theorem copiesOf_nil {α : Type} (xs : List α) {ys : List α} (none : ys = []) : CopiesOf xs ys :=
  ⟨0, none⟩

/-- Of a merge group that is needed as a whole, the workbooks are wanted in their order, possibly
several times over: no other reason brings one of them. -/
theorem Selects.copiesOf_wanted {asking : IngestedSheet}
    (asked : asking ∈ Library.sheets books) {group : String}
    (needed : group ∈ asking.schema.needs.merges) :
    CopiesOf (namesWith books (inGroup group))
      (ctx.wanted.filter (namesWith books (inGroup group)).contains) := by
  have kind : ∀ kind ∈ sharedKinds, ∀ isNeeded, CopiesOf (namesWith books (inGroup group))
      ((ctx.missingKind ctx.firstRound kind isNeeded).filter
        (namesWith books (inGroup group)).contains) := by
    intro kind shared isNeeded
    apply copiesOf_nil
    rw [missingKind, h.toOver.catalog, workbooksOfKind_eq kept (ne_data_of_mem_sharedKinds shared)]
    split
    · exact filter_namesWith_of_apart kept fun book known held =>
        not_holds_group kept known shared held group
    · rfl
  have table : ∀ schema ∈ schemasOf ctx.firstRound, ∀ name ∈ schema.needs.tables,
      ∀ found, ctx.catalog.workbookOfSheet? name = some found →
        (namesWith books (inGroup group)).contains found = false := by
    intro schema mem name referred found at_
    obtain ⟨sheet, mem', rfl⟩ := ((holds_firstRound admits).schemas schema).1 mem
    obtain ⟨own, known', -, share'⟩ := (h.mem_ingested_iff kept).1 mem'
    rw [h.toOver.catalog, workbookOfSheet?_eq] at at_
    obtain ⟨book, first, rfl⟩ := Option.map_eq_some_iff.1 at_
    have known := List.mem_of_find?_eq_some first
    obtain ⟨target, share, named⟩ := holds_iff.1 (List.find?_some first)
    rw [← Bool.not_eq_true, List.contains_iff_mem, mem_namesWith_iff kept known, holds_iff]
    rintro ⟨member, share'', grouped⟩
    rw [inGroup, beq_iff_eq] at grouped
    rw [ofName, beq_iff_eq] at named
    refine kept.targets book known target share member share'' ⟨sheet, ?_, ?_⟩ group grouped asking
      asked needed
    · exact List.mem_flatMap.2 ⟨own, known', share'⟩
    · rw [named]
      exact referred
  rw [wanted, List.filter_append, List.filter_append, List.filter_flatMap]
  refine ((kind .enumeration (by decide) _).append (kind .localization (by decide) _)).append
    (CopiesOf.flatMap fun schema mem => ?_)
  rw [missingTargets, List.filter_append, List.filter_flatMap]
  refine CopiesOf.append (CopiesOf.flatMap fun other _ => ?_) (copiesOf_nil _ ?_)
  · rw [h.toOver.catalog, workbooksInGroup_eq kept clean]
    exact filter_namesWith_group kept group other
  · rw [List.filter_eq_nil_iff]
    intro name mem' listed
    obtain ⟨referred, mem', found⟩ := List.mem_filterMap.1 mem'
    rw [table schema mem referred (List.mem_filter.1 mem').1 name found] at listed
    cases listed

/-- A merge group that is needed and not there is looked for as a whole, in its order. -/
theorem Selects.secondBooks_of_group {asking : IngestedSheet}
    (asked : asking ∈ ctx.ingestedOf ctx.selected) {group : String}
    (needed : group ∈ asking.schema.needs.merges)
    (absent : ∀ book ∈ books, holds books (inGroup group) book = true → sort book = false) :
    ctx.secondBooks.filter (holds books (inGroup group)) =
      books.filter (holds books (inGroup group)) := by
  obtain ⟨sub, names⟩ := h.toOver.secondary kept clean
  obtain ⟨own, known, chosen, share⟩ := (h.mem_ingested_iff kept).1 asked
  have inLibrary : asking ∈ Library.sheets books := List.mem_flatMap.2 ⟨own, known, share⟩
  have nodup : (namesWith books (inGroup group)).Nodup :=
    kept.names.sublist (List.filter_sublist.map _)
  have new : ctx.firstRound.hasMergeGroup group = false := by
    rw [← Bool.not_eq_true, (holds_firstRound admits).groups]
    rintro ⟨sheet, mem, grouped⟩
    obtain ⟨book, known', chosen', share'⟩ := (h.mem_ingested_iff kept).1 mem
    rw [absent book known' (holds_iff.2 ⟨sheet, share', beq_iff_eq.2 grouped⟩)] at chosen'
    cases chosen'
  have some : ctx.wanted.filter (namesWith books (inGroup group)).contains ≠ [] ∨
      namesWith books (inGroup group) = [] := by
    rw [or_iff_not_imp_right]
    intro filled
    obtain ⟨name, mem⟩ := List.exists_mem_of_ne_nil _ filled
    refine List.ne_nil_of_mem (List.mem_filter.2 ⟨?_, List.contains_iff_mem.2 mem⟩)
    refine mem_wanted_of_target
      (((holds_firstRound admits).schemas _).2 ⟨asking, asked, rfl⟩) ?_
    rw [missingTargets, List.mem_append, List.mem_flatMap]
    refine .inl ⟨group, List.mem_filter.2 ⟨needed, by rw [new]; rfl⟩, ?_⟩
    rw [h.toOver.catalog, workbooksInGroup_eq kept clean]
    exact mem
  have listed : ctx.secondary.filter (namesWith books (inGroup group)).contains =
      namesWith books (inGroup group) := by
    rw [secondary_eq, List.filter_comm, filter_eraseDups,
      (h.copiesOf_wanted kept clean admits inLibrary needed).eraseDups nodup some,
      List.filter_eq_self]
    intro name mem
    obtain ⟨book, inside, rfl⟩ := List.mem_map.1 mem
    obtain ⟨known', held⟩ := List.mem_filter.1 inside
    rw [Bool.not_eq_true', ← Bool.not_eq_true, h.isLoaded_iff kept admits known',
      absent book known' held]
    exact Bool.false_ne_true
  apply eq_of_map_key_eq kept.names
  · exact fun book mem => sub (List.mem_filter.1 mem).1
  · exact List.filter_subset_self _
  · rw [names, List.filter_map] at listed
    rw [← namesWith, ← listed]
    congr 1
    refine List.filter_congr fun book mem => ?_
    rw [Bool.eq_iff_iff, Function.comp, List.contains_iff_mem, mem_namesWith_iff kept (sub mem)]

include closed in
/-- A merge group that is needed is taken as a whole, in its order. -/
theorem Selects.filter_sheets_of_group {asking : IngestedSheet}
    (asked : asking ∈ ctx.ingestedOf ctx.selected) {group : String}
    (needed : group ∈ asking.schema.needs.merges) :
    ctx.sheets.filter (inGroup group) = (Library.sheets books).filter (inGroup group) := by
  rw [h.sheets_eq kept clean, Library.sheets, filter_flatMap_shares, filter_flatMap_shares,
    List.filter_append, List.filter_filter]
  congr 1
  by_cases there : ∃ book ∈ books, holds books (inGroup group) book = true ∧ sort book = true
  · obtain ⟨first, known, held, chosen⟩ := there
    have all : ∀ book ∈ books, holds books (inGroup group) book = true → sort book = true :=
      fun book mem held' => closed first known book mem chosen (.inr ⟨group, held, held'⟩)
    have none : ctx.secondBooks.filter (holds books (inGroup group)) = [] := by
      rw [List.filter_eq_nil_iff]
      intro book mem held'
      have nodup := nodup_of_subperm (h.subperm_books kept clean admits)
        (List.Nodup.of_map _ kept.names)
      have known' := (h.toOver.secondary kept clean).1 mem
      exact (List.nodup_append'.1 nodup).2.2
        (List.mem_filter.2 ⟨known', all book known' held'⟩) mem
    rw [none, List.append_nil]
    refine List.filter_congr fun book mem => ?_
    cases held' : holds books (inGroup group) book with
    | true => rw [all book mem held']; rfl
    | false => rfl
  · have absent : ∀ book ∈ books, holds books (inGroup group) book = true → sort book = false :=
      fun book mem held => Bool.eq_false_iff.2 fun chosen => there ⟨book, mem, held, chosen⟩
    have none : (books.filter fun book => holds books (inGroup group) book && sort book) = [] := by
      rw [List.filter_eq_nil_iff]
      intro book mem both
      rw [Bool.and_eq_true] at both
      rw [absent book mem both.1] at both
      cases both.2
    rw [none, h.secondBooks_of_group kept clean admits asked needed absent, List.nil_append]

include nodup closed in
/-- Over a well kept library the two rounds take everything that the selected tables ask for. -/
theorem Selects.suffices :
    Suffices (Library.sheets books) (ctx.ingestedOf ctx.selected) (ctx.ingestedOf ctx.secondary) where
  subperm := by
    rw [← RunContext.sheets, h.sheets_eq kept clean]
    exact subperm_flatMap (h.subperm_books kept clean admits) _
  whole group := by
    rintro ⟨sheet, mem, grouped⟩
    exact (h.whole kept closed (fun a b ha hb => .inr ⟨group, ha, hb⟩)
      ⟨sheet, mem, beq_iff_eq.2 grouped⟩).2
  kinds _ shared asked _ mem own := h.mem_sheets_of_kind kept admits closed shared asked mem own
  merges _ asked _ needed := h.filter_sheets_of_group kept clean admits closed asked needed
  tables asking asked _ needed _ mem same := by
    obtain ⟨book, known, share⟩ := List.mem_flatMap.1 mem
    exact h.toOver.mem_sheets_of_name nodup admits
      (((holds_firstRound admits).schemas _).2 ⟨asking, asked, rfl⟩) known
      (h.toOver.workbook?_of_mem kept.names known) share (same ▸ needed)

end

end RunContext

end DesignTables
