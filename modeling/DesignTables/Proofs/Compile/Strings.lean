import DesignTables.Proofs.Compile.Integrity
import DesignTables.Proofs.Compile.Rounds
import DesignTables.Proofs.Header.Links
import DesignTables.Proofs.Output.Values
import DesignTables.Proofs.Registry.Languages

/-!
# The localized strings of a run that writes

Its registry holds one string for every row of its localization tables, those that serve look-ups
only among them. So each key has one table and one row behind it, the languages are those for which
some table with rows has a column, and the file of a language lists all keys.
-/
namespace DesignTables

namespace LoadedTable

/-- A row of a localization table defines its key. -/
structure Defines (table : LoadedTable) (row : TableRow) (key : String) : Prop where
  kind : table.schema.kind = .localization
  mem : row ∈ table.rows
  key : table.schema.key.map row.value = some key

/-- The columns of a localization table that hold a language each. -/
def languageColumns (table : LoadedTable) : List (Column × Nat) :=
  table.schema.exported.filter fun (_, slot) => table.schema.key ≠ some slot

/-- The languages of a localization table. -/
def languages (table : LoadedTable) : List String := table.languageColumns.map (·.1.title)

/-- A row has a text in a language: what it holds in the column of the language, and nothing where
the table has no such column. -/
structure Tells (table : LoadedTable) (row : TableRow) (language text : String) : Prop where
  held : ∀ column slot, (column, slot) ∈ table.languageColumns → column.title = language →
    text = row.value slot
  missing : language ∉ table.languages → text = ""

/-- The strings that a table defines. -/
def strings (table : LoadedTable) : List LocalizedString :=
  if table.schema.kind == .localization then
    match table.schema.key with
    | some keySlot => table.rows.map (LocalizationRegistry.rowOf table.schema keySlot)
    | none => []
  else []

variable {table : LoadedTable} {row : TableRow} {language key : String}

theorem mem_strings_iff {entry : LocalizedString} :
    entry ∈ table.strings ↔ table.schema.kind = .localization ∧
      ∃ keySlot, table.schema.key = some keySlot ∧
        ∃ row ∈ table.rows, LocalizationRegistry.rowOf table.schema keySlot row = entry := by
  rw [strings]
  split
  next kind =>
    rw [and_iff_right (beq_iff_eq.1 kind)]
    cases table.schema.key with
    | none => simp
    | some keySlot => simp
  next other => exact iff_of_false List.not_mem_nil fun h => other (beq_iff_eq.2 h.1)

theorem languageColumns_eq {keySlot : Nat} (key : table.schema.key = some keySlot) :
    table.languageColumns = table.schema.exported.filter (·.2 ≠ keySlot) := by
  rw [languageColumns, key]
  refine List.filter_congr fun given _ => ?_
  simp [eq_comm]

theorem texts_rowOf {keySlot : Nat} (key : table.schema.key = some keySlot) :
    (LocalizationRegistry.rowOf table.schema keySlot row).texts =
      table.languageColumns.map fun (column, slot) => (column.title, row.value slot) := by
  rw [languageColumns_eq key]
  rfl

theorem languages_rowOf {keySlot : Nat} (key : table.schema.key = some keySlot) (row : TableRow) :
    (LocalizationRegistry.rowOf table.schema keySlot row).texts.map (·.1) = table.languages := by
  rw [texts_rowOf key, languages, List.map_map]
  rfl

theorem nodup_languages (titles : (table.schema.columns.map (·.title)).Nodup) :
    table.languages.Nodup := by
  have slots : table.schema.slots.map (·.1.title) = table.schema.columns.map (·.title) := by
    have own : (fun given : Column × Nat => given.1.title) = (·.title) ∘ Prod.fst := rfl
    rw [Schema.slots, own, ← List.map_map, List.zipIdx_map_fst]
  rw [← slots] at titles
  refine titles.sublist (List.Sublist.map _ ?_)
  exact List.filter_sublist.trans List.filter_sublist

/-- The text of a row in a language is what the row holds for it. -/
theorem tells_rowOf {keySlot : Nat} (key : table.schema.key = some keySlot)
    (titles : (table.schema.columns.map (·.title)).Nodup) (row : TableRow) (language : String) :
    table.Tells row language
      (((LocalizationRegistry.rowOf table.schema keySlot row).text? language).getD "") where
  held column slot mem same := by
    have apart := nodup_languages titles
    rw [← languages_rowOf key row] at apart
    have text : (language, row.value slot) ∈
        (LocalizationRegistry.rowOf table.schema keySlot row).texts := by
      rw [texts_rowOf key]
      exact List.mem_map.2 ⟨(column, slot), mem, congrArg (·, row.value slot) same⟩
    rw [LocalizedString.text?_of_mem apart text, Option.getD_some]
  missing absent := by
    rw [← languages_rowOf key row] at absent
    rw [LocalizedString.text?_of_absent absent, Option.getD_none]

end LoadedTable

namespace CompileState

/-- What a state without problems knows of its localization tables. -/
structure KeepsStrings (state : CompileState) : Prop where
  strings : state.localization.strings = state.tables.flatMap (·.strings)
  keys : (state.localization.strings.map (·.key)).Nodup
  names : (state.tables.map (·.schema.name)).Nodup
  keyed : ∀ table ∈ state.tables, table.schema.kind = .localization → table.schema.key.isSome
  titles : ∀ table ∈ state.tables, (table.schema.columns.map (·.title)).Nodup

/-- The entries of the file of a language tell every key once, in ascending order, with what the
one row that defines it holds. -/
structure ListsStrings (state : CompileState) (language : String) (listed : List ListedString) :
    Prop where
  ascending : (listed.map (·.key)).Pairwise (· < ·)
  complete : ∀ key, key ∈ listed.map (·.key) ↔ state.localization.hasKey key = true
  told : ∀ entry ∈ listed, ∃ table ∈ state.tables, ∃ row,
    table.Defines row entry.key ∧ entry.category = table.schema.name ∧
      table.Tells row language entry.text ∧
      ∀ other ∈ state.tables, ∀ again, other.Defines again entry.key → other = table ∧ again = row

namespace KeepsStrings

variable {state : CompileState} {language key : String} {table other : LoadedTable}
  {row again : TableRow}

theorem mem_strings_iff (h : state.KeepsStrings) {entry : LocalizedString} :
    entry ∈ state.localization.strings ↔ ∃ table ∈ state.tables, entry ∈ table.strings := by
  rw [h.strings, List.mem_flatMap]

/-- A row that defines a key is one of the strings. -/
theorem exists_string (h : state.KeepsStrings) (mem : table ∈ state.tables)
    (defines : table.Defines row key) :
    ∃ keySlot, table.schema.key = some keySlot ∧ row.value keySlot = key ∧
      LocalizationRegistry.rowOf table.schema keySlot row ∈ state.localization.strings := by
  obtain ⟨keySlot, named, own⟩ := Option.map_eq_some_iff.1 defines.key
  refine ⟨keySlot, named, own, h.mem_strings_iff.2 ⟨table, mem, ?_⟩⟩
  exact LoadedTable.mem_strings_iff.2 ⟨defines.kind, keySlot, named, row, defines.mem, rfl⟩

/-- A key is registered exactly when some row defines it. -/
theorem hasKey_iff (h : state.KeepsStrings) :
    state.localization.hasKey key = true ↔
      ∃ table ∈ state.tables, ∃ row, table.Defines row key := by
  rw [LocalizationRegistry.hasKey_iff, List.mem_map]
  constructor
  · rintro ⟨entry, known, rfl⟩
    obtain ⟨table, mem, own⟩ := h.mem_strings_iff.1 known
    obtain ⟨kind, keySlot, named, row, stored, rfl⟩ := LoadedTable.mem_strings_iff.1 own
    exact ⟨table, mem, row, kind, stored, by rw [named]; rfl⟩
  · rintro ⟨table, mem, row, defines⟩
    obtain ⟨keySlot, -, own, known⟩ := h.exists_string mem defines
    exact ⟨_, known, own⟩

/-- One row alone defines a key. -/
theorem only (h : state.KeepsStrings) (mem : table ∈ state.tables) (mem' : other ∈ state.tables)
    (defines : table.Defines row key) (defines' : other.Defines again key) :
    other = table ∧ again = row := by
  obtain ⟨keySlot, named, own, known⟩ := h.exists_string mem defines
  obtain ⟨keySlot', named', own', known'⟩ := h.exists_string mem' defines'
  have same := eq_of_key_eq h.keys known' known (own'.trans own.symm)
  have table_eq : other = table :=
    eq_of_key_eq h.names mem' mem (congrArg LocalizedString.category same)
  subst table_eq
  rw [named] at named'
  obtain rfl := Option.some.inj named'
  have distinct := h.keys
  rw [h.strings, List.map_flatMap] at distinct
  have inside := (List.nodup_flatMap.1 distinct).1 other mem
  rw [LoadedTable.strings, if_pos (beq_iff_eq.2 defines.kind), named, List.map_map] at inside
  exact ⟨rfl, eq_of_key_eq inside defines'.mem defines.mem (own'.trans own.symm)⟩

theorem mem_languages_iff (h : state.KeepsStrings) :
    language ∈ state.localization.languages ↔ ∃ table ∈ state.tables,
      table.schema.kind = .localization ∧ table.rows ≠ [] ∧ language ∈ table.languages := by
  rw [LocalizationRegistry.mem_languages_iff]
  constructor
  · rintro ⟨entry, known, spoken⟩
    obtain ⟨table, mem, own⟩ := h.mem_strings_iff.1 known
    obtain ⟨kind, keySlot, named, row, stored, rfl⟩ := LoadedTable.mem_strings_iff.1 own
    rw [LoadedTable.languages_rowOf named] at spoken
    exact ⟨table, mem, kind, List.ne_nil_of_mem stored, spoken⟩
  · rintro ⟨table, mem, kind, filled, spoken⟩
    obtain ⟨row, stored⟩ := List.exists_mem_of_ne_nil _ filled
    obtain ⟨keySlot, named⟩ := Option.isSome_iff_exists.1 (h.keyed table mem kind)
    refine ⟨LocalizationRegistry.rowOf table.schema keySlot row,
      h.mem_strings_iff.2 ⟨table, mem, ?_⟩, ?_⟩
    · exact LoadedTable.mem_strings_iff.2 ⟨kind, keySlot, named, row, stored, rfl⟩
    · rw [LoadedTable.languages_rowOf named]
      exact spoken

theorem listsStrings (h : state.KeepsStrings) (language : String) :
    state.ListsStrings language (state.localization.listed language) where
  ascending := LocalizationRegistry.pairwise_keys_listed h.keys language
  complete _ := LocalizationRegistry.mem_keys_listed_iff
  told entry mem := by
    obtain ⟨given, known, rfl⟩ := List.mem_map.1 mem
    obtain ⟨table, loaded, own⟩ :=
      h.mem_strings_iff.1 (LocalizationRegistry.mem_sorted.1 known)
    obtain ⟨kind, keySlot, named, row, stored, rfl⟩ := LoadedTable.mem_strings_iff.1 own
    have defines : table.Defines row (row.value keySlot) := ⟨kind, stored, by rw [named]; rfl⟩
    refine ⟨table, loaded, row, defines, rfl, ?_, fun other mem' again defines' => ?_⟩
    · exact LoadedTable.tells_rowOf named (h.titles table loaded) row language
    · exact h.only loaded mem' defines defines'

end KeepsStrings

/-- In a table that is validated without a problem, every element of a localized text is a key. -/
theorem hasKey_of_clean {state : CompileState} {target : ValidationTarget}
    (none : (TableValidation.ofTarget target state.validationContext).diagnostics = [])
    {column : Column} {slot : Nat} (mem : (column, slot) ∈ target.schema.slots)
    (localized : column.dataType = some .localText) {row : TableRow} (stored : row ∈ target.rows)
    {element : String} (part : element ∈ column.elements (row.value slot)) :
    state.localization.hasKey element = true := by
  obtain ⟨position, place⟩ := exists_mem_zipIdx stored
  have cell := TableValidation.diagnostics_ofTarget_eq_nil_iff.1 none row position place column slot
    mem
  have known := (CheckedCell.check_problems_eq_nil_iff.1 cell).2.2.1
  exact CheckedCell.hasKey_of_checkLocalText known localized part

end CompileState

namespace RunContext

variable {ctx : RunContext}

/-- The strings of a run are those of its tables. -/
theorem strings_tables (h : ctx.Ingests) :
    ctx.mergedState.localization.strings = ctx.mergedState.tables.flatMap (·.strings) := by
  have plain : ∀ (some : List IngestedSheet) (referenceOnly : Bool), some ⊆ ctx.sheets →
      (tablesOf some referenceOnly).flatMap (·.strings) =
        some.flatMap LocalizationRegistry.stringsOf := by
    intro some referenceOnly sub
    have merge : ∀ sheet ∈ some, (!sheet.isMerge) = false →
        LocalizationRegistry.stringsOf sheet = [] := by
      intro sheet _ merge
      rw [Bool.not_eq_false', IngestedSheet.isMerge, beq_iff_eq] at merge
      exact LocalizationRegistry.stringsOf_eq_nil (by rw [merge]; exact Kind.noConfusion)
    rw [tablesOf, List.flatMap_map, ← flatMap_filter_of_empty merge]
    refine List.flatMap_congr fun sheet mem => ?_
    obtain ⟨_, _, -, clean⟩ := readFrom_of_sheet h (sub (List.mem_filter.1 mem).1)
    rw [LocalizationRegistry.stringsOf, clean, Bool.true_and]
    rfl
  rw [strings_mergedState h, tables_mergedState h, List.flatMap_append,
    plain _ _ (List.subset_append_left _ _), plain _ _ (List.subset_append_right _ _),
    ← List.flatMap_append, ← sheets]

theorem keepsStrings_mergedState (h : ctx.Ingests) : ctx.mergedState.KeepsStrings := by
  have read : ∀ table ∈ ctx.mergedState.tables, ∃ given origin,
      Header.compile? given origin ctx.catalog.mergeGroups = some table.schema ∧
        table.schema.isClean = true := by
    intro table mem
    have schema := List.mem_map_of_mem (f := LoadedTable.schema) mem
    rw [schemas_mergedState h] at schema
    obtain ⟨sheet, known, same⟩ := List.mem_map.1 schema
    rw [← same]
    exact readFrom_of_sheet h (List.mem_filter.1 known).1
  refine ⟨strings_tables h, ?_, nodup_tables h, fun table mem kind => ?_, fun table mem => ?_⟩
  · rw [strings_mergedState h]
    exact (LocalizationRegistry.takeSheets_empty_iff _).1.1 (admitsAll_sheets h).localization
  · obtain ⟨_, _, compiled, clean⟩ := read table mem
    exact Header.isSome_key_of_compile? compiled clean
      (Header.valueOnly_of_compile? compiled (.inr kind))
  · obtain ⟨_, _, compiled, clean⟩ := read table mem
    exact Header.nodup_titles_of_compile? compiled clean

end RunContext

/-- The file of a language: it bears the name of the language and holds some entries. -/
structure OutputFile.HoldsStrings (file : OutputFile) (options : Options) (language : String)
    (entries : List ListedString) : Prop where
  path : file.path = Path.join options.outputRoot ("string_" ++ language ++ ".json")
  shared : file.table = none
  content : file.content.HoldsList (entries.map (·.json))

/-- Each language of a registry has one file. -/
theorem Output.holdsStrings_stringFiles (options : Options) (registry : LocalizationRegistry) :
    List.Forall₂ (fun language file =>
        OutputFile.HoldsStrings file options language (registry.listed language))
      registry.languages (stringFiles options registry) := by
  rw [stringFiles, List.forall₂_map_right_iff, List.forall₂_same]
  intro language _
  exact ⟨rfl, rfl, registry.holdsList_render language⟩

namespace Run

variable {ctx : RunContext}

/-- A run that writes has the files of strings of the registry that it ends with. -/
theorem stringFiles_of_clean (clean : (ofContext ctx).finalState.diagnostics = [])
    (wet : ctx.dryRun = false) :
    ((ofContext ctx).files ctx).filter (·.role == .localization) =
      Output.stringFiles ctx.options (ofContext ctx).finalState.localization := by
  have emits := stage_of_clean clean
  obtain ⟨reaches, valid⟩ := stage_eq_emit_iff.1 emits
  have written : (ofContext ctx).files ctx =
      (Validated.ofState ctx.mergedState).output.files ctx.options := by
    rw [files, validated_eq_some_iff.2 ⟨reaches, rfl⟩]
    dsimp only
    rw [valid, wet]
    rfl
  rw [written, Output.filter_localization_files, finalState_of_emit emits, Validated.output]

/-- In a run that writes, every element of a localized text of a validated table is a key, and a
key is what a row of some localization table defines. The languages are the columns of the
localization tables with rows, each has one file, and the file holds all keys in ascending order
with what their rows say. -/
theorem strings_complete (clean : (ofContext ctx).finalState.diagnostics = [])
    (wet : ctx.dryRun = false) :
    let state := (ofContext ctx).finalState
    (∀ target ∈ state.targets, ∀ column slot, (column, slot) ∈ target.schema.slots →
      column.dataType = some .localText → ∀ row ∈ target.rows,
        ∀ element ∈ column.elements (row.value slot),
          state.localization.hasKey element = true) ∧
    (∀ key, state.localization.hasKey key = true ↔
      ∃ table ∈ state.tables, ∃ row, table.Defines row key) ∧
    ∃ (languages : List String) (listed : String → List ListedString),
      languages.Nodup ∧
      (∀ language, language ∈ languages ↔ ∃ table ∈ state.tables,
        table.schema.kind = .localization ∧ table.rows ≠ [] ∧ language ∈ table.languages) ∧
      List.Forall₂ (fun language file =>
          OutputFile.HoldsStrings file ctx.options language (listed language))
        languages (((ofContext ctx).files ctx).filter (·.role == .localization)) ∧
      ∀ language ∈ languages, state.ListsStrings language (listed language) := by
  have emits := stage_of_clean clean
  obtain ⟨reaches, valid⟩ := stage_eq_emit_iff.1 emits
  obtain ⟨-, none⟩ := isClean_ofState_iff.1 valid
  have keeps := RunContext.keepsStrings_mergedState reaches.toIngests
  have held := Output.holdsStrings_stringFiles ctx.options (ofContext ctx).finalState.localization
  rw [← stringFiles_of_clean clean wet] at held
  rw [finalState_of_emit emits] at held ⊢
  generalize (ofContext ctx).files ctx = files at held
  generalize ctx.mergedState = state at keeps none held
  -- Validating adds problems to a state, and leaves its tables and registries alone.
  have keeps : (Validated.ofState state).state.KeepsStrings :=
    ⟨keeps.strings, keeps.keys, keeps.names, keeps.keyed, keeps.titles⟩
  refine ⟨?_, fun key => keeps.hasKey_iff, ?_⟩
  · intro target mem column slot mem' localized row stored element part
    exact CompileState.hasKey_of_clean (none target mem) mem' localized stored part
  · exact ⟨_, _, LocalizationRegistry.nodup_languages _, fun language => keeps.mem_languages_iff,
      held, fun language _ => keeps.listsStrings language⟩

/-- Goods with names, whose texts are in two sheets: one has no German. -/
def namedGoods : List Workbook :=
  [Library.tableBook "goods" [("name", "localtext"), ("tags[]", "localtext")]
      [["7", "rope", "sharp,new"], ["8", "axe", ""]],
   Library.bookOf "texts.xlsx"
    [Library.sheetOf "items" "#localtext" "" [("key", "key,string"), ("en", "string"),
      ("de", "string")] [["rope", "Rope", "Seil"], ["axe", "Axe", "Axt"]],
     Library.sheetOf "tags" "#localtext" "" [("key", "key,string"), ("en", "string")]
      [["sharp", "Sharp"], ["new", "New"]]]]

/-- The strings of the goods and their tags in the order of their keys. -/
def goodsStrings : List LocalizedString :=
  [⟨"axe", "items", [("en", "Axe"), ("de", "Axt")]⟩, ⟨"new", "tags", [("en", "New")]⟩,
   ⟨"rope", "items", [("en", "Rope"), ("de", "Seil")]⟩, ⟨"sharp", "tags", [("en", "Sharp")]⟩]

/-- The file of their German texts. -/
def germanFile : String :=
  "[\n\t\x7b\n\t\t\"key\": \"axe\",\n\t\t\"text\": \"Axt\",\n\t\t\"text_category\": \"items\"\n\t\x7d," ++
  "\n\t\x7b\n\t\t\"key\": \"new\",\n\t\t\"text\": \"\",\n\t\t\"text_category\": \"tags\"\n\t\x7d," ++
  "\n\t\x7b\n\t\t\"key\": \"rope\",\n\t\t\"text\": \"Seil\",\n\t\t\"text_category\": \"items\"\n\t\x7d," ++
  "\n\t\x7b\n\t\t\"key\": \"sharp\",\n\t\t\"text\": \"\",\n\t\t\"text_category\": \"tags\"\n\t\x7d]"

set_option maxRecDepth 100000 in
/-- Four keys in two languages, the tags without German texts. -/
theorem strings_complete_goods :
    let ctx := Library.runOver namedGoods
    let run := Run.ofContext ctx
    let state := run.finalState
    let files := (run.files ctx).filter (·.role == .localization)
    (state.localization.strings.map (·.key) = ["rope", "axe", "sharp", "new"] ∧
      state.localization.languages = ["en", "de"] ∧
      files.map (·.path) = ["output/string_en.json", "output/string_de.json"] ∧
      files.getLast?.map (·.content.text) = some germanFile) ∧
    (∀ target ∈ state.targets, ∀ column slot, (column, slot) ∈ target.schema.slots →
      column.dataType = some .localText → ∀ row ∈ target.rows,
        ∀ element ∈ column.elements (row.value slot),
          state.localization.hasKey element = true) ∧
    (∀ key, state.localization.hasKey key = true ↔
      ∃ table ∈ state.tables, ∃ row, table.Defines row key) ∧
    ∃ (languages : List String) (listed : String → List ListedString),
      languages.Nodup ∧
      (∀ language, language ∈ languages ↔ ∃ table ∈ state.tables,
        table.schema.kind = .localization ∧ table.rows ≠ [] ∧ language ∈ table.languages) ∧
      List.Forall₂ (fun language file =>
          OutputFile.HoldsStrings file ctx.options language (listed language))
        languages files ∧
      ∀ language ∈ languages, state.ListsStrings language (listed language) := by
  intro ctx run state files
  have clean : state.diagnostics = [] := by decide +kernel
  have keys : state.localization.strings.map (·.key) = ["rope", "axe", "sharp", "new"] := by
    decide +kernel
  have languages : state.localization.languages = ["en", "de"] := by decide +kernel
  have sorted : state.localization.sorted = goodsStrings := by
    apply LocalizationRegistry.sorted_eq
    · decide +kernel
    · decide
  have written : files = Output.stringFiles ctx.options state.localization :=
    stringFiles_of_clean clean rfl
  refine ⟨⟨keys, languages, ?_, ?_⟩, strings_complete clean rfl⟩
  · rw [written, Output.stringFiles, languages]
    decide +kernel
  · rw [written, Output.stringFiles, languages]
    simp only [LocalizationRegistry.render, sorted]
    decide +kernel

end Run

end DesignTables
