import DesignTables.Compile.Context
import DesignTables.Proofs.Catalog.Entries

/-!
# Workbooks that can be read apart from the others

In a well kept library a workbook holds one special kind of sheets at most and shares of one merge
group at most. Then its catalog entry tells everything that a selection has to know of it: the
companions of a workbook are the workbooks with sheets of its kind or of its group, and what a
selection brings is closed under them.
-/
namespace DesignTables

namespace IngestedSheet

/-- The merge group that a sheet is a share of. -/
def group? (sheet : IngestedSheet) : Option String :=
  if sheet.schema.kind = .merge then sheet.schema.merge.map (·.name) else none

/-- The name of the table that the rows of a sheet go into: that of its merge group, or its own. -/
def tableName (sheet : IngestedSheet) : String := sheet.group?.getD sheet.name

variable {sheet : IngestedSheet} {given : Sheet} {mergeGroups : List String}

theorem group?_eq_of_readFrom (h : sheet.ReadFrom given mergeGroups) (clean : sheet.diagnostics = []) :
    sheet.group? = given.groupName? := by
  rw [group?, Sheet.groupName?, h.kind]
  simp only [Option.some.injEq]
  split
  next merge =>
    obtain ⟨header, found, named⟩ := h.group merge (h.header clean)
    rw [found, named]
    rfl
  next => rfl

theorem kind_of_group? {group : String} (h : sheet.group? = some group) :
    sheet.schema.kind = .merge := by
  by_contra other
  rw [group?, if_neg other] at h
  cases h

end IngestedSheet

namespace Library

/-- The table sheets of a workbook among others, ingested. -/
def shares (books : List Workbook) (book : Workbook) : List IngestedSheet :=
  book.ingest (Catalog.ofWorkbooks books).mergeGroups

/-- The table sheets of all workbooks, ingested. -/
def sheets (books : List Workbook) : List IngestedSheet := books.flatMap (shares books)

/-- Whether a workbook holds a table sheet of some sort. -/
def holds (books : List Workbook) (sort : IngestedSheet → Bool) (book : Workbook) : Bool :=
  (shares books book).any sort

/-- What keeps workbooks, sheets, groups and tables from being taken for one another. -/
structure WellKept (books : List Workbook) : Prop where
  /-- No two workbooks share a name. -/
  names : (books.map (·.name)).Nodup
  /-- The sheets of a workbook are of one kind, plain data aside. -/
  kinds : ∀ book ∈ books, ∀ a ∈ shares books book, ∀ b ∈ shares books book,
    a.schema.kind ≠ .data → b.schema.kind ≠ .data → a.schema.kind = b.schema.kind
  /-- The merge sheets of a workbook are of one group. -/
  groups : ∀ book ∈ books, ∀ a ∈ shares books book, ∀ b ∈ shares books book,
    ∀ group ∈ a.group?, ∀ other ∈ b.group?, group = other
  /-- A column that a reference could mean is in the table that the reference names, letter by
  letter. -/
  origins : ∀ a ∈ sheets books, ∀ column ∈ a.schema.columns, column.origin.isSome →
    ∀ b ∈ sheets books, ∀ asking ∈ b.schema.columns, ∀ target ∈ asking.check,
      Text.lower (a.tableName ++ "/" ++ column.title) = target.originName →
        a.tableName = target.table
  /-- A table that is referred to is in no workbook with a share of such a merge group. -/
  targets : ∀ book ∈ books, ∀ a ∈ shares books book, ∀ b ∈ shares books book,
    (∃ asking ∈ sheets books, a.name ∈ asking.schema.needs.tables) →
      ∀ group ∈ b.group?, ∀ asking ∈ sheets books, group ∉ asking.schema.needs.merges
  /-- No table bears the name of a merge group. -/
  tables : ∀ a ∈ sheets books, a.schema.kind ≠ .merge → ∀ b ∈ sheets books, b.group? ≠ some a.name

set_option synthInstance.maxSize 512 in
instance (books : List Workbook) : Decidable (WellKept books) :=
  decidable_of_iff
    ((books.map (·.name)).Nodup ∧
      (∀ book ∈ books, ∀ a ∈ shares books book, ∀ b ∈ shares books book,
        a.schema.kind ≠ .data → b.schema.kind ≠ .data → a.schema.kind = b.schema.kind) ∧
      (∀ book ∈ books, ∀ a ∈ shares books book, ∀ b ∈ shares books book,
        ∀ group ∈ a.group?, ∀ other ∈ b.group?, group = other) ∧
      (∀ a ∈ sheets books, ∀ column ∈ a.schema.columns, column.origin.isSome →
        ∀ b ∈ sheets books, ∀ asking ∈ b.schema.columns, ∀ target ∈ asking.check,
          Text.lower (a.tableName ++ "/" ++ column.title) = target.originName →
            a.tableName = target.table) ∧
      (∀ book ∈ books, ∀ a ∈ shares books book, ∀ b ∈ shares books book,
        (∃ asking ∈ sheets books, a.name ∈ asking.schema.needs.tables) →
          ∀ group ∈ b.group?, ∀ asking ∈ sheets books, group ∉ asking.schema.needs.merges) ∧
      ∀ a ∈ sheets books, a.schema.kind ≠ .merge → ∀ b ∈ sheets books, b.group? ≠ some a.name)
    ⟨fun ⟨names, kinds, groups, origins, targets, tables⟩ =>
      ⟨names, kinds, groups, origins, targets, tables⟩,
     fun kept => ⟨kept.names, kept.kinds, kept.groups, kept.origins, kept.targets, kept.tables⟩⟩

variable {books : List Workbook} {book : Workbook} {sheet : IngestedSheet}

theorem mem_shares_iff : sheet ∈ shares books book ↔ ∃ given ∈ book.sheets,
    IngestedSheet.ofSheet? given (book.originOf given.name)
      (Catalog.ofWorkbooks books).mergeGroups = some sheet :=
  List.mem_filterMap

theorem readFrom_of_mem_shares (h : sheet ∈ shares books book) :
    ∃ given ∈ book.sheets, sheet.name = given.name ∧
      sheet.ReadFrom given (Catalog.ofWorkbooks books).mergeGroups := by
  obtain ⟨given, mem, ingested⟩ := mem_shares_iff.1 h
  obtain ⟨name, read⟩ := IngestedSheet.readFrom_ofSheet? ingested
  exact ⟨given, mem, name, read⟩

theorem exists_share (books : List Workbook) {given : Sheet} (mem : given ∈ book.sheets)
    (h : (Kind.detect? given.grid).isSome) :
    ∃ sheet ∈ shares books book, sheet.name = given.name ∧
      sheet.ReadFrom given (Catalog.ofWorkbooks books).mergeGroups := by
  rw [← IngestedSheet.isSome_ofSheet? given (book.originOf given.name)
    (Catalog.ofWorkbooks books).mergeGroups] at h
  obtain ⟨sheet, ingested⟩ := Option.isSome_iff_exists.1 h
  obtain ⟨name, read⟩ := IngestedSheet.readFrom_ofSheet? ingested
  exact ⟨sheet, mem_shares_iff.2 ⟨given, mem, ingested⟩, name, read⟩

theorem readFrom_of_mem_sheets (h : sheet ∈ sheets books) :
    ∃ given, sheet.ReadFrom given (Catalog.ofWorkbooks books).mergeGroups := by
  obtain ⟨book, _, mem⟩ := List.mem_flatMap.1 h
  obtain ⟨given, _, _, read⟩ := readFrom_of_mem_shares mem
  exact ⟨given, read⟩

theorem holds_iff {sort : IngestedSheet → Bool} :
    holds books sort book = true ↔ ∃ sheet ∈ shares books book, sort sheet = true :=
  List.any_eq_true

theorem isSome_kind_iff :
    (CatalogEntry.ofWorkbook book).kind.isSome = true ↔ shares books book ≠ [] := by
  constructor
  · intro h
    obtain ⟨kind, found⟩ := Option.isSome_iff_exists.1 h
    obtain ⟨given, mem, detected⟩ := CatalogEntry.kind_of_ofWorkbook found
    obtain ⟨sheet, mem, -⟩ := exists_share books mem (by rw [detected]; rfl)
    exact List.ne_nil_of_mem mem
  · intro h
    obtain ⟨sheet, mem⟩ := List.exists_mem_of_ne_nil _ h
    obtain ⟨given, mem, -, read⟩ := readFrom_of_mem_shares mem
    exact CatalogEntry.isSome_kind_ofWorkbook mem (by rw [read.kind]; rfl)

/-- In a well kept workbook the kind of the entry is that of every sheet but plain data. -/
theorem kind_eq_iff (kept : WellKept books) (mem : book ∈ books) {kind : Kind}
    (special : kind ≠ .data) :
    (CatalogEntry.ofWorkbook book).kind = some kind ↔
      holds books (·.schema.kind == kind) book = true := by
  rw [holds_iff]
  simp only [beq_iff_eq]
  constructor
  · intro found
    obtain ⟨given, mem, detected⟩ := CatalogEntry.kind_of_ofWorkbook found
    obtain ⟨sheet, mem, -, read⟩ := exists_share books mem (by rw [detected]; rfl)
    exact ⟨sheet, mem, Option.some.inj (read.kind.symm.trans detected)⟩
  · rintro ⟨sheet, share, same⟩
    obtain ⟨given, mem', -, read⟩ := readFrom_of_mem_shares share
    obtain ⟨own, found, apart⟩ := CatalogEntry.kind_ofWorkbook_ne_data mem' read.kind
      (by rw [same]; exact special)
    obtain ⟨other, mem'', detected⟩ := CatalogEntry.kind_of_ofWorkbook found
    obtain ⟨known, share', -, read'⟩ := exists_share books mem'' (by rw [detected]; rfl)
    have kind' : known.schema.kind = own := Option.some.inj (read'.kind.symm.trans detected)
    have one := kept.kinds book mem sheet share known share' (by rw [same]; exact special)
      (by rw [kind']; exact apart)
    rw [found, ← kind', ← one, same]

/-- In a well kept workbook the group of the entry is that of every merge sheet. -/
theorem group_eq_iff (kept : WellKept books) (clean : ∀ sheet ∈ sheets books, sheet.diagnostics = [])
    (mem : book ∈ books) {group : String} :
    (CatalogEntry.ofWorkbook book).mergeGroup = some group ↔
      holds books (·.group? == some group) book = true := by
  have named : ∀ sheet ∈ shares books book, ∀ given, sheet.ReadFrom given
      (Catalog.ofWorkbooks books).mergeGroups → sheet.group? = given.groupName? :=
    fun sheet share given read => IngestedSheet.group?_eq_of_readFrom read
      (clean sheet (List.mem_flatMap.2 ⟨book, mem, share⟩))
  have known : ∀ given ∈ book.sheets, ∀ group, given.groupName? = some group →
      ∃ sheet ∈ shares books book, sheet.group? = some group := by
    intro given mem group found
    have detected : Kind.detect? given.grid = some .merge := by
      by_contra other
      rw [Sheet.groupName?, if_neg other] at found
      cases found
    obtain ⟨sheet, share, -, read⟩ := exists_share books mem (by rw [detected]; rfl)
    exact ⟨sheet, share, (named sheet share given read).trans found⟩
  rw [holds_iff]
  simp only [beq_iff_eq]
  constructor
  · intro found
    obtain ⟨given, mem', found'⟩ := CatalogEntry.group_of_ofWorkbook found
    exact known given mem' group found'
  · rintro ⟨sheet, share, found⟩
    obtain ⟨given, mem', -, read⟩ := readFrom_of_mem_shares share
    have some := CatalogEntry.isSome_group_ofWorkbook mem'
      (by rw [← named sheet share given read, found]; rfl)
    obtain ⟨own, found'⟩ := Option.isSome_iff_exists.1 some
    obtain ⟨other, mem'', named'⟩ := CatalogEntry.group_of_ofWorkbook found'
    obtain ⟨sheet', share', same⟩ := known other mem'' own named'
    rw [found', kept.groups book mem sheet share sheet' share' group found own same]

theorem tables_eq (books : List Workbook) (book : Workbook) :
    (CatalogEntry.ofWorkbook book).tables = (shares books book).map (·.name) := by
  rw [CatalogEntry.tables_ofWorkbook, shares, Workbook.ingest]
  induction book.sheets with
  | nil => rfl
  | cons given rest ih =>
    have detected := IngestedSheet.isSome_ofSheet? given (book.originOf given.name)
      (Catalog.ofWorkbooks books).mergeGroups
    cases ingested : IngestedSheet.ofSheet? given (book.originOf given.name)
        (Catalog.ofWorkbooks books).mergeGroups with
    | none =>
      rw [ingested] at detected
      rw [List.filter_cons_of_neg (by simp [← detected]), ih]
      simp only [List.filterMap_cons, ingested]
    | some sheet =>
      rw [ingested] at detected
      rw [List.filter_cons_of_pos (by simp [← detected]), List.map_cons, ih]
      simp only [List.filterMap_cons, ingested, List.map_cons,
        (IngestedSheet.readFrom_ofSheet? ingested).1]
      rfl

/-- A sheet with the tag and the option cell of its first column, titled columns with their
directives, and rows. -/
def sheetOf (name tag option : String) (columns : List (String × String))
    (rows : List (List String)) : Sheet :=
  ⟨name, Grid.ofTexts
    ([List.replicate (columns.length + 1) "", tag :: columns.map (·.1),
      option :: columns.map (·.2), "" :: columns.map fun _ => "data"] ++
      rows.map fun row => "" :: row)⟩

/-- A workbook in the design folder. -/
def bookOf (name : String) (sheets : List Sheet) : Workbook := ⟨name, "design/" ++ name, sheets⟩

/-- A workbook of one data table whose rows are keyed by whole numbers. -/
def tableBook (name : String) (columns : List (String × String)) (rows : List (List String)) :
    Workbook :=
  bookOf (name ++ ".xlsx") [sheetOf name "#data" "" (("id", "key,int") :: columns) rows]

/-- The columns of an enumeration sheet whose values may be any text. -/
def codeColumns : List (String × String) :=
  [("type_id", "key,int"), ("type_group", "string"), ("type_text", "string"),
   ("type_value", "stream"), ("type_desc", "string")]

/-- A workbook of two colors, red with a value to choose and blue with two. -/
def colorBook (red : String) : Workbook :=
  bookOf "types.xlsx" [sheetOf "types" "#type" "" codeColumns
    [["1", "color", "red", red, "x"], ["2", "color", "blue", "2", "x"]]]

/-- The run over everything in some workbooks. -/
def runOver (books : List Workbook) : RunContext :=
  RunContext.select Options.standard books .all false

end Library

end DesignTables
