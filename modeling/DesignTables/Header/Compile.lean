import DesignTables.Header.Directive
import DesignTables.Table.Schema

/-!
The schema that the four header rows of a sheet declare.

Nothing here fails: what is wrong with a header becomes a diagnostic of its schema. Diagnostics
stand in the order in which the header is read: the merge tuple, the directives column by column,
the header as a whole, and last the columns that name an enumeration group.
-/
namespace DesignTables.Header

/-- The options in the option cell of a table. -/
def readOptions (cell : String) : TableOptions :=
  let words := (Text.splitOn ',' cell).map fun word => Text.asciiLower (Text.trim word)
  ⟨words.contains "nocode", words.contains "valueonly"⟩

/-- Takes what the first column of the header says about the table. -/
def readTableCells (grid : Grid) (schema : Schema) : Schema :=
  match schema.kind with
  | .data | .enumeration =>
    { schema with
      options := readOptions ((grid.text? directiveRow 0).getD "")
      subfolder := (grid.text? subfolderRow 0).getD "" }
  | .merge =>
    let tuple := (grid.text? directiveRow 0).getD ""
    match MergeHeader.parse? tuple with
    | some header => { schema with merge := some header }
    | none =>
      schema.report (Diagnostic.of (.malformedMergeHeader tuple) schema.origin "" directiveRow 0)
  | .localization => schema

/-- The column of a grid column that has a title, directives and an export flag. -/
def readColumn? (grid : Grid) (col : Nat) : Option Column := do
  let title ← grid.text? titleRow col
  let directives ← grid.text? directiveRow col
  let flag ← grid.text? exportRow col
  let mode ← ExportMode.ofFlag? flag
  let arrayTitle := Text.dropSuffix? "[]" title
  return { Column.plain col (arrayTitle.getD title) mode with
    isArray := arrayTitle.isSome
    directives := Directive.tokenize directives }

/-- The columns of a sheet, from the second grid column on. -/
def readColumns (grid : Grid) : List Column :=
  ((List.range grid.width).drop 1).filterMap (readColumn? grid)

/-- A problem with the directives of a column. -/
def directiveProblem (schema : Schema) (column : Column) (problem : Problem) : Diagnostic :=
  Diagnostic.of problem schema.origin column.title directiveRow column.gridColumn

/-- A list with a name at its end, unless it holds the name already. -/
def addOnce (names : List String) (name : String) : List String :=
  if names.contains name then names else names ++ [name]

/-- The needs of a table with one more table that its values are looked up in. -/
def needTable (mergeGroups : List String) (needs : TableNeeds) (table : String) : TableNeeds :=
  if mergeGroups.contains table then { needs with merges := addOnce needs.merges table }
  else { needs with tables := addOnce needs.tables table }

/-- Takes a `check` directive, whose target must name a table and a field. -/
def applyCheck (mergeGroups : List String) (column : Column) (slot : Nat) (schema : Schema)
    (target : String) : Schema :=
  match Text.splitOn '/' target with
  | [table, field] =>
    if table.isEmpty || field.isEmpty then
      schema.report (directiveProblem schema column (.unnamedCheckTarget target))
    else
      { schema.modifyColumn slot fun c => { c with check := some ⟨table, field⟩ } with
        needs := needTable mergeGroups schema.needs table }
  | _ => schema.report (directiveProblem schema column (.unnamedCheckTarget target))

/-- Takes one directive of the column in a slot. `column` is the column as it was read. -/
def applyDirective (mergeGroups : List String) (column : Column) (slot : Nat) (schema : Schema)
    (directive : Directive) : Schema :=
  let change := schema.modifyColumn slot
  let refuse (problem : Problem) := schema.report (directiveProblem schema column problem)
  let origin := originName schema.name column.title
  match directive with
  | .key =>
    match schema.key.filter (· ≠ slot) with
    | some first => refuse (.secondKey (schema.titleAt first))
    | none =>
      { change fun c => { c with
          isKey := true, isUnique := true, origin := c.origin.or (some origin) } with
        key := some slot }
  | .dataType type =>
    let typed := change fun c => { c with dataType := c.dataType.or (some type) }
    { typed with
      needs := { schema.needs with
        localization := schema.needs.localization || type == .localText } }
  | .origin => change fun c => { c with origin := c.origin.or (some origin) }
  | .unique => change fun c => { c with isUnique := true }
  | .null => change fun c => { c with nullAllowed := true }
  | .enumGroup group =>
    { change fun c => { c with enumGroup := some group, dataType := some .enumText } with
      needs := { schema.needs with enums := true } }
  | .enumRef _ =>
    { change fun c => { c with dataType := some .string } with
      needs := { schema.needs with enums := true } }
  | .check target => applyCheck mergeGroups column slot schema target
  | .change title =>
    match schema.findSlot? title with
    | some source => change fun c => { c with change := some source }
    | none => refuse (.unknownChangeSource title)
  | .before text => change fun c => { c with before := some text }
  | .after text => change fun c => { c with after := some text }
  | .arraySize size => change fun c => { c with arraySize := some size }
  | .arraySizeRef title =>
    match schema.findSlot? title with
    | some source =>
      (change fun c => { c with arraySizeRef := some source }).modifyColumn source
        fun c => { c with tracksLength := true }
    | none => refuse (.unknownLengthSource title)
  | .arraySizeCount title =>
    match schema.findSlot? title with
    | some source =>
      (change fun c => { c with arraySizeRef := some source }).modifyColumn source
        fun c => { c with tracksCount := true }
    | none => refuse (.unknownCountSource title)
  | .commaStandIn text => change fun c => { c with commaStandIn := some text }
  | .unknown _ => schema

/-- The directives of a column in the order in which they are written. -/
def directivesOf (column : Column) : List Directive := column.directives.map Directive.parse

/-- Takes every directive of every column. -/
def applyDirectives (mergeGroups : List String) (schema : Schema) : Schema :=
  schema.slots.foldl (fun schema (column, slot) =>
    (directivesOf column).foldl (applyDirective mergeGroups column slot) schema) schema

/-- The roles of a column that rule out empty values. -/
def filledRoles (column : Column) : List FilledRole :=
  (if column.enumGroup.isSome then [.enumeration] else []) ++
  (if column.isKey then [.key] else []) ++
  (if column.origin.isSome then [.origin] else []) ++
  (if column.isUnique then [.unique] else [])

/-- What is wrong with one column, given the titles before it. -/
def columnProblems (origin : SheetOrigin) (earlier : List String) (column : Column) :
    List Diagnostic :=
  let onTitle (problem : Problem) :=
    Diagnostic.of problem origin column.title titleRow column.gridColumn
  let onDirectives (problem : Problem) :=
    Diagnostic.of problem origin column.title directiveRow column.gridColumn
  (if column.title.toList.contains ' ' then [onTitle .spaceInTitle] else []) ++
  (if earlier.contains column.title then [onTitle .repeatedTitle] else []) ++
  (if column.dataType.isNone then [onDirectives .noDataType] else []) ++
  (if column.nullAllowed then
    (filledRoles column).map fun role => onDirectives (.nullableRole role) else [])

/-- What is wrong with the header as a whole. -/
def headerProblems (schema : Schema) : List Diagnostic :=
  (if schema.exported.isEmpty then
    [Diagnostic.of .noExportedColumn schema.origin "" titleRow 1] else []) ++
  (if schema.key.isNone && !schema.options.valueOnly then
    [Diagnostic.of .noKeyColumn schema.origin "" directiveRow 1] else []) ++
  (if !schema.subfolder.isEmpty && schema.subfolder.toList.getLast? ≠ some '/' then
    [Diagnostic.of (.openSubfolder schema.subfolder) schema.origin "" subfolderRow 0] else []) ++
  schema.slots.flatMap fun (column, slot) =>
    columnProblems schema.origin ((schema.columns.take slot).map (·.title)) column

/-- The column that the last enumeration reference of a column names. -/
def enumSource? (column : Column) : Option String :=
  ((directivesOf column).filterMap fun directive =>
    match directive with
    | .enumRef title => some title
    | _ => none).getLast?

/-- Links every column with an enumeration reference to the column it names. -/
def linkEnumSources (schema : Schema) : Schema :=
  schema.slots.foldl (fun schema (column, slot) =>
    match enumSource? column with
    | none => schema
    | some title =>
      match schema.findSlot? title with
      | some source => schema.modifyColumn slot fun c => { c with enumGroupRef := some source }
      | none => schema.report (directiveProblem schema column (.unknownEnumSource title))) schema

/-- The schema of a sheet, or nothing when the sheet is no table. Among the targets of `check`
directives, `mergeGroups` tells merge groups from sheets. -/
def compile? (sheet : Sheet) (origin : SheetOrigin) (mergeGroups : List String) : Option Schema :=
  (Kind.detect? sheet.grid).map fun kind =>
    let read := readTableCells sheet.grid (Schema.blank origin kind)
    let directed := applyDirectives mergeGroups { read with columns := readColumns sheet.grid }
    let checked :=
      { directed with diagnostics := directed.diagnostics ++ headerProblems directed }
    linkEnumSources checked

end DesignTables.Header
