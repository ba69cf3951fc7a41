import DesignTables.Output.Files
import DesignTables.Proofs.Indexing.Rows

/-!
# Files written by slots

Records and companion code go through the slots of the exported columns, and companion code names
the key column. The rows of a shard are looked up by positions that need not be there.
-/
namespace DesignTables

namespace OutputTable

def fields! (table : OutputTable) (overlay : Overlay) (row : TableRow) : Access (List Field) := do
  let found ← table.schema.exported.mapM fun (_, slot) => do
    -- The column is read whether its value is written or not.
    let column ← Access.read table.schema.columns slot
    let value := table.valueOf overlay row slot
    return if Text.eqIgnoringCase value "null" then none
      else some (Field.ofValue column (table.styleOf column slot) value)
  return found.filterMap id

def records! (table : OutputTable) (overlay : Overlay) (rows : List TableRow) :
    Access (List (List Field)) := do
  let found ← rows.mapM (table.fields! overlay)
  return found.filter (!·.isEmpty)

def renderRows! (table : OutputTable) (overlay : Overlay) (rows : List TableRow) :
    Access Rendered := do
  let records ← table.records! overlay rows
  return ⟨"[" ++ renderRecords records ++ "\n]", records.length⟩

def renderSingle! (table : OutputTable) (overlay : Overlay) : Access Rendered := do
  let records ← table.records! overlay table.rows
  return ⟨dedent (renderRecords records), records.length⟩

def renderTable! (table : OutputTable) (overlay : Overlay) : Access Rendered :=
  if table.schema.options.valueOnly then table.renderSingle! overlay
  else table.renderRows! overlay table.keyedRows

end OutputTable

def ShardLayout.renderShards! (table : OutputTable) (layout : ShardLayout) (overlay : Overlay) :
    Access (List (String × Rendered)) :=
  layout.plan.shards.mapM fun shard => do
    let content ← table.renderRows! overlay (shardRows table shard)
    return (shardFile layout.group shard.number, content)

def SchemaCode.ofSchema! (schema : Schema) : Access SchemaCode := do
  let key ← schema.keyColumn!
  let fields ← schema.exported.mapM fun (_, slot) => do
    let column ← Access.read schema.columns slot
    return (⟨fieldType column, column.isArray, column.title⟩ : CodeField)
  return {
    className := pascalCase schema.name ++ "Table"
    container :=
      match key with
      | some key => if schema.options.valueOnly then .single else .keyed (fieldType key) key.title
      | none => .single
    fields := fields }

namespace Output

def dataFiles! (options : Options) (overlay : Overlay) (table : OutputTable) :
    Access (List OutputFile) := do
  let name := some table.schema.name
  match table.shards with
  | some layout =>
    let shards ← layout.renderShards! table overlay
    return (shards.map fun (file, content) =>
        ⟨Path.join options.outputRoot file, .shard, name, content⟩) ++
      [⟨Path.join options.outputRoot (ShardLayout.indexFile layout.group), .shardIndex, name,
        layout.renderIndex⟩]
  | none =>
    let content ← table.renderTable! overlay
    return [⟨recordsPath options table.schema, .records, name, content⟩]

def codeFiles! (options : Options) (table : OutputTable) : Access (List OutputFile) :=
  if table.wantsCode then do
    let code ← SchemaCode.ofSchema! table.schema
    return [⟨codePath options table.schema, .schemaCode, some table.schema.name,
      ⟨code.render options, code.fields.length⟩⟩]
  else return []

def files! (output : Output) (options : Options) : Access (List OutputFile) := do
  let tables ← output.tables.mapM fun table => do
    let records ← dataFiles! options output.overlay table
    let code ← codeFiles! options table
    return records ++ code
  return tables.flatten ++ enumFiles options output.enums ++ stringFiles options output.localization

end Output

namespace OutputTable

variable (table : OutputTable) (overlay : Overlay)

theorem fields!_eq_ok (row : TableRow) :
    table.fields! overlay row = .ok (table.fields overlay row) := by
  have read : ∀ one ∈ table.schema.exported, (do
      let column ← Access.read table.schema.columns one.2
      let value := table.valueOf overlay row one.2
      return if Text.eqIgnoringCase value "null" then none
        else some (Field.ofValue column (table.styleOf column one.2) value)) =
      (.ok (if Text.eqIgnoringCase (table.valueOf overlay row one.2) "null" then none
        else some (Field.ofValue one.1 (table.styleOf one.1 one.2)
          (table.valueOf overlay row one.2))) : Access (Option Field)) := by
    intro one mem
    rw [Access.read_eq_ok (Header.column?_of_mem_exported mem)]
    rfl
  rw [fields!, Access.mapM_eq_ok read, Access.ok_bind, List.filterMap_map]
  rfl

theorem records!_eq_ok (rows : List TableRow) :
    table.records! overlay rows = .ok (table.records overlay rows) := by
  rw [records!, Access.mapM_eq_ok fun row _ => table.fields!_eq_ok overlay row]
  rfl

theorem renderRows!_eq_ok (rows : List TableRow) :
    table.renderRows! overlay rows = .ok (table.renderRows overlay rows) := by
  rw [renderRows!, records!_eq_ok]
  rfl

theorem renderTable!_eq_ok : table.renderTable! overlay = .ok (table.renderTable overlay) := by
  rw [renderTable!, renderTable]
  split
  · rw [renderSingle!, records!_eq_ok]
    rfl
  · exact table.renderRows!_eq_ok overlay _

end OutputTable

theorem SchemaCode.ofSchema!_eq_ok {schema : Schema} (links : schema.LinksInside) :
    ofSchema! schema = .ok (ofSchema schema) := by
  have read : ∀ one ∈ schema.exported, (do
      let column ← Access.read schema.columns one.2
      return (⟨fieldType column, column.isArray, column.title⟩ : CodeField)) =
      Except.ok ⟨fieldType one.1, one.1.isArray, one.1.title⟩ := by
    intro one mem
    rw [Access.read_eq_ok (Header.column?_of_mem_exported mem)]
    rfl
  rw [ofSchema!, Schema.keyColumn!_eq_ok links, Access.ok_bind, Access.mapM_eq_ok read]
  rfl

namespace Output

theorem dataFiles!_eq_ok (options : Options) (overlay : Overlay) (table : OutputTable) :
    dataFiles! options overlay table = .ok (dataFiles options overlay table) := by
  rw [dataFiles!, dataFiles]
  cases table.shards with
  | some layout =>
    have shards : layout.renderShards! table overlay = .ok (layout.renderShards table overlay) := by
      refine Access.mapM_eq_ok fun shard _ => ?_
      rw [table.renderRows!_eq_ok overlay]
      rfl
    dsimp only
    rw [shards]
    rfl
  | none =>
    dsimp only
    rw [table.renderTable!_eq_ok overlay]
    rfl

theorem codeFiles!_eq_ok (options : Options) {table : OutputTable}
    (links : table.schema.LinksInside) :
    codeFiles! options table = .ok (codeFiles options table) := by
  rw [codeFiles!, codeFiles]
  split
  · rw [SchemaCode.ofSchema!_eq_ok links]
    rfl
  · rfl

/-- Writing tables whose links are inside their columns reads slots of columns only. -/
theorem files!_eq_ok {output : Output} (links : ∀ table ∈ output.tables, table.schema.LinksInside)
    (options : Options) : output.files! options = .ok (output.files options) := by
  have tables : ∀ table ∈ output.tables, (do
      let records ← dataFiles! options output.overlay table
      let code ← codeFiles! options table
      return records ++ code) =
      Except.ok (dataFiles options output.overlay table ++ codeFiles options table) := by
    intro table mem
    rw [dataFiles!_eq_ok, Access.ok_bind, codeFiles!_eq_ok options (links table mem)]
    rfl
  rw [files!, Access.mapM_eq_ok tables, Access.ok_bind, ← List.flatMap_def]
  rfl

end Output

end DesignTables
