import DesignTables.Output.Files
import DesignTables.Proofs.Output.Endings

/-!
# The paths of the files of a run

The paths of a run are different exactly when no two of its tables share a file name, and no two of
its groups or languages, and no language is named like a shard or an index. Two tables share a file
name when they are in one folder and their names have one Pascal-case form.
-/
namespace DesignTables

/-! ## The paths of a table -/

namespace Output

variable (options : Options)

/-- The path of the records of a table. -/
def recordsName (schema : Schema) : EndedPath :=
  ⟨Path.join (tableDirectory options.dataPath schema) (pascalCase schema.name), .records⟩

/-- The path of the companion code of a table. -/
def codeName (schema : Schema) : EndedPath :=
  ⟨Path.join (tableDirectory options.codePath schema) (pascalCase schema.name), .code⟩

/-- The path of a shard or of the index of a merge group. -/
def shardName (group : String) (ending : Ending) : EndedPath :=
  ⟨Path.join options.outputRoot group, ending⟩

/-- The path of the enumerations. -/
def enumsName : EndedPath := ⟨Path.join options.codePath "", .enums⟩

theorem path_recordsName (schema : Schema) :
    (recordsName options schema).path = recordsPath options schema := by
  rw [EndedPath.path, recordsName, ← Path.join_append _ _ (Ending.isEnding_text .records)]
  rfl

theorem path_codeName (schema : Schema) :
    (codeName options schema).path = codePath options schema := by
  rw [EndedPath.path, codeName, ← Path.join_append _ _ (Ending.isEnding_text .code)]
  rfl

theorem path_shardName (group : String) (number : Nat) :
    (shardName options group (.shard number)).path =
      Path.join options.outputRoot (ShardLayout.shardFile group number) := by
  have name : ShardLayout.shardFile group number = group ++ (Ending.shard number).text := by
    rw [ShardLayout.shardFile, Ending.text, String.append_assoc, String.append_assoc,
      String.append_assoc]
  rw [name, Path.join_append _ _ (Ending.isEnding_text _)]
  rfl

theorem path_indexName (group : String) :
    (shardName options group .index).path =
      Path.join options.outputRoot (ShardLayout.indexFile group) :=
  (Path.join_append _ _ (Ending.isEnding_text .index)).symm

theorem path_enumsName :
    (enumsName options).path = Path.join options.codePath EnumCode.fileName :=
  (Path.join_append _ "" (Ending.isEnding_text .enums)).symm

/-- The paths of the files of a table. -/
def namesOf (table : OutputTable) : List EndedPath :=
  (match table.shards with
    | some layout =>
      layout.plan.shards.map (fun shard => shardName options layout.group (.shard shard.number)) ++
        [shardName options layout.group .index]
    | none => [recordsName options table.schema]) ++
  if table.wantsCode then [codeName options table.schema] else []

theorem map_path_tableFiles (overlay : Overlay) (table : OutputTable) :
    (dataFiles options overlay table ++ codeFiles options table).map (·.path) =
      (namesOf options table).map EndedPath.path := by
  have code : (codeFiles options table).map (·.path) =
      (if table.wantsCode then [codeName options table.schema] else []).map EndedPath.path := by
    rw [codeFiles]
    split
    · rw [List.map_singleton, List.map_singleton, path_codeName]
    · rfl
  rw [List.map_append, namesOf, List.map_append, code, dataFiles]
  congr 1
  cases table.shards with
  | none => rw [List.map_singleton, List.map_singleton, path_recordsName]
  | some layout =>
    dsimp only
    rw [List.map_append, List.map_append, List.map_singleton, List.map_singleton, path_indexName,
      ShardLayout.renderShards, List.map_map, List.map_map, List.map_map]
    congr 1
    exact List.map_congr_left fun shard _ => (path_shardName options _ _).symm

theorem mem_namesOf_iff {table : OutputTable} {name : EndedPath} :
    name ∈ namesOf options table ↔
      (table.shards = none ∧ name = recordsName options table.schema) ∨
      (∃ layout, table.shards = some layout ∧ (name = shardName options layout.group .index ∨
        ∃ shard ∈ layout.plan.shards,
          name = shardName options layout.group (.shard shard.number))) ∨
      (table.wantsCode = true ∧ name = codeName options table.schema) := by
  rw [namesOf, List.mem_append, ← or_assoc]
  refine or_congr ?_ ?_
  · cases table.shards with
    | none => simp
    | some layout =>
      simp only [List.mem_append, List.mem_map, List.mem_singleton, reduceCtorEq, false_and,
        false_or, Option.some.injEq, exists_eq_left', @eq_comm _ _ name]
      exact or_comm
  · split
    next wants => simp [wants]
    next idle => simp [idle]

end Output

/-- Two tables write no file under one path. -/
structure OutputTable.Apart (options : Options) (a b : OutputTable) : Prop where
  records : a.shards = none → b.shards = none →
    Path.components (Output.recordsPath options a.schema) ≠
      Path.components (Output.recordsPath options b.schema)
  code : a.wantsCode = true → b.wantsCode = true →
    Path.components (Output.codePath options a.schema) ≠
      Path.components (Output.codePath options b.schema)
  shards : ∀ first second, a.shards = some first → b.shards = some second →
    Path.components (Path.join options.outputRoot (ShardLayout.indexFile first.group)) ≠
      Path.components (Path.join options.outputRoot (ShardLayout.indexFile second.group))

namespace Output

variable {options : Options} {a b : OutputTable}

theorem disjoint_namesOf_iff :
    List.Disjoint ((namesOf options a).map EndedPath.components)
      ((namesOf options b).map EndedPath.components) ↔ a.Apart options b := by
  constructor
  · intro disjoint
    have apart : ∀ x ∈ namesOf options a, ∀ y ∈ namesOf options b, x.components ≠ y.components :=
      fun x memX y memY same =>
        disjoint (List.mem_map_of_mem memX) (same ▸ List.mem_map_of_mem memY)
    simp only [mem_namesOf_iff] at apart
    refine ⟨fun ha hb => ?_, fun ha hb => ?_, fun first second ha hb => ?_⟩
    · rw [← path_recordsName, ← path_recordsName]
      exact apart _ (.inl ⟨ha, rfl⟩) _ (.inl ⟨hb, rfl⟩)
    · rw [← path_codeName, ← path_codeName]
      exact apart _ (.inr (.inr ⟨ha, rfl⟩)) _ (.inr (.inr ⟨hb, rfl⟩))
    · rw [← path_indexName, ← path_indexName]
      exact apart _ (.inr (.inl ⟨first, ha, .inl rfl⟩)) _ (.inr (.inl ⟨second, hb, .inl rfl⟩))
  · intro apart components memA memB
    obtain ⟨x, memX, rfl⟩ := List.mem_map.1 memA
    obtain ⟨y, memY, same⟩ := List.mem_map.1 memB
    have index := EndedPath.components_eq_of_components_eq same .index
    have ending := EndedPath.ending_eq same
    -- files of one path are the same thing, and two shards have one path only if their indexes do
    rcases (mem_namesOf_iff options).1 memX with
        ⟨ha, rfl⟩ | ⟨first, ha, rfl | ⟨_, _, rfl⟩⟩ | ⟨ha, rfl⟩ <;>
      rcases (mem_namesOf_iff options).1 memY with
        ⟨hb, rfl⟩ | ⟨second, hb, rfl | ⟨_, _, rfl⟩⟩ | ⟨hb, rfl⟩ <;>
      first
      | cases ending; done
      | skip
    · refine apart.records ha hb ?_
      rw [← path_recordsName, ← path_recordsName]
      exact same.symm
    · refine apart.shards first second ha hb ?_
      rw [← path_indexName, ← path_indexName]
      exact same.symm
    · refine apart.shards first second ha hb ?_
      rw [← path_indexName, ← path_indexName]
      exact index.symm
    · refine apart.code ha hb ?_
      rw [← path_codeName, ← path_codeName]
      exact same.symm

/-- The files of one table have different paths when its shards have different numbers. -/
theorem nodup_namesOf {table : OutputTable} (numbers : ∀ layout, table.shards = some layout →
    (layout.plan.shards.map (·.number)).Nodup) :
    ((namesOf options table).map EndedPath.components).Nodup := by
  have endings : ((namesOf options table).map (·.ending)).Nodup := by
    rw [namesOf]
    cases sharded : table.shards with
    | none =>
      dsimp only
      split <;> simp [recordsName, codeName]
    | some layout =>
      have distinct : ((layout.plan.shards.map (·.number)).map Ending.shard).Nodup :=
        (numbers layout sharded).map fun _ _ => Ending.shard.inj
      have view : ∀ wants : Bool,
          ((layout.plan.shards.map (fun shard =>
              shardName options layout.group (.shard shard.number)) ++
            [shardName options layout.group .index]) ++
            if wants then [codeName options table.schema] else []).map (·.ending) =
          (layout.plan.shards.map (·.number)).map Ending.shard ++
            (.index :: if wants then [.code] else []) := by
        intro wants
        cases wants <;> simp [shardName, codeName]
      rw [view, List.nodup_append']
      refine ⟨distinct, by split <;> simp, fun ending shard other => ?_⟩
      obtain ⟨number, -, rfl⟩ := List.mem_map.1 shard
      split at other <;> simp at other
  exact List.pairwise_map.2 ((List.pairwise_map.1 endings).imp fun apart same =>
    apart (EndedPath.ending_eq same))

/-! ## The paths of languages -/

/-- The path of the strings of a language. -/
def stringsPath (options : Options) (language : String) : String :=
  Path.join options.outputRoot (LocalizationRegistry.fileName language)

/-- A path below another one, unless it is absolute. -/
def Rooted (base path : String) : Prop :=
  Path.isAbsolute path = true ∨ ∃ below, path = base ++ below

theorem Rooted.join {base path : String} (h : Rooted base path) (below : String) :
    Rooted base (Path.join path below) := by
  rw [Path.join]
  split
  next absolute => exact .inl absolute
  next =>
    have extends' : ∀ more, Rooted base (path ++ more) := by
      intro more
      rcases h with absolute | ⟨before, rfl⟩
      · left
        rw [Path.isAbsolute, decide_eq_true_eq, List.head?_eq_some_iff] at absolute
        obtain ⟨rest, text⟩ := absolute
        rw [Path.isAbsolute, String.toList_append, text]
        rfl
      · exact .inr ⟨before ++ more, String.append_assoc ..⟩
    split
    · exact extends' below
    · rw [String.append_assoc]
      exact extends' _

theorem Rooted.head?_splitOn_ne_dot {base path : String} (ending : Path.isEnding base = true)
    (h : Rooted base path) : (Text.splitOn '/' path).head? ≠ some "." := by
  rcases h with absolute | ⟨below, rfl⟩
  · rw [Path.head?_splitOn_of_isAbsolute absolute]
    decide
  · obtain ⟨more, rest, pieces⟩ := Path.exists_splitOn_append ending below
    rw [pieces, List.head?_cons]
    intro dot
    have length := congrArg (·.toList.length) (Option.some.inj dot)
    have long := (Path.isEnding_iff.1 ending).2
    rw [String.toList_append, List.length_append] at length
    have one : ".".toList.length = 1 := rfl
    omega

theorem rooted_tableDirectory {base path : String} (h : Rooted base path) (schema : Schema) :
    Rooted base (tableDirectory path schema) := by
  rw [tableDirectory]
  split
  · exact h
  · exact h.join _

theorem rooted_recordsPath {options : Options} {base : String} (h : Rooted base options.dataPath)
    (schema : Schema) : Rooted base (recordsPath options schema) := by
  rw [recordsPath]
  exact (rooted_tableDirectory h schema).join _

theorem rooted_codePath {options : Options} {base : String} (h : Rooted base options.codePath)
    (schema : Schema) : Rooted base (codePath options schema) := by
  rw [codePath]
  exact (rooted_tableDirectory h schema).join _

theorem stringsPath_standard (language : String) : stringsPath Options.standard language =
    "output" ++ "/" ++ ("string_" ++ (language ++ ".json")) := by
  have relative : Path.isAbsolute ("string_" ++ (language ++ ".json")) = false :=
    Path.isAbsolute_of_isEnding (by decide) _
  rw [stringsPath, LocalizationRegistry.fileName, String.append_assoc]
  exact Path.join_beside (by decide) (by decide) relative

/-- Records are never where the strings of a language are. -/
theorem components_stringsPath_ne_records (language : String) (schema : Schema) :
    Path.components (stringsPath Options.standard language) ≠
      Path.components (recordsPath Options.standard schema) := by
  intro same
  have output : Path.isEnding "output" = true := by decide
  have string : Path.isEnding "string_" = true := by decide
  have tables : Path.isEnding "tables" = true := by decide
  obtain ⟨more, rest, strings⟩ := Path.exists_components_below output string (language ++ ".json")
  rw [stringsPath_standard, strings] at same
  have dataPath : Rooted "output/tables/" Options.standard.dataPath := .inr ⟨"", by decide⟩
  rcases rooted_recordsPath dataPath schema with absolute | ⟨below, path⟩
  · have root := Path.head?_components_of_isAbsolute absolute
    rw [← same, List.head?_cons] at root
    exact absurd (Option.some.inj root) (by decide)
  · obtain ⟨more', rest', records⟩ := Path.exists_components_below output tables ("/" ++ below)
    have standard : "output/tables/" ++ below =
        "output" ++ "/" ++ ("tables" ++ ("/" ++ below)) := by
      rw [← String.append_assoc, ← String.append_assoc]
      rfl
    rw [path, standard, records, List.cons.injEq, List.cons.injEq] at same
    have names := congrArg (·.toList.head?) same.2.1
    rw [String.toList_append, String.toList_append] at names
    exact absurd (Option.some.inj names) (by decide)

/-- Code is never where the strings of a language are. -/
theorem components_stringsPath_ne_code (language : String) {ended : EndedPath}
    (code : ended.ending = .code ∨ ended.ending = .enums) :
    Path.components (stringsPath Options.standard language) ≠ ended.components := by
  intro same
  have json : Path.isEnding ".json" = true := by decide
  obtain ⟨_, start, strings⟩ :=
    Path.exists_components_append (Path.join Options.standard.outputRoot ("string_" ++ language))
  obtain ⟨_, start', path⟩ := Path.exists_components_append ended.stem
  rw [stringsPath, LocalizationRegistry.fileName, Path.join_append _ _ json, strings _ json,
    EndedPath.components, EndedPath.path, path _ ended.ending.isEnding_text] at same
  have names := String.ofList_injective (List.cons.inj (List.append_inj' same rfl).2).1
  have last := congrArg (·.getLast?) names
  rcases code with code | code <;>
    rw [code, List.getLast?_append, List.getLast?_append] at last <;>
    exact absurd (Option.some.inj last) (by decide)

end Output

/-! ## Tables without a slash in their names -/

namespace Output

/-- The folder of a table below the directory of its kind. -/
def folder (schema : Schema) : String :=
  trimSlashes (String.ofList (schema.subfolder.toList.map fun c => if c = '\\' then '/' else c))

/-- The steps to the folder of a table. -/
def folderSteps (schema : Schema) : List String :=
  (Text.splitOn '/' (folder schema)).filter (!Path.isIdle ·)

theorem head?_dropWhile_ne_slash (cs : List Char) :
    (cs.dropWhile (· == '/')).head? ≠ some '/' := by
  intro slash
  have other := List.head?_dropWhile_not (· == '/') cs
  rw [slash] at other
  contradiction

theorem isAbsolute_trimSlashes (s : String) : Path.isAbsolute (trimSlashes s) = false := by
  rw [Path.isAbsolute, trimSlashes, String.toList_ofList, decide_eq_false_iff_not,
    List.head?_reverse]
  intro slash
  obtain ⟨front, kept⟩ := List.getLast?_eq_some_iff.1 slash
  obtain ⟨cut, whole⟩ :=
    List.dropWhile_suffix (· == '/') (l := (s.toList.dropWhile (· == '/')).reverse)
  refine head?_dropWhile_ne_slash s.toList ?_
  rw [← List.getLast?_reverse, ← whole, kept, ← List.append_assoc, List.getLast?_concat]

theorem getLast?_trimSlashes (s : String) : (trimSlashes s).toList.getLast? ≠ some '/' := by
  rw [trimSlashes, String.toList_ofList, List.getLast?_reverse]
  exact head?_dropWhile_ne_slash _

/-- What follows the directory of its kind in the path of a file of a table. -/
theorem exists_join_tableDirectory {base name : String} (slash : base.toList.getLast? = some '/')
    (file : Path.isEnding name = true) (schema : Schema) : ∃ rest,
      Path.join (tableDirectory base schema) name = base ++ rest ∧
      (Text.splitOn '/' rest).filter (!Path.isIdle ·) = folderSteps schema ++ [name] := by
  have relative : Path.isAbsolute name = false := by
    have plain := Path.isAbsolute_of_isEnding file ""
    rwa [String.append_empty] at plain
  have directory : tableDirectory base schema =
      if (folder schema).isEmpty then base else Path.join base (folder schema) := rfl
  rw [directory]
  split
  next empty =>
    refine ⟨name, Path.join_below slash relative, ?_⟩
    rw [Path.splitOn_of_isEnding file, Path.filter_isIdle_of_isEnding file, folderSteps,
      String.isEmpty_iff.1 empty]
    rfl
  next some =>
    have below : Path.isAbsolute (folder schema) = false := isAbsolute_trimSlashes _
    have notEmpty : (folder schema).toList ≠ [] := fun empty =>
      some (String.isEmpty_iff.2 (String.toList_eq_nil_iff.1 empty))
    have last : (base ++ folder schema).toList.getLast? ≠ Option.some '/' := by
      rw [String.toList_append, List.getLast?_append_of_ne_nil _ notEmpty]
      exact getLast?_trimSlashes _
    have whole : (base ++ folder schema).isEmpty = false := by
      rw [← Bool.not_eq_true, String.isEmpty_iff]
      intro empty
      have chars := congrArg String.toList empty
      rw [String.toList_append] at chars
      exact notEmpty (List.append_eq_nil_iff.1 chars).2
    refine ⟨folder schema ++ "/" ++ name, ?_, ?_⟩
    · rw [Path.join_below slash below, Path.join_beside whole last relative, String.append_assoc,
        String.append_assoc, String.append_assoc]
    · rw [Path.splitOn_join, List.filter_append, Path.splitOn_of_isEnding file,
        Path.filter_isIdle_of_isEnding file]
      rfl

/-- The components of the path of a file of a table. -/
theorem components_join_tableDirectory {directory name : String}
    (plain : Path.isEnding directory = true) (file : Path.isEnding name = true) (schema : Schema) :
    Path.components
        (Path.join (tableDirectory ("output" ++ "/" ++ (directory ++ "/")) schema) name) =
      "output" :: directory :: (folderSteps schema ++ [name]) := by
  have output : Path.isEnding "output" = true := by decide
  have slash : ("output" ++ "/" ++ (directory ++ "/")).toList.getLast? = some '/' := by
    rw [← String.append_assoc, String.toList_append]
    exact List.getLast?_concat
  obtain ⟨rest, path, steps⟩ := exists_join_tableDirectory slash file schema
  have whole : "output" ++ "/" ++ (directory ++ "/") ++ rest =
      "output" ++ "/" ++ (directory ++ "/" ++ rest) := String.append_assoc ..
  rw [path, whole, Path.components_below output, Path.splitOn_join, List.filter_append, steps,
    Path.splitOn_of_isEnding plain, Path.filter_isIdle_of_isEnding plain, List.singleton_append]

theorem isEnding_append {start : String} (plain : '/' ∉ start.toList) (ending : Ending) :
    Path.isEnding (start ++ ending.text) = true := by
  obtain ⟨free, long⟩ := Path.isEnding_iff.1 ending.isEnding_text
  rw [Path.isEnding_iff, String.toList_append, List.length_append]
  refine ⟨fun c mem => ?_, by omega⟩
  rcases List.mem_append.1 mem with mem | mem
  · exact beq_false_of_ne fun slash => plain (slash ▸ mem)
  · exact free c mem

/-- Files of one kind of two tables have one path exactly when the tables have one folder and one
name. -/
theorem components_join_tableDirectory_inj {base directory : String} {a b : Schema}
    (standard : base = "output" ++ "/" ++ (directory ++ "/"))
    (plain : Path.isEnding directory = true) (ha : '/' ∉ (pascalCase a.name).toList)
    (hb : '/' ∉ (pascalCase b.name).toList) (ending : Ending) :
    Path.components (Path.join (tableDirectory base a) (pascalCase a.name ++ ending.text)) =
      Path.components (Path.join (tableDirectory base b) (pascalCase b.name ++ ending.text)) ↔
    folderSteps a = folderSteps b ∧ pascalCase a.name = pascalCase b.name := by
  rw [standard, components_join_tableDirectory plain (isEnding_append ha ending),
    components_join_tableDirectory plain (isEnding_append hb ending),
    List.cons.injEq, List.cons.injEq, and_iff_right rfl, and_iff_right rfl]
  refine ⟨fun same => ?_, fun ⟨folders, names⟩ => by rw [folders, names]⟩
  have length : [pascalCase a.name ++ ending.text].length =
      [pascalCase b.name ++ ending.text].length := by
    rw [List.length_singleton, List.length_singleton]
  obtain ⟨folders, names⟩ := List.append_inj' same length
  rw [List.cons.injEq, String.append_left_inj] at names
  exact ⟨folders, names.1⟩

/-- Indexes of two groups have one path exactly when the groups have one name. -/
theorem components_indexFile_inj {group group' : String} (plain : '/' ∉ group.toList)
    (plain' : '/' ∉ group'.toList) :
    Path.components (Path.join Options.standard.outputRoot (ShardLayout.indexFile group)) =
      Path.components (Path.join Options.standard.outputRoot (ShardLayout.indexFile group')) ↔
    group = group' := by
  have components : ∀ {group : String}, '/' ∉ group.toList →
      Path.components (Path.join Options.standard.outputRoot (ShardLayout.indexFile group)) =
        ["output", group ++ Ending.index.text] := by
    intro group plain
    have file : Path.isEnding (group ++ Ending.index.text) = true := isEnding_append plain .index
    have relative : Path.isAbsolute (group ++ Ending.index.text) = false := by
      have := Path.isAbsolute_of_isEnding file ""
      rwa [String.append_empty] at this
    have path : Path.join Options.standard.outputRoot (ShardLayout.indexFile group) =
        "output" ++ "/" ++ (group ++ Ending.index.text) :=
      Path.join_beside (by decide) (by decide) relative
    have output : Path.isEnding "output" = true := by decide
    rw [path, Path.components_below output, Path.splitOn_of_isEnding file,
      Path.filter_isIdle_of_isEnding file]
  rw [components plain, components plain']
  refine ⟨fun same => ?_, fun names => by rw [names]⟩
  exact (String.append_left_inj _).1 (List.cons.inj (List.cons.inj same).2).1

end Output

/-- The names from which the paths of a table are made have no slash. -/
structure OutputTable.Plain (table : OutputTable) : Prop where
  name : '/' ∉ (pascalCase table.schema.name).toList
  group : ∀ layout, table.shards = some layout → '/' ∉ layout.group.toList

/-- The names of two tables tell their files apart: tables of which both write records or both write
code are in different folders or have names of different Pascal-case forms, and shards are of
different groups. -/
structure OutputTable.NamedApart (a b : OutputTable) : Prop where
  names : (a.shards = none ∧ b.shards = none) ∨ (a.wantsCode = true ∧ b.wantsCode = true) →
    ¬ (Output.folderSteps a.schema = Output.folderSteps b.schema ∧
      pascalCase a.schema.name = pascalCase b.schema.name)
  groups : ∀ first second, a.shards = some first → b.shards = some second →
    first.group ≠ second.group

/-- Without slashes in the names it is these that tell the files of two tables apart. -/
theorem OutputTable.Plain.apart_iff {a b : OutputTable} (ha : a.Plain) (hb : b.Plain) :
    a.Apart Options.standard b ↔ a.NamedApart b := by
  have tables : Options.standard.dataPath = "output" ++ "/" ++ ("tables" ++ "/") := by decide
  have scripts : Options.standard.codePath = "output" ++ "/" ++ ("scripts" ++ "/") := by decide
  have records := Output.components_join_tableDirectory_inj tables (by decide) ha.name hb.name
    .records
  have code := Output.components_join_tableDirectory_inj scripts (by decide) ha.name hb.name .code
  have indexes := fun first second (sharded : a.shards = some first)
      (sharded' : b.shards = some second) =>
    Output.components_indexFile_inj (ha.group first sharded) (hb.group second sharded')
  constructor
  · intro apart
    refine ⟨fun both same => both.elim (fun ⟨unsharded, unsharded'⟩ => ?_)
      fun ⟨wants, wants'⟩ => ?_, fun first second sharded sharded' same => ?_⟩
    · exact apart.records unsharded unsharded' (records.2 same)
    · exact apart.code wants wants' (code.2 same)
    · exact apart.shards first second sharded sharded'
        ((indexes first second sharded sharded').2 same)
  · rintro ⟨names, groups⟩
    refine ⟨fun unsharded unsharded' same => ?_, fun wants wants' same => ?_,
      fun first second sharded sharded' same => ?_⟩
    · exact names (.inl ⟨unsharded, unsharded'⟩) (records.1 same)
    · exact names (.inr ⟨wants, wants'⟩) (code.1 same)
    · exact groups first second sharded sharded'
        ((indexes first second sharded sharded').1 same)

/-! ## The paths of a run -/

/-- No two files of a run have one path: no two tables write one, no two languages do, and no
language is named like the files of a group. -/
structure Output.Apart (options : Options) (output : Output) : Prop where
  tables : output.tables.Pairwise (OutputTable.Apart options)
  languages : output.localization.languages.Pairwise fun a b =>
    Path.components (stringsPath options a) ≠ Path.components (stringsPath options b)
  groups : ∀ table ∈ output.tables, ∀ layout, table.shards = some layout →
    ∀ language ∈ output.localization.languages,
      Path.components (stringsPath options language) ≠
        Path.components (Path.join options.outputRoot (ShardLayout.indexFile layout.group)) ∧
      ∀ shard ∈ layout.plan.shards, Path.components (stringsPath options language) ≠
        Path.components
          (Path.join options.outputRoot (ShardLayout.shardFile layout.group shard.number))

namespace Output

variable {output : Output}

/-- The components of the paths of the tables of a run. -/
def tableComponents (options : Options) (output : Output) : List (List String) :=
  output.tables.flatMap fun table => (namesOf options table).map EndedPath.components

/-- The components of the path of the enumerations, if their code is written. -/
def enumComponents (options : Options) (output : Output) : List (List String) :=
  if (EnumCode.render? output.enums options.codeNamespace).isSome then
    [(enumsName options).components] else []

/-- The components of the paths of the languages of a run. -/
def stringComponents (options : Options) (output : Output) : List (List String) :=
  output.localization.languages.map fun language =>
    Path.components (stringsPath options language)

theorem components_files (output : Output) (options : Options) :
    (output.files options).map (Path.components ·.path) =
      output.tableComponents options ++ output.enumComponents options ++
        output.stringComponents options := by
  have tables : (output.tables.flatMap fun table =>
        dataFiles options output.overlay table ++ codeFiles options table).map
          (Path.components ·.path) = output.tableComponents options := by
    rw [List.map_flatMap]
    refine List.flatMap_congr fun table _ => ?_
    have paths := congrArg (List.map Path.components)
      (map_path_tableFiles options output.overlay table)
    rwa [List.map_map, List.map_map] at paths
  have enums : (enumFiles options output.enums).map (Path.components ·.path) =
      output.enumComponents options := by
    rw [enumComponents, EndedPath.components, path_enumsName, enumFiles]
    cases EnumCode.render? output.enums options.codeNamespace <;> rfl
  rw [files, List.map_append, List.map_append, tables, enums, stringFiles, List.map_map]
  rfl

theorem mem_tableComponents_iff {components : List String} :
    components ∈ output.tableComponents options ↔
      ∃ table ∈ output.tables, ∃ name ∈ namesOf options table, name.components = components := by
  simp only [tableComponents, List.mem_flatMap, List.mem_map]

theorem nodup_tableComponents_iff (numbers : ∀ table ∈ output.tables, ∀ layout,
      table.shards = some layout → (layout.plan.shards.map (·.number)).Nodup) :
    (output.tableComponents options).Nodup ↔
      output.tables.Pairwise (OutputTable.Apart options) := by
  have own : ∀ table ∈ output.tables, ((namesOf options table).map EndedPath.components).Nodup :=
    fun table mem => nodup_namesOf (numbers table mem)
  rw [tableComponents, List.nodup_flatMap, and_iff_right own]
  exact List.Pairwise.iff fun a b => disjoint_namesOf_iff

theorem nodup_enumComponents (options : Options) (output : Output) :
    (output.enumComponents options).Nodup := by
  rw [enumComponents]
  split
  · exact List.nodup_singleton _
  · exact List.nodup_nil

theorem eq_of_mem_enumComponents {components : List String}
    (mem : components ∈ output.enumComponents options) :
    components = (enumsName options).components := by
  rw [enumComponents] at mem
  split at mem
  · exact List.mem_singleton.1 mem
  · cases mem

/-- No table writes the code of the enumerations. -/
theorem disjoint_tableComponents_enumComponents (options : Options) (output : Output) :
    List.Disjoint (output.tableComponents options) (output.enumComponents options) := by
  intro components memTables memEnums
  obtain ⟨table, -, name, memName, same⟩ := mem_tableComponents_iff.1 memTables
  have ending := EndedPath.ending_eq (same.trans (eq_of_mem_enumComponents memEnums))
  rcases (mem_namesOf_iff options).1 memName with
      ⟨-, rfl⟩ | ⟨layout, -, rfl | ⟨shard, -, rfl⟩⟩ | ⟨-, rfl⟩ <;>
    cases ending

/-- The strings of a language can only meet the shards and the index of a group. -/
theorem disjoint_stringComponents_iff :
    List.Disjoint
      (output.tableComponents Options.standard ++ output.enumComponents Options.standard)
      (output.stringComponents Options.standard) ↔
    ∀ table ∈ output.tables, ∀ layout, table.shards = some layout →
      ∀ language ∈ output.localization.languages,
        Path.components (stringsPath Options.standard language) ≠ Path.components
          (Path.join Options.standard.outputRoot (ShardLayout.indexFile layout.group)) ∧
        ∀ shard ∈ layout.plan.shards,
          Path.components (stringsPath Options.standard language) ≠ Path.components
            (Path.join Options.standard.outputRoot
              (ShardLayout.shardFile layout.group shard.number)) := by
  constructor
  · intro disjoint table mem layout sharded language memLanguage
    have ne : ∀ name ∈ namesOf Options.standard table,
        Path.components (stringsPath Options.standard language) ≠ name.components :=
      fun name memName same => disjoint
        (List.mem_append_left _ (mem_tableComponents_iff.2 ⟨table, mem, name, memName, rfl⟩))
        (List.mem_map.2 ⟨language, memLanguage, same⟩)
    refine ⟨?_, fun shard memShard => ?_⟩
    · rw [← path_indexName]
      exact ne _ ((mem_namesOf_iff _).2 (.inr (.inl ⟨layout, sharded, .inl rfl⟩)))
    · rw [← path_shardName]
      exact ne _ ((mem_namesOf_iff _).2
        (.inr (.inl ⟨layout, sharded, .inr ⟨shard, memShard, rfl⟩⟩)))
  · intro groups components memBefore memLanguages
    obtain ⟨language, memLanguage, rfl⟩ := List.mem_map.1 memLanguages
    rcases List.mem_append.1 memBefore with memTables | memEnums
    · obtain ⟨table, memTable, name, memName, same⟩ := mem_tableComponents_iff.1 memTables
      rcases (mem_namesOf_iff Options.standard).1 memName with
          ⟨-, rfl⟩ | ⟨layout, sharded, rfl | ⟨shard, memShard, rfl⟩⟩ | ⟨-, rfl⟩
      · rw [EndedPath.components, path_recordsName] at same
        exact components_stringsPath_ne_records language table.schema same.symm
      · rw [EndedPath.components, path_indexName] at same
        exact (groups table memTable layout sharded language memLanguage).1 same.symm
      · rw [EndedPath.components, path_shardName] at same
        exact (groups table memTable layout sharded language memLanguage).2 shard memShard same.symm
      · exact components_stringsPath_ne_code language (.inl rfl) same.symm
    · exact components_stringsPath_ne_code language (.inr rfl) (eq_of_mem_enumComponents memEnums)

/-- With the options of a run that sets none, the paths of its files are different exactly when its
tables, languages and groups are apart. -/
theorem nodup_components_iff (numbers : ∀ table ∈ output.tables, ∀ layout,
      table.shards = some layout → (layout.plan.shards.map (·.number)).Nodup) :
    ((output.files Options.standard).map (Path.components ·.path)).Nodup ↔
      output.Apart Options.standard := by
  have enums : (output.enumComponents Options.standard).Nodup ∧
      List.Disjoint (output.tableComponents Options.standard)
        (output.enumComponents Options.standard) :=
    ⟨nodup_enumComponents _ output, disjoint_tableComponents_enumComponents _ output⟩
  rw [components_files, List.nodup_append', List.nodup_append', and_iff_left enums,
    nodup_tableComponents_iff numbers, disjoint_stringComponents_iff, stringComponents, List.Nodup,
    List.pairwise_map]
  exact ⟨fun ⟨tables, languages, groups⟩ => ⟨tables, languages, groups⟩,
    fun ⟨tables, languages, groups⟩ => ⟨tables, languages, groups⟩⟩

/-- All paths are below the output root, unless they are absolute. -/
theorem rooted_of_mem_files {file : OutputFile} (mem : file ∈ output.files options) :
    Rooted options.outputRoot file.path := by
  have root : Rooted options.outputRoot options.outputRoot := .inr ⟨"", String.append_empty.symm⟩
  rcases List.mem_append.1 mem with mem | strings
  · rcases List.mem_append.1 mem with tables | enums
    · obtain ⟨table, -, mem⟩ := List.mem_flatMap.1 tables
      rcases List.mem_append.1 mem with data | code
      · rw [dataFiles] at data
        split at data
        next layout sharded =>
          rcases List.mem_append.1 data with shard | index
          · obtain ⟨_, -, rfl⟩ := List.mem_map.1 shard
            dsimp only
            exact root.join _
          · obtain rfl := List.mem_singleton.1 index
            dsimp only
            exact root.join _
        next =>
          obtain rfl := List.mem_singleton.1 data
          dsimp only
          exact rooted_recordsPath (root.join _) table.schema
      · rw [codeFiles] at code
        split at code
        next =>
          obtain rfl := List.mem_singleton.1 code
          dsimp only
          exact rooted_codePath (root.join _) table.schema
        next => cases code
    · rw [enumFiles] at enums
      split at enums
      next =>
        obtain rfl := List.mem_singleton.1 enums
        dsimp only
        exact (root.join _).join _
      next => cases enums
  · obtain ⟨language, -, rfl⟩ := List.mem_map.1 strings
    dsimp only
    exact root.join _

end Output

end DesignTables
