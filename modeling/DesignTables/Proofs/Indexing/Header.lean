import DesignTables.Proofs.Header.Links
import DesignTables.Proofs.Indexing.Access

/-!
# Headers compiled by slots

The directives of a header read and change columns by their slots: that of the column whose
directives are taken, that of the key, and those that titles are found at. All of them are slots of
the columns that were read, of which no directive adds or drops one.
-/
namespace DesignTables.Header

variable {mergeGroups : List String} {schema : Schema} {column : Column} {slot : Nat}

def changeColumn! (schema : Schema) (slot : Nat) (change : Column → Column) : Access Schema := do
  let columns ← Access.modify schema.columns slot change
  return { schema with columns := columns }

/-- Notes a problem of the column in a slot. -/
def refuse! (schema : Schema) (slot : Nat) (problem : Problem) : Access Schema := do
  let column ← Access.read schema.columns slot
  return schema.report (directiveProblem schema column problem)

def applyCheck! (mergeGroups : List String) (slot : Nat) (schema : Schema) (target : String) :
    Access Schema :=
  match Text.splitOn '/' target with
  | [table, field] =>
    if table.isEmpty || field.isEmpty then refuse! schema slot (.unnamedCheckTarget target)
    else do
      let changed ← changeColumn! schema slot fun c => { c with check := some ⟨table, field⟩ }
      return { changed with needs := needTable mergeGroups schema.needs table }
  | _ => refuse! schema slot (.unnamedCheckTarget target)

def applyDirective! (mergeGroups : List String) (slot : Nat) (schema : Schema)
    (directive : Directive) : Access Schema :=
  match directive with
  | .key =>
    match schema.key.filter (· ≠ slot) with
    | some first => do
      let known ← Access.read schema.columns first
      refuse! schema slot (.secondKey known.title)
    | none => do
      let column ← Access.read schema.columns slot
      let marked ← changeColumn! schema slot fun c => { c with
        isKey := true, isUnique := true
        origin := c.origin.or (some (originName schema.name column.title)) }
      return { marked with key := some slot }
  | .dataType type => do
    let typed ← changeColumn! schema slot fun c => { c with dataType := c.dataType.or (some type) }
    return { typed with
      needs := { schema.needs with
        localization := schema.needs.localization || type == .localText } }
  | .origin => do
    let column ← Access.read schema.columns slot
    changeColumn! schema slot fun c =>
      { c with origin := c.origin.or (some (originName schema.name column.title)) }
  | .unique => changeColumn! schema slot fun c => { c with isUnique := true }
  | .null => changeColumn! schema slot fun c => { c with nullAllowed := true }
  | .enumGroup group => do
    let grouped ← changeColumn! schema slot fun c =>
      { c with enumGroup := some group, dataType := some .enumText }
    return { grouped with needs := { schema.needs with enums := true } }
  | .enumRef _ => do
    let typed ← changeColumn! schema slot fun c => { c with dataType := some .string }
    return { typed with needs := { schema.needs with enums := true } }
  | .check target => applyCheck! mergeGroups slot schema target
  | .change title =>
    match schema.findSlot? title with
    | some source => changeColumn! schema slot fun c => { c with change := some source }
    | none => refuse! schema slot (.unknownChangeSource title)
  | .before text => changeColumn! schema slot fun c => { c with before := some text }
  | .after text => changeColumn! schema slot fun c => { c with after := some text }
  | .arraySize size => changeColumn! schema slot fun c => { c with arraySize := some size }
  | .arraySizeRef title =>
    match schema.findSlot? title with
    | some source => do
      let linked ← changeColumn! schema slot fun c => { c with arraySizeRef := some source }
      changeColumn! linked source fun c => { c with tracksLength := true }
    | none => refuse! schema slot (.unknownLengthSource title)
  | .arraySizeCount title =>
    match schema.findSlot? title with
    | some source => do
      let linked ← changeColumn! schema slot fun c => { c with arraySizeRef := some source }
      changeColumn! linked source fun c => { c with tracksCount := true }
    | none => refuse! schema slot (.unknownCountSource title)
  | .commaStandIn text => changeColumn! schema slot fun c => { c with commaStandIn := some text }
  | .unknown _ => do
    -- The column is named in the log.
    let _ ← Access.read schema.columns slot
    return schema

def applyDirectives! (mergeGroups : List String) (schema : Schema) : Access Schema :=
  schema.slots.foldlM (fun now (_, slot) => do
    let column ← Access.read now.columns slot
    (directivesOf column).foldlM (applyDirective! mergeGroups slot) now) schema

def linkEnumSources! (schema : Schema) : Access Schema :=
  schema.slots.foldlM (fun now (column, slot) =>
    match enumSource? column with
    | none => return now
    | some title =>
      match now.findSlot? title with
      | some source => changeColumn! now slot fun c => { c with enumGroupRef := some source }
      | none => refuse! now slot (.unknownEnumSource title)) schema

def compile! (sheet : Sheet) (origin : SheetOrigin) (mergeGroups : List String) :
    Access (Option Schema) :=
  match Kind.detect? sheet.grid with
  | none => return none
  | some kind => do
    let directed ← applyDirectives! mergeGroups (start sheet origin kind)
    return some (← linkEnumSources!
      { directed with diagnostics := directed.diagnostics ++ headerProblems directed })

theorem column?_of_mem_exported {one : Column × Nat} (h : one ∈ schema.exported) :
    schema.column? one.2 = some one.1 := column?_of_mem_slots (List.mem_of_mem_filter h)

theorem changeColumn!_eq_ok (inside : slot < schema.columns.length) (change : Column → Column) :
    changeColumn! schema slot change = .ok (schema.modifyColumn slot change) := by
  rw [changeColumn!, Access.modify_eq_ok inside]
  rfl

/-- What a header keeps while its directives are taken: its columns stand where they were read, and
every slot is that of a column. -/
structure Aligned (begun schema : Schema) : Prop where
  shapes : schema.shapes = begun.shapes
  links : schema.LinksInside

theorem refuse!_eq_ok {now : Column} (place : schema.column? slot = some now)
    (shape : now.shape = column.shape) (problem : Problem) :
    refuse! schema slot problem = .ok (schema.report (directiveProblem schema column problem)) := by
  have title : now.title = column.title := congrArg (·.2.1) shape
  have grid : now.gridColumn = column.gridColumn := congrArg (·.1) shape
  rw [refuse!, Access.read_eq_ok place, Access.ok_bind, directiveProblem, directiveProblem, title,
    grid]
  rfl

theorem applyCheck!_eq_ok {now : Column} (place : schema.column? slot = some now)
    (shape : now.shape = column.shape) (target : String) :
    applyCheck! mergeGroups slot schema target =
      .ok (applyCheck mergeGroups column slot schema target) := by
  obtain ⟨inside, -⟩ := List.getElem?_eq_some_iff.1 place
  have refused := refuse!_eq_ok place shape
  rw [applyCheck!, applyCheck]
  rcases Text.splitOn '/' target with _ | ⟨table, _ | ⟨field, _ | ⟨_, _⟩⟩⟩
  · exact refused _
  · exact refused _
  · dsimp only
    by_cases named : (table.isEmpty || field.isEmpty) = true
    · rw [if_pos named, if_pos named]
      exact refused _
    · rw [if_neg named, if_neg named, changeColumn!_eq_ok inside]
      rfl
  · exact refused _

/-- A directive of a column that is there touches no other slots than those of columns. -/
theorem applyDirective!_eq_ok (links : schema.LinksInside) {now : Column}
    (place : schema.column? slot = some now) (shape : now.shape = column.shape)
    (directive : Directive) :
    applyDirective! mergeGroups slot schema directive =
      .ok (applyDirective mergeGroups column slot schema directive) := by
  obtain ⟨inside, -⟩ := List.getElem?_eq_some_iff.1 place
  have title : now.title = column.title := congrArg (·.2.1) shape
  have read : Access.read schema.columns slot = .ok now := Access.read_eq_ok place
  have changed := changeColumn!_eq_ok inside
  have refused := refuse!_eq_ok place shape
  have linked {name : String} {source : Nat} (found : schema.findSlot? name = some source)
      (change note : Column → Column) :
      (do
        let linked ← changeColumn! schema slot change
        changeColumn! linked source note) =
      Except.ok ((schema.modifyColumn slot change).modifyColumn source note) := by
    have below := Schema.lt_of_findSlot? found
    rw [changed, Access.ok_bind, changeColumn!_eq_ok]
    rw [Schema.length_modifyColumn]
    exact below
  cases directive <;> simp only [applyDirective!, applyDirective]
  case key =>
    cases other : schema.key.filter (· ≠ slot) with
    | some first =>
      have held : first < schema.columns.length :=
        links.key first (Option.filter_eq_some_iff.1 other).1
      have known : schema.columns[first]? = some schema.columns[first] :=
        List.getElem?_eq_getElem held
      have named : schema.titleAt first = schema.columns[first].title := by
        rw [Schema.titleAt, Schema.column?, known]
        rfl
      dsimp only
      rw [Access.read_eq_ok known, Access.ok_bind, refused, named]
    | none =>
      dsimp only
      rw [read, Access.ok_bind, changed, title]
      rfl
  case origin =>
    rw [read, Access.ok_bind, changed, title]
  case check target => exact applyCheck!_eq_ok place shape target
  case change name =>
    cases schema.findSlot? name with
    | some source => exact changed _
    | none => exact refused _
  case arraySizeRef name =>
    cases found : schema.findSlot? name with
    | some source => exact linked found _ _
    | none => exact refused _
  case arraySizeCount name =>
    cases found : schema.findSlot? name with
    | some source => exact linked found _ _
    | none => exact refused _
  case unknown =>
    rw [read]
    rfl
  all_goals
    rw [changed]
    try rfl

theorem Aligned.applyDirective {begun : Schema} (h : Aligned begun schema)
    (place : begun.column? slot = some column) (directive : Directive) :
    Aligned begun (Header.applyDirective mergeGroups column slot schema directive) := by
  obtain ⟨now, here, -⟩ := Schema.exists_column_of_shapes h.shapes place
  obtain ⟨inside, -⟩ := List.getElem?_eq_some_iff.1 here
  exact ⟨(shapes_applyDirective directive).trans h.shapes,
    linksInside_applyDirective h.links inside directive⟩

theorem applyDirectives!_eq_ok (mergeGroups : List String) (links : schema.LinksInside) :
    applyDirectives! mergeGroups schema = .ok (applyDirectives mergeGroups schema) ∧
      Aligned schema (applyDirectives mergeGroups schema) := by
  refine Access.foldlM_eq_ok (Aligned schema) ?_ ⟨rfl, links⟩
  rintro now aligned ⟨column, slot⟩ mem
  have place := column?_of_mem_slots mem
  obtain ⟨current, here, shape⟩ := Schema.exists_column_of_shapes aligned.shapes place
  -- Earlier directives may have changed the column, but not the directives it was read with.
  have directives : directivesOf current = directivesOf column := by
    rw [directivesOf, directivesOf, show current.directives = column.directives from
      congrArg (·.2.2.2.2) shape]
  dsimp only
  rw [Access.read_eq_ok here, Access.ok_bind, directives]
  refine Access.foldlM_eq_ok (Aligned schema) ?_ aligned
  intro now aligned directive _
  obtain ⟨current, here, shape⟩ := Schema.exists_column_of_shapes aligned.shapes place
  exact ⟨applyDirective!_eq_ok aligned.links here shape directive,
    aligned.applyDirective place directive⟩

theorem linkEnumSources!_eq_ok (schema : Schema) :
    linkEnumSources! schema = .ok (linkEnumSources schema) := by
  refine (Access.foldlM_eq_ok (fun now : Schema => now.shapes = schema.shapes) ?_ rfl).1
  rintro now shapes ⟨column, slot⟩ mem
  obtain ⟨current, here, shape⟩ := Schema.exists_column_of_shapes shapes (column?_of_mem_slots mem)
  obtain ⟨inside, -⟩ := List.getElem?_eq_some_iff.1 here
  dsimp only
  cases enumSource? column with
  | none => exact ⟨rfl, shapes⟩
  | some title =>
    dsimp only
    cases now.findSlot? title with
    | some source =>
      refine ⟨changeColumn!_eq_ok inside _, ?_⟩
      dsimp only
      rw [shapes_modifyColumn _ _ (by exact fun _ => rfl), shapes]
    | none => exact ⟨refuse!_eq_ok here shape _, shapes⟩

/-- Compiling a header accesses columns at slots of columns only, whatever the sheet holds. -/
theorem compile!_eq_ok (sheet : Sheet) (origin : SheetOrigin) (mergeGroups : List String) :
    compile! sheet origin mergeGroups = .ok (compile? sheet origin mergeGroups) := by
  rw [compile!, compile?_eq]
  cases Kind.detect? sheet.grid with
  | none => rfl
  | some kind =>
    obtain ⟨directed, -⟩ := applyDirectives!_eq_ok mergeGroups (linksInside_start sheet origin kind)
    dsimp only
    rw [directed, Access.ok_bind, linkEnumSources!_eq_ok]
    rfl

end DesignTables.Header
