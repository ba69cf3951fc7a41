import DesignTables.Proofs.Indexing.Header
import DesignTables.Proofs.Merge.Placement
import DesignTables.Proofs.Registry.Enums

/-!
# Registries filled by slots and positions

The registry of enumerations keeps for every name the position of its group, and each group for
every text the position of its entry. Both grow at their ends only and nothing is taken out of
them, so a position that was noted stays that of what it was noted for.
-/
namespace DesignTables

private theorem modify_concat {α : Type} (xs : List α) (x : α) (f : α → α) :
    (xs ++ [x]).modify xs.length f = xs ++ [f x] := by
  induction xs with
  | nil => rfl
  | cons y ys ih =>
    rw [List.cons_append, List.length_cons, List.modify_succ_cons, ih, List.cons_append]

/-- The texts of an enumeration sheet stand in one of its columns. -/
theorem EnumSlots.text_lt_of_of? {schema : Schema} {slots : EnumSlots}
    (h : EnumSlots.of? schema = some slots) : slots.text < schema.columns.length := by
  obtain ⟨group, -, h⟩ := Option.bind_eq_some_iff.1 h
  obtain ⟨text, place, h⟩ := Option.bind_eq_some_iff.1 h
  obtain ⟨value, -, h⟩ := Option.bind_eq_some_iff.1 h
  obtain ⟨comment, -, h⟩ := Option.bind_eq_some_iff.1 h
  obtain rfl := Option.some.inj h
  exact Schema.lt_of_slotOf? place

/-- A row that is not refused brings a text that its group does not have. -/
theorem EnumRegistry.free_of_fault? {registry : EnumRegistry} {row : EnumRow}
    (h : registry.fault? row = none) {group : EnumGroup}
    (found : registry.group? row.group = some group) :
    group.entries.any (·.text == row.text) = false := by
  rw [EnumRegistry.fault?, found] at h
  split at h
  · cases h
  split at h
  · cases h
  split at h
  · cases h
  dsimp only at h
  split at h
  · cases h
  split at h
  · cases h
  next free => rwa [Bool.not_eq_true] at free

/-- A table that has for every member of a list its position, and nothing else. -/
def Indexes (table : KeyTable String Nat) (names : List String) : Prop :=
  ∀ name place, table.get? name = some place ↔ names[place]? = some name

namespace Indexes

variable {α : Type} {table : KeyTable String Nat} {names : List String} {name : String}

theorem empty : Indexes KeyTable.empty [] := by
  intro name place
  rw [KeyTable.get?_empty]
  simp

theorem nodup (h : Indexes table names) : names.Nodup := by
  rw [List.nodup_iff_getElem?_ne_getElem?]
  intro i j before inside same
  have later : names[j]? = some names[j] := List.getElem?_eq_getElem inside
  have both := ((h _ i).2 (same.trans later)).symm.trans ((h _ j).2 later)
  have equal := Option.some.inj both
  omega

theorem get?_eq_none_iff (h : Indexes table names) : table.get? name = none ↔ name ∉ names := by
  constructor
  · intro absent mem
    obtain ⟨place, here⟩ := List.mem_iff_getElem?.1 mem
    rw [(h name place).2 here] at absent
    cases absent
  · intro new
    refine Option.eq_none_iff_forall_ne_some.2 fun place known => new ?_
    exact List.mem_of_getElem? ((h name place).1 known)

/-- A new name stands behind all others. -/
theorem push (h : Indexes table names) (new : name ∉ names) :
    Indexes (table.set name names.length) (names ++ [name]) := by
  intro other place
  rw [KeyTable.get?_set, List.getElem?_append]
  by_cases own : other = name
  · subst own
    rw [if_pos rfl]
    by_cases inside : place < names.length
    · have apart : names[place]? ≠ some other := fun here => new (List.mem_of_getElem? here)
      rw [if_pos inside]
      simp [apart]
      omega
    · rw [if_neg inside, List.getElem?_singleton]
      by_cases last : place = names.length
      · simp [last]
      · rw [if_neg (by omega)]
        simp [Ne.symm last]
  · rw [if_neg own, h other place]
    by_cases inside : place < names.length
    · rw [if_pos inside]
    · rw [if_neg inside, List.getElem?_eq_none (Nat.not_lt.1 inside), List.getElem?_singleton]
      split
      · simp [Ne.symm own]
      · rfl

/-- What a table has for a name is the position of the member that bears it. -/
theorem map_get? {xs : List α} {key : α → String} (h : Indexes table (xs.map key))
    (name : String) :
    ((table.get? name).map fun place => xs[place]?) = (xs.find? (key · == name)).map some := by
  cases noted : table.get? name with
  | none =>
    have absent := h.get?_eq_none_iff.1 noted
    have nothing : xs.find? (key · == name) = none := by
      rw [List.find?_eq_none]
      intro x mem same
      exact absent (List.mem_map.2 ⟨x, mem, eq_of_beq same⟩)
    rw [nothing]
    rfl
  | some place =>
    have here := (h name place).1 noted
    rw [List.getElem?_map] at here
    obtain ⟨x, stands, bears⟩ := Option.map_eq_some_iff.1 here
    rw [(find?_key_iff h.nodup).2 ⟨List.mem_of_getElem? stands, bears⟩]
    exact congrArg some stands

end Indexes

/-- A group with the positions of its texts. -/
structure IndexedGroup where
  group : EnumGroup
  byText : KeyTable String Nat

namespace IndexedGroup

def valueOf! (known : IndexedGroup) (text : String) : Access (Option String) := do
  let entry ← Access.follow known.group.entries (known.byText.get? text)
  return entry.map (·.value)

/-- A group with the entry of one more row. -/
def extend (row : EnumRow) (known : IndexedGroup) : IndexedGroup where
  group := EnumRegistry.extend row known.group
  byText := known.byText.set row.text known.group.entries.length

/-- Every text of the group is found where it stands. -/
def IsIndexed (known : IndexedGroup) : Prop :=
  Indexes known.byText (known.group.entries.map (·.text))

theorem IsIndexed.valueOf!_eq_ok {known : IndexedGroup} (h : known.IsIndexed) (text : String) :
    known.valueOf! text = .ok (known.group.valueOf? text) := by
  rw [valueOf!, Access.follow_eq_ok_of_map (h.map_get? text)]
  rfl

theorem IsIndexed.extend {known : IndexedGroup} (h : known.IsIndexed) {row : EnumRow}
    (new : known.group.entries.any (·.text == row.text) = false) :
    (known.extend row).IsIndexed := by
  have absent : row.text ∉ known.group.entries.map (·.text) := by
    intro mem
    obtain ⟨entry, stored, same⟩ := List.mem_map.1 mem
    rw [List.any_eq_false] at new
    exact new entry stored (beq_iff_eq.2 same)
  have pushed := Indexes.push h absent
  rw [List.length_map] at pushed
  rw [IsIndexed, IndexedGroup.extend, EnumRegistry.extend, List.map_append]
  exact pushed

end IndexedGroup

/-- Enumeration groups with the positions of their names. -/
structure IndexedEnums where
  groups : List IndexedGroup
  index : KeyTable String Nat

namespace IndexedEnums

def empty : IndexedEnums := ⟨[], KeyTable.empty⟩

def group! (enums : IndexedEnums) (name : String) : Access (Option IndexedGroup) :=
  Access.follow enums.groups (enums.index.get? name)

/-- Whether a group is registered. -/
def hasGroup (enums : IndexedEnums) (name : String) : Bool := (enums.index.get? name).isSome

def resolve! (enums : IndexedEnums) (group text : String) : Access (Option String) := do
  match ← enums.group! group with
  | none => return none
  | some known => known.valueOf! text

def fault! (enums : IndexedEnums) (row : EnumRow) : Access (Option EnumFault) :=
  if row.group.isEmpty then return some .noGroup
  else if row.text.isEmpty then return some .noText
  else if row.value.isEmpty then return some .noValue
  else do
    match ← enums.group! row.group with
    | none => return none
    | some known =>
      return if known.group.sheet ≠ row.sheet then some .ownedByOtherSheet
        else if (known.byText.get? row.text).isSome then some .repeatedText
        else if known.group.entries.any (·.value == row.value) then some .repeatedValue
        else none

/-- Adds the entry of a row in capitals to its group, which is made if it is new. -/
def add! (enums : IndexedEnums) (row : EnumRow) : Access IndexedEnums :=
  match enums.index.get? row.group with
  | some place => do
    let groups ← Access.modify enums.groups place (IndexedGroup.extend row)
    return { enums with groups := groups }
  | none => do
    let made := enums.groups ++ [⟨⟨row.group, row.sheet, row.nocode, []⟩, KeyTable.empty⟩]
    let groups ← Access.modify made enums.groups.length (IndexedGroup.extend row)
    return ⟨groups, enums.index.set row.group enums.groups.length⟩

def register! (enums : IndexedEnums) (row : EnumRow) : Access (Except EnumFault IndexedEnums) := do
  let row := EnumRegistry.inCapitals row
  match ← enums.fault! row with
  | some fault => return .error fault
  | none => return .ok (← enums.add! row)

def takeRow! (schema : Schema) (slots : EnumSlots) (texts : Column)
    (state : IndexedEnums × List Diagnostic) (row : TableRow) :
    Access (IndexedEnums × List Diagnostic) := do
  let given := EnumRegistry.rowOf schema slots row
  match ← state.1.register! given with
  | .ok enums => return (enums, state.2)
  | .error fault =>
    let problem := Problem.refusedEnumRow fault given.group given.text given.value
    return (state.1, state.2 ++
      [Diagnostic.of problem schema.origin fault.label row.row texts.gridColumn])

def registerSheet! (enums : IndexedEnums) (schema : Schema) (rows : List TableRow) :
    Access (IndexedEnums × List Diagnostic) :=
  match EnumSlots.of? schema with
  | some slots => do
    let texts ← Access.read schema.columns slots.text
    rows.foldlM (takeRow! schema slots texts) (enums, [])
  | none =>
    return (enums, [Diagnostic.of .incompleteEnumSheet schema.origin "" Header.titleRow 1])

/-- A registry whose positions are those of what they were noted for. -/
structure Represents (enums : IndexedEnums) (registry : EnumRegistry) : Prop where
  groups : enums.groups.map (·.group) = registry.groups
  index : Indexes enums.index (enums.groups.map (·.group.name))
  texts : ∀ known ∈ enums.groups, known.IsIndexed

theorem represents_empty : empty.Represents EnumRegistry.empty :=
  ⟨rfl, .empty, fun _ mem => absurd mem List.not_mem_nil⟩

namespace Represents

variable {enums : IndexedEnums} {registry : EnumRegistry} (h : enums.Represents registry)
include h

theorem group!_eq_ok (name : String) :
    ∃ found, enums.group! name = .ok found ∧ found.map (·.group) = registry.group? name ∧
      ∀ known ∈ found, known.IsIndexed := by
  refine ⟨_, Access.follow_eq_ok_of_map (h.index.map_get? name), ?_, fun known mem => ?_⟩
  · rw [EnumRegistry.group?, ← h.groups, List.find?_map]
    rfl
  · exact h.texts known (List.mem_of_find?_eq_some mem)

theorem hasGroup_eq (name : String) : enums.hasGroup name = registry.hasGroup name := by
  rw [Bool.eq_iff_iff, EnumRegistry.hasGroup_iff, ← h.groups, List.map_map, hasGroup,
    Option.isSome_iff_ne_none, ne_eq, h.index.get?_eq_none_iff, not_not]
  rfl

theorem resolve!_eq_ok (group text : String) :
    enums.resolve! group text = .ok (registry.resolve? group text) := by
  obtain ⟨found, read, same, indexed⟩ := h.group!_eq_ok group
  rw [resolve!, read, Access.ok_bind, EnumRegistry.resolve?, ← same]
  cases found with
  | none => rfl
  | some known => exact (indexed known rfl).valueOf!_eq_ok text

theorem fault!_eq_ok (row : EnumRow) : enums.fault! row = .ok (registry.fault? row) := by
  obtain ⟨found, read, same, indexed⟩ := h.group!_eq_ok row.group
  rw [fault!, EnumRegistry.fault?, read, Access.ok_bind, ← same]
  split
  · rfl
  split
  · rfl
  split
  · rfl
  cases found with
  | none => rfl
  | some known =>
    have repeated : (known.byText.get? row.text).isSome =
        known.group.entries.any (·.text == row.text) := by
      rw [Bool.eq_iff_iff, Option.isSome_iff_ne_none, ne_eq,
        Indexes.get?_eq_none_iff (indexed known rfl), not_not, List.any_eq_true, List.mem_map]
      simp
    dsimp only [Option.map_some]
    rw [repeated]
    rfl

/-- The group at the position that is noted for a name bears it. -/
theorem exists_group_of_get? {name : String} {place : Nat}
    (noted : enums.index.get? name = some place) :
    ∃ known, enums.groups[place]? = some known ∧ known.group.name = name := by
  have here := (h.index _ _).1 noted
  rw [List.getElem?_map] at here
  exact Option.map_eq_some_iff.1 here

/-- No other group than the one at its position bears a name. -/
theorem name_eq_iff {name : String} {place i : Nat} {known : IndexedGroup}
    (noted : enums.index.get? name = some place) (stands : enums.groups[i]? = some known) :
    known.group.name = name ↔ place = i := by
  have stored : (enums.groups.map (·.group.name))[i]? = some known.group.name := by
    rw [List.getElem?_map, stands]
    rfl
  constructor
  · rintro rfl
    exact Option.some.inj (noted.symm.trans ((h.index _ _).2 stored))
  · rintro rfl
    exact Option.some.inj (stored.symm.trans ((h.index _ _).1 noted))

/-- An entry goes to the group at the position of its name. -/
theorem grow {row : EnumRow} (free : registry.fault? row = none) {place : Nat}
    (noted : enums.index.get? row.group = some place) :
    Represents { enums with groups := enums.groups.modify place (IndexedGroup.extend row) }
      ⟨registry.groups.map fun group =>
        if group.name = row.group then EnumRegistry.extend row group else group⟩ := by
  obtain ⟨grown, stands, bears⟩ := h.exists_group_of_get? noted
  refine ⟨?_, ?_, fun one mem => ?_⟩
  · rw [← h.groups]
    refine List.ext_getElem? fun i => ?_
    rw [List.map_map, List.getElem?_map, List.getElem?_map, List.getElem?_modify]
    cases found : enums.groups[i]? with
    | none => rfl
    | some one =>
      -- The group is found by its position here and by its name there.
      have own := h.name_eq_iff noted found
      simp only [Option.map_some, Function.comp_apply, Option.map_eq_map]
      by_cases same : place = i
      · rw [if_pos same, if_pos (own.2 same)]
        rfl
      · rw [if_neg same, if_neg (own.not.2 same)]
  · dsimp only
    rw [map_modify_of_unseen (by exact fun _ => rfl)]
    exact h.index
  · rcases mem_modify mem with old | ⟨before, found, rfl⟩
    · exact h.texts one old
    · rw [stands] at found
      obtain rfl := Option.some.inj found
      have mem := List.mem_of_getElem? stands
      refine (h.texts grown mem).extend (EnumRegistry.free_of_fault? free ?_)
      rw [EnumRegistry.group?, ← h.groups, find?_key_iff]
      · exact ⟨List.mem_map_of_mem mem, bears⟩
      · rw [List.map_map]
        exact h.index.nodup

/-- The first entry of a group founds it behind all others. -/
theorem found (row : EnumRow) (new : enums.index.get? row.group = none) :
    Represents
      ⟨enums.groups ++
          [IndexedGroup.extend row ⟨⟨row.group, row.sheet, row.nocode, []⟩, KeyTable.empty⟩],
        enums.index.set row.group enums.groups.length⟩
      ⟨registry.groups ++
        [EnumRegistry.extend row ⟨row.group, row.sheet, row.nocode, []⟩]⟩ := by
  refine ⟨?_, ?_, fun one mem => ?_⟩
  · rw [List.map_append, h.groups]
    rfl
  · have pushed := h.index.push (h.index.get?_eq_none_iff.1 new)
    rw [List.length_map] at pushed
    rw [List.map_append]
    exact pushed
  · rcases List.mem_append.1 mem with old | own
    · exact h.texts one old
    · obtain rfl := List.mem_singleton.1 own
      have begun : IndexedGroup.IsIndexed
          ⟨⟨row.group, row.sheet, row.nocode, []⟩, KeyTable.empty⟩ := Indexes.empty
      exact begun.extend rfl

theorem add!_gives {row : EnumRow} (free : registry.fault? row = none) :
    ∃ next, enums.add! row = .ok next ∧ next.Represents (registry.add row) := by
  rw [add!, EnumRegistry.add, ← h.hasGroup_eq row.group, hasGroup]
  cases noted : enums.index.get? row.group with
  | some place =>
    obtain ⟨_, stands, -⟩ := h.exists_group_of_get? noted
    obtain ⟨inside, -⟩ := List.getElem?_eq_some_iff.1 stands
    dsimp only
    rw [Access.modify_eq_ok inside, Access.ok_bind]
    exact ⟨_, rfl, h.grow free noted⟩
  | none =>
    -- The group that is changed is the one that was just put behind the others.
    let made : IndexedGroup := ⟨⟨row.group, row.sheet, row.nocode, []⟩, KeyTable.empty⟩
    have inside : enums.groups.length < (enums.groups ++ [made]).length := by
      rw [List.length_append, List.length_singleton]
      omega
    dsimp only
    rw [Access.modify_eq_ok inside, Access.ok_bind, modify_concat]
    exact ⟨_, rfl, h.found row noted⟩

theorem register!_gives (row : EnumRow) :
    (∃ fault, enums.register! row = .ok (.error fault) ∧ registry.register row = .error fault) ∨
    ∃ next after, enums.register! row = .ok (.ok next) ∧ registry.register row = .ok after ∧
      next.Represents after := by
  rw [register!, EnumRegistry.register, h.fault!_eq_ok, Access.ok_bind]
  cases free : registry.fault? (EnumRegistry.inCapitals row) with
  | some fault => exact .inl ⟨fault, rfl, rfl⟩
  | none =>
    obtain ⟨next, added, represents⟩ := h.add!_gives free
    refine .inr ⟨next, _, ?_, rfl, represents⟩
    dsimp only
    rw [added]
    rfl

/-- Registering the rows of a sheet reads groups, entries and columns that are there. -/
theorem registerSheet!_gives (schema : Schema) (rows : List TableRow) :
    ∃ next, enums.registerSheet! schema rows = .ok next ∧
      next.1.Represents (registry.registerSheet schema rows).1 ∧
      next.2 = (registry.registerSheet schema rows).2 := by
  rw [registerSheet!, EnumRegistry.registerSheet]
  cases found : EnumSlots.of? schema with
  | none => exact ⟨_, rfl, h, rfl⟩
  | some slots =>
    obtain ⟨texts, place⟩ : ∃ texts, schema.column? slots.text = some texts := by
      have inside := EnumSlots.text_lt_of_of? found
      exact ⟨_, List.getElem?_eq_getElem inside⟩
    dsimp only
    rw [Access.read_eq_ok place, Access.ok_bind]
    refine Access.foldlM_gives
      (R := fun (now : IndexedEnums × List Diagnostic) (state : EnumRegistry × List Diagnostic) =>
        now.1.Represents state.1 ∧ now.2 = state.2) ?_ ⟨h, rfl⟩
    rintro ⟨now, noted⟩ ⟨state, _⟩ ⟨represents, rfl⟩ row -
    rw [takeRow!, EnumRegistry.takeRow]
    dsimp only at represents ⊢
    rcases represents.register!_gives (EnumRegistry.rowOf schema slots row) with
      ⟨fault, refused, same⟩ | ⟨next, after, taken, same, kept⟩
    · rw [refused, same, place]
      exact ⟨_, rfl, represents, rfl⟩
    · rw [taken, same]
      exact ⟨_, rfl, kept, rfl⟩

end Represents

end IndexedEnums

namespace LocalizationRegistry

/-- The row of a localization sheet, whose languages are the titles of columns. -/
def rowOf! (schema : Schema) (keySlot : Nat) (row : TableRow) : Access LocalizedString := do
  let texts ← (schema.exported.filter (·.2 ≠ keySlot)).mapM fun (_, slot) => do
    let column ← Access.read schema.columns slot
    return (column.title, row.value slot)
  return ⟨row.value keySlot, schema.name, texts⟩

def takeRow! (schema : Schema) (keySlot : Nat) (keys : Column)
    (state : LocalizationRegistry × List Diagnostic) (row : TableRow) :
    Access (LocalizationRegistry × List Diagnostic) := do
  let entry ← rowOf! schema keySlot row
  match state.1.insert? entry with
  | some registry => return (registry, state.2)
  | none =>
    return (state.1, state.2 ++
      [Diagnostic.of (.repeatedLocalizationKey entry.key) schema.origin "Local Text Key"
        row.row keys.gridColumn])

def registerSheet! (registry : LocalizationRegistry) (schema : Schema) (rows : List TableRow) :
    Access (LocalizationRegistry × List Diagnostic) :=
  match schema.key with
  | some keySlot => do
    let keys ← Access.read schema.columns keySlot
    rows.foldlM (takeRow! schema keySlot keys) (registry, [])
  | none => return (registry, [])

theorem rowOf!_eq_ok (schema : Schema) (keySlot : Nat) (row : TableRow) :
    rowOf! schema keySlot row = .ok (rowOf schema keySlot row) := by
  have read : ∀ one ∈ schema.exported.filter (·.2 ≠ keySlot), (do
      let column ← Access.read schema.columns one.2
      return (column.title, row.value one.2)) = Except.ok (one.1.title, row.value one.2) := by
    rintro ⟨column, slot⟩ mem
    have place := Header.column?_of_mem_exported (List.mem_of_mem_filter mem)
    rw [Access.read_eq_ok place]
    rfl
  rw [rowOf!, Access.mapM_eq_ok read]
  rfl

/-- Registering the strings of a sheet reads columns that are there. -/
theorem registerSheet!_eq_ok (registry : LocalizationRegistry) {schema : Schema}
    (links : schema.LinksInside) (rows : List TableRow) :
    registry.registerSheet! schema rows = .ok (registry.registerSheet schema rows) := by
  rw [registerSheet!, registerSheet]
  cases key : schema.key with
  | none => rfl
  | some keySlot =>
    have inside : keySlot < schema.columns.length := links.key keySlot key
    have place : schema.column? keySlot = some schema.columns[keySlot] :=
      List.getElem?_eq_getElem inside
    dsimp only
    rw [Access.read_eq_ok place, Access.ok_bind]
    refine (Access.foldlM_eq_ok (fun _ => True) ?_ trivial).1
    intro now _ row _
    refine ⟨?_, trivial⟩
    rw [takeRow!, takeRow, rowOf!_eq_ok, Access.ok_bind, place]
    cases now.1.insert? (rowOf schema keySlot row) <;> rfl

end LocalizationRegistry

end DesignTables
