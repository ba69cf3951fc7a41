import DesignTables.Proofs.Indexing.Registries

/-!
# Calls that register enumeration rows one after the other

A call either refuses its row and leaves everything as it was, or adds one entry. What is stored for
the groups is their list and the position of each name in it, and for each group its entries, the
position of each text among them and the set of their values: whatever the order of groups, sheets
and refusals, the five stay in step, and every entry comes from the sheet that owns its group.
-/
namespace DesignTables

namespace EnumRegistry

/-- The entry of a row in capitals. -/
def entryOf (row : EnumRow) : EnumEntry := ⟨row.text, row.value, row.comment⟩

/-- A group before its first entry. -/
def groupFor (row : EnumRow) : EnumGroup := ⟨row.group, row.sheet, row.nocode, []⟩

/-- A row in capitals can be registered: it is complete, and a group of its name, if there is one,
belongs to the same sheet and has neither its text nor its value. -/
structure Admits (registry : EnumRegistry) (row : EnumRow) : Prop where
  group : row.group ≠ ""
  text : row.text ≠ ""
  value : row.value ≠ ""
  free : ∀ group ∈ registry.groups, group.name = row.group → group.sheet = row.sheet ∧
    ∀ entry ∈ group.entries, entry.text ≠ row.text ∧ entry.value ≠ row.value

/-- A registry after a row in capitals was registered: one entry more, at the end of its group, which
comes behind all others if it is new. -/
structure AddsEntry (row : EnumRow) (before after : EnumRegistry) : Prop where
  names : after.groups.map (·.name) =
    if row.group ∈ before.groups.map (·.name) then before.groups.map (·.name)
    else before.groups.map (·.name) ++ [row.group]
  others : ∀ name, name ≠ row.group → after.group? name = before.group? name
  group : ∃ group, after.group? row.group = some group ∧ group.sheet = row.sheet ∧
    group.nocode = row.nocode ∧
    group.entries = ((before.group? row.group).map (·.entries)).getD [] ++ [entryOf row]

/-- What a registry has of the rows in capitals that were registered. -/
structure WellKept (rows : List EnumRow) (registry : EnumRegistry) : Prop where
  names : (registry.groups.map (·.name)).Nodup
  named : ∀ group ∈ registry.groups, group.name ≠ ""
  texts : ∀ group ∈ registry.groups, (group.entries.map (·.text)).Nodup
  values : ∀ group ∈ registry.groups, (group.entries.map (·.value)).Nodup
  filled : ∀ group ∈ registry.groups, ∀ entry ∈ group.entries, entry.text ≠ "" ∧ entry.value ≠ ""
  /-- The entries of a group are those of the rows that name it, in their order. -/
  entries : ∀ group ∈ registry.groups,
    group.entries = (rows.filter (·.group == group.name)).map entryOf
  /-- A row stands in a group that belongs to its sheet. -/
  owned : ∀ row ∈ rows, ∃ group ∈ registry.groups, group.name = row.group ∧
    group.sheet = row.sheet

variable {registry : EnumRegistry} {row : EnumRow} {rows : List EnumRow} {group : EnumGroup}

/-- Where no two groups share a name, a group is the one that is found under its name. -/
theorem group?_eq_some_iff (nodup : (registry.groups.map (·.name)).Nodup) {name : String} :
    registry.group? name = some group ↔ group ∈ registry.groups ∧ group.name = name :=
  find?_key_iff nodup

theorem fault?_eq_none_iff (nodup : (registry.groups.map (·.name)).Nodup) :
    registry.fault? row = none ↔ registry.Admits row := by
  have complete : registry.Admits row ↔ (row.group ≠ "" ∧ row.text ≠ "" ∧ row.value ≠ "") ∧
      ∀ group, registry.group? row.group = some group → group.sheet = row.sheet ∧
        ∀ entry ∈ group.entries, entry.text ≠ row.text ∧ entry.value ≠ row.value := by
    simp only [group?_eq_some_iff nodup, and_imp]
    exact ⟨fun h => ⟨⟨h.group, h.text, h.value⟩, h.free⟩, fun h => ⟨h.1.1, h.1.2.1, h.1.2.2, h.2⟩⟩
  have refused (fault : EnumFault) : some fault ≠ none := Option.some_ne_none fault
  rw [complete, fault?]
  simp only [String.isEmpty_iff]
  split
  next none => exact iff_of_false (refused _) fun h => h.1.1 none
  split
  next none => exact iff_of_false (refused _) fun h => h.1.2.1 none
  split
  next none => exact iff_of_false (refused _) fun h => h.1.2.2 none
  next group text value =>
    cases found : registry.group? row.group with
    | none => exact iff_of_true rfl ⟨⟨group, text, value⟩, fun _ known => by cases known⟩
    | some known =>
      simp only [Option.some.injEq, forall_eq', ne_eq, group, text, value, not_false_eq_true,
        true_and]
      split
      next other => exact iff_of_false (refused _) fun h => other h.1
      split
      next twice =>
        obtain ⟨entry, mem, same⟩ := List.any_eq_true.1 twice
        exact iff_of_false (refused _) fun h => (h.2 entry mem).1 (eq_of_beq same)
      split
      next twice =>
        obtain ⟨entry, mem, same⟩ := List.any_eq_true.1 twice
        exact iff_of_false (refused _) fun h => (h.2 entry mem).2 (eq_of_beq same)
      next own text value =>
        refine iff_of_true rfl
          ⟨not_not.1 own, fun entry mem => ⟨fun same => text ?_, fun same => value ?_⟩⟩
        · exact List.any_eq_true.2 ⟨entry, mem, beq_iff_eq.2 same⟩
        · exact List.any_eq_true.2 ⟨entry, mem, beq_iff_eq.2 same⟩

/-- A group after a row was registered is one of the others, or the group of the row with its entry. -/
theorem mem_groups_add_iff (nodup : (registry.groups.map (·.name)).Nodup) :
    group ∈ (registry.add row).groups ↔
      (group ∈ registry.groups ∧ group.name ≠ row.group) ∨
        group = extend row ((registry.group? row.group).getD (groupFor row)) := by
  have name : (extend row ((registry.group? row.group).getD (groupFor row))).name = row.group := by
    cases found : registry.group? row.group with
    | none => rfl
    | some known => exact ((group?_eq_some_iff nodup).1 found).2
  have found : group ∈ (registry.add row).groups ↔
      (registry.add row).group? group.name = some group := by
    rw [group?_eq_some_iff (nodup_names_add row nodup), and_iff_left rfl]
  rw [found, group?_add]
  split
  next same =>
    rw [same, Option.some.injEq, eq_comm]
    exact (or_iff_right fun kept => kept.2 rfl).symm
  next other =>
    rw [group?_eq_some_iff nodup, and_iff_left rfl, and_iff_left other]
    exact (or_iff_left fun own : group = _ => other ((congrArg EnumGroup.name own).trans name)).symm

theorem addsEntry_add (nodup : (registry.groups.map (·.name)).Nodup) (admits : registry.Admits row) :
    AddsEntry row registry (registry.add row) := by
  refine ⟨?_, fun name other => ?_, ?_⟩
  · rw [names_add]
    simp only [hasGroup_iff]
  · rw [group?_add, if_neg other]
  · rw [group?_add, if_pos rfl]
    refine ⟨_, rfl, ?_⟩
    cases found : registry.group? row.group with
    | none => exact ⟨rfl, rfl, rfl⟩
    | some known =>
      obtain ⟨mem, name⟩ := (group?_eq_some_iff nodup).1 found
      exact ⟨(admits.free known mem name).1, rfl, rfl⟩

/-- What holds of the groups that a row leaves alone, of its own group when that grows and of its own
group when that is new holds of all groups. -/
theorem forall_groups_add {P : EnumGroup → Prop} (nodup : (registry.groups.map (·.name)).Nodup)
    (kept : ∀ group ∈ registry.groups, group.name ≠ row.group → P group)
    (grown : ∀ group ∈ registry.groups, group.name = row.group → P (extend row group))
    (founded : (∀ group ∈ registry.groups, group.name ≠ row.group) → P (extend row (groupFor row))) :
    ∀ group ∈ (registry.add row).groups, P group := by
  intro group mem
  rcases (mem_groups_add_iff nodup).1 mem with ⟨mem, other⟩ | rfl
  · exact kept group mem other
  · cases found : registry.group? row.group with
    | none =>
      refine founded fun group mem same => ?_
      rw [group?_eq_none_iff] at found
      exact found (List.mem_map.2 ⟨group, mem, same⟩)
    | some old =>
      obtain ⟨mem, name⟩ := (group?_eq_some_iff nodup).1 found
      exact grown old mem name

theorem wellKept_empty : empty.WellKept [] :=
  ⟨List.nodup_nil, by simp [empty], by simp [empty], by simp [empty], by simp [empty],
    by simp [empty], by simp⟩

/-- A new key stays apart from those of the other entries. -/
theorem nodup_extend {f : EnumEntry → String} (nodup : (group.entries.map f).Nodup)
    (new : ∀ entry ∈ group.entries, f entry ≠ f (entryOf row)) :
    ((extend row group).entries.map f).Nodup := by
  rw [extend, List.map_append]
  refine List.nodup_append'.2 ⟨nodup, List.nodup_singleton _, fun key mem own => ?_⟩
  obtain ⟨entry, inside, rfl⟩ := List.mem_map.1 mem
  exact new entry inside (List.mem_singleton.1 own)

/-- Registering a row that can be registered keeps everything in order. -/
theorem WellKept.add (h : registry.WellKept rows) (admits : registry.Admits row) :
    (registry.add row).WellKept (rows ++ [row]) where
  names := nodup_names_add row h.names
  named := forall_groups_add h.names (fun group mem _ => h.named group mem)
    (fun group mem _ => h.named group mem) fun _ => admits.group
  texts := forall_groups_add h.names (fun group mem _ => h.texts group mem)
    (fun group mem name => nodup_extend (h.texts group mem) fun entry inside =>
      ((admits.free group mem name).2 entry inside).1)
    fun _ => List.nodup_singleton _
  values := forall_groups_add h.names (fun group mem _ => h.values group mem)
    (fun group mem name => nodup_extend (h.values group mem) fun entry inside =>
      ((admits.free group mem name).2 entry inside).2)
    fun _ => List.nodup_singleton _
  filled := by
    have own {entry : EnumEntry} (same : entry ∈ [entryOf row]) :
        entry.text ≠ "" ∧ entry.value ≠ "" := by
      rw [List.mem_singleton.1 same]
      exact ⟨admits.text, admits.value⟩
    refine forall_groups_add h.names (fun group mem _ => h.filled group mem) ?_
      fun _ entry mem => own mem
    intro group mem _ entry inside
    exact (List.mem_append.1 inside).elim (h.filled group mem entry) own
  entries := by
    refine forall_groups_add h.names ?_ ?_ ?_
    · intro group mem other
      rw [List.filter_append, List.filter_cons_of_neg (by simpa using Ne.symm other),
        List.filter_nil, List.append_nil]
      exact h.entries group mem
    · intro group mem name
      change (extend row group).entries =
        ((rows ++ [row]).filter (·.group == group.name)).map entryOf
      rw [List.filter_append, List.filter_cons, if_pos (beq_iff_eq.2 name.symm), List.filter_nil,
        List.map_append, extend, h.entries group mem]
      rfl
    · intro new
      -- No row before this one names the group: each stands in a group of the registry.
      have none : rows.filter (·.group == row.group) = [] := by
        refine List.filter_eq_nil_iff.2 fun other mem same => ?_
        obtain ⟨group, stored, name, -⟩ := h.owned other mem
        exact new group stored (name.trans (eq_of_beq same))
      rw [List.filter_append, show (extend row (groupFor row)).name = row.group from rfl, none,
        List.filter_cons, if_pos (beq_self_eq_true _)]
      rfl
  owned := by
    have mem_add {group : EnumGroup} : group ∈ (registry.add row).groups ↔
        (group ∈ registry.groups ∧ group.name ≠ row.group) ∨
          group = extend row ((registry.group? row.group).getD (groupFor row)) :=
      mem_groups_add_iff h.names
    intro other mem
    rcases List.mem_append.1 mem with mem | mem
    · obtain ⟨group, stored, name, sheet⟩ := h.owned other mem
      by_cases same : group.name = row.group
      · refine ⟨extend row group, mem_add.2 (.inr ?_), name, sheet⟩
        rw [(group?_eq_some_iff h.names).2 ⟨stored, same⟩]
        rfl
      · exact ⟨group, mem_add.2 (.inl ⟨stored, same⟩), name, sheet⟩
    · obtain rfl := List.mem_singleton.1 mem
      refine ⟨_, mem_add.2 (.inr rfl), ?_⟩
      cases found : registry.group? other.group with
      | none => exact ⟨rfl, rfl⟩
      | some known =>
        obtain ⟨stored, name⟩ := (group?_eq_some_iff h.names).1 found
        exact ⟨name, (admits.free known stored name).1⟩

/-- A text of a group resolves to a value when the group has an entry with both. -/
theorem WellKept.resolve?_eq_some_iff (h : registry.WellKept rows) {name text value : String} :
    registry.resolve? name text = some value ↔ ∃ group ∈ registry.groups, group.name = name ∧
      ∃ entry ∈ group.entries, entry.text = text ∧ entry.value = value := by
  rw [resolve?, Option.bind_eq_some_iff]
  simp only [group?_eq_some_iff h.names, and_assoc]
  refine exists_congr fun group => and_congr_right fun mem => and_congr_right fun _ => ?_
  rw [EnumGroup.valueOf?, Option.map_eq_some_iff]
  simp only [find?_key_iff (h.texts group mem), and_assoc]

/-- One call after others: the registry, and the rows in capitals that were registered. -/
def call (state : EnumRegistry × List EnumRow) (row : EnumRow) : EnumRegistry × List EnumRow :=
  match state.1.register row with
  | .ok next => (next, state.2 ++ [inCapitals row])
  | .error _ => state

/-- Calls for some rows from the empty registry. -/
def calls (rows : List EnumRow) : EnumRegistry × List EnumRow := rows.foldl call (empty, [])

theorem register_eq_ok_iff_admits (h : registry.WellKept rows) {next : EnumRegistry} :
    registry.register row = .ok next ↔
      registry.Admits (inCapitals row) ∧ next = registry.add (inCapitals row) := by
  rw [register_eq_ok_iff, fault?_eq_none_iff h.names]

theorem wellKept_calls (rows : List EnumRow) : (calls rows).1.WellKept (calls rows).2 := by
  refine List.foldlRecOn (motive := fun state : EnumRegistry × List EnumRow =>
    state.1.WellKept state.2) rows _ wellKept_empty fun state kept row _ => ?_
  rw [call]
  cases registered : state.1.register row with
  | error fault => exact kept
  | ok next =>
    obtain ⟨admits, rfl⟩ := (register_eq_ok_iff_admits kept).1 registered
    exact kept.add admits

end EnumRegistry

/-- A group as it is stored, with the set of its values. -/
structure StoredGroup where
  known : IndexedGroup
  values : List String

/-- The same with the entry of one more row. -/
def StoredGroup.extend (row : EnumRow) (stored : StoredGroup) : StoredGroup :=
  ⟨stored.known.extend row, stored.values ++ [row.value]⟩

/-- The set of a group holds the values of its entries. -/
def StoredGroup.InStep (stored : StoredGroup) : Prop :=
  ∀ value, value ∈ stored.values ↔ value ∈ stored.known.group.entries.map (·.value)

theorem StoredGroup.InStep.extend {stored : StoredGroup} (h : stored.InStep) (row : EnumRow) :
    (stored.extend row).InStep := by
  intro value
  simp only [StoredGroup.extend, IndexedGroup.extend, EnumRegistry.extend, List.map_append,
    List.mem_append, h value]
  rfl

/-- Groups as they are stored, with the positions of their names. -/
structure StoredEnums where
  groups : List StoredGroup
  index : KeyTable String Nat

namespace StoredEnums

def empty : StoredEnums := ⟨[], KeyTable.empty⟩

/-- The groups without the sets of their values. -/
def indexed (stored : StoredEnums) : IndexedEnums := ⟨stored.groups.map (·.known), stored.index⟩

def fault! (stored : StoredEnums) (row : EnumRow) : Access (Option EnumFault) :=
  if row.group.isEmpty then return some .noGroup
  else if row.text.isEmpty then return some .noText
  else if row.value.isEmpty then return some .noValue
  else do
    match ← Access.follow stored.groups (stored.index.get? row.group) with
    | none => return none
    | some group =>
      return if group.known.group.sheet ≠ row.sheet then some .ownedByOtherSheet
        else if (group.known.byText.get? row.text).isSome then some .repeatedText
        else if group.values.contains row.value then some .repeatedValue
        else none

/-- The position of the group of a row, which is made behind all others if it is new. -/
def place (stored : StoredEnums) (row : EnumRow) : Nat × StoredEnums :=
  match stored.index.get? row.group with
  | some place => (place, stored)
  | none => (stored.groups.length,
      ⟨stored.groups ++ [⟨⟨EnumRegistry.groupFor row, KeyTable.empty⟩, []⟩],
        stored.index.set row.group stored.groups.length⟩)

/-- A call: why its row is refused, if it is, and what is stored afterwards. -/
def call! (stored : StoredEnums) (row : EnumRow) : Access (Option EnumFault × StoredEnums) := do
  let row := EnumRegistry.inCapitals row
  match ← stored.fault! row with
  | some fault => return (some fault, stored)
  | none => do
    let (place, made) := stored.place row
    let groups ← Access.modify made.groups place (StoredGroup.extend row)
    return (none, { made with groups := groups })

/-- What is stored after calls for some rows. -/
def calls! (rows : List EnumRow) : Access StoredEnums :=
  rows.foldlM (fun stored row => do
    let (_, next) ← stored.call! row
    return next) empty

/-- What is stored is that of a registry: its groups, the positions of their names and texts, and
the sets of their values. -/
structure InStep (stored : StoredEnums) (registry : EnumRegistry) : Prop where
  represents : stored.indexed.Represents registry
  values : ∀ group ∈ stored.groups, group.InStep

/-- Registering by positions in what is stored, without the sets of values. -/
theorem add!_indexed (stored : StoredEnums) (row : EnumRow) :
    stored.indexed.add! row = do
      let groups ← Access.modify (stored.place row).2.indexed.groups (stored.place row).1
        (IndexedGroup.extend row)
      return { (stored.place row).2.indexed with groups := groups } := by
  rw [IndexedEnums.add!, place]
  change (match stored.index.get? row.group with | some place => _ | none => _) = _
  cases stored.index.get? row.group with
  | some place => rfl
  | none =>
    simp only [indexed, List.map_append, List.length_map]
    rfl

theorem map_known_modify (groups : List StoredGroup) (place : Nat) (row : EnumRow) :
    (groups.modify place (StoredGroup.extend row)).map (·.known) =
      (groups.map (·.known)).modify place (IndexedGroup.extend row) := by
  refine List.ext_getElem? fun i => ?_
  rw [List.getElem?_map, List.getElem?_modify, List.getElem?_modify, List.getElem?_map]
  cases groups[i]? with
  | none => rfl
  | some group =>
    simp only [Option.map_some, Option.map_eq_map]
    split <;> rfl

theorem inStep_empty : empty.InStep EnumRegistry.empty :=
  ⟨IndexedEnums.represents_empty, fun _ mem => absurd mem List.not_mem_nil⟩

namespace InStep

variable {stored : StoredEnums} {registry : EnumRegistry} {row : EnumRow}

/-- The set of values tells whether one is repeated. -/
theorem fault!_eq_ok (h : stored.InStep registry) (row : EnumRow) :
    stored.fault! row = .ok (registry.fault? row) := by
  have indexed := h.represents.fault!_eq_ok row
  rw [IndexedEnums.fault!, IndexedEnums.group!] at indexed
  rw [← indexed, fault!]
  split
  · rfl
  split
  · rfl
  split
  · rfl
  change _ = ((Access.follow (stored.groups.map (·.known)) (stored.index.get? row.group)) >>= _)
  cases noted : stored.index.get? row.group with
  | none => rfl
  | some place =>
    obtain ⟨known, stands, -⟩ := h.represents.exists_group_of_get? noted
    have there : (stored.groups.map (·.known))[place]? = some known := stands
    have mapped := there
    rw [List.getElem?_map] at mapped
    obtain ⟨group, here, rfl⟩ := Option.map_eq_some_iff.1 mapped
    have twice : group.values.contains row.value =
        group.known.group.entries.any (·.value == row.value) := by
      rw [Bool.eq_iff_iff, List.contains_iff_mem, h.values group (List.mem_of_getElem? here),
        List.mem_map, List.any_eq_true]
      simp only [beq_iff_eq]
    rw [Access.follow, Access.follow, Access.read_eq_ok here, Access.read_eq_ok there]
    simp only [Access.ok_bind, Access.pure_eq_ok, twice]

/-- A row that is not refused is added to the group at the position of its name. -/
theorem modify_gives (h : stored.InStep registry) (free : registry.fault? row = none) :
    ∃ groups, Access.modify (stored.place row).2.groups (stored.place row).1
        (StoredGroup.extend row) = .ok groups ∧
      InStep { (stored.place row).2 with groups := groups } (registry.add row) := by
  obtain ⟨next, added, represents⟩ := h.represents.add!_gives free
  rw [add!_indexed] at added
  have values : ∀ group ∈ (stored.place row).2.groups, group.InStep := by
    rw [place]
    split
    · exact h.values
    · intro group mem
      rcases List.mem_append.1 mem with mem | mem
      · exact h.values group mem
      · rw [List.mem_singleton.1 mem]
        exact fun _ => Iff.rfl
  generalize stored.place row = placed at added values ⊢
  obtain ⟨place, made⟩ := placed
  dsimp only at added values ⊢
  by_cases inside : place < made.groups.length
  · refine ⟨_, Access.modify_eq_ok inside _, ?_, fun group mem => ?_⟩
    · have width : place < made.indexed.groups.length := by
        rw [indexed, List.length_map]
        exact inside
      rw [Access.modify_eq_ok width] at added
      obtain rfl := Except.ok.inj added
      rw [indexed, map_known_modify]
      exact represents
    · rcases mem_modify mem with mem | ⟨old, here, rfl⟩
      · exact values group mem
      · exact (values old (List.mem_of_getElem? here)).extend row
  · have outside : ¬ place < made.indexed.groups.length := by
      rw [indexed, List.length_map]
      exact inside
    rw [Access.modify, if_neg outside] at added
    cases added

/-- A call refuses what the registry refuses, and else adds what the registry adds. -/
theorem call!_gives (h : stored.InStep registry) (row : EnumRow) :
    (∃ fault, stored.call! row = .ok (some fault, stored) ∧ registry.register row = .error fault) ∨
    ∃ next after, stored.call! row = .ok (none, next) ∧ registry.register row = .ok after ∧
      next.InStep after := by
  rw [call!, EnumRegistry.register, h.fault!_eq_ok, Access.ok_bind]
  cases free : registry.fault? (EnumRegistry.inCapitals row) with
  | some fault => exact .inl ⟨fault, rfl, rfl⟩
  | none =>
    obtain ⟨groups, modified, kept⟩ := h.modify_gives free
    refine .inr ⟨_, _, ?_, rfl, kept⟩
    dsimp only
    rw [modified]
    rfl

end InStep

theorem calls!_gives (rows : List EnumRow) :
    ∃ stored, calls! rows = .ok stored ∧ stored.InStep (EnumRegistry.calls rows).1 := by
  refine Access.foldlM_gives
    (R := fun (stored : StoredEnums) (state : EnumRegistry × List EnumRow) =>
      stored.InStep state.1) ?_ inStep_empty
  rintro stored ⟨registry, accepted⟩ kept row -
  rw [EnumRegistry.call]
  rcases kept.call!_gives row with ⟨fault, refused, same⟩ | ⟨next, after, taken, same, kept⟩
  · rw [refused, same]
    exact ⟨_, rfl, kept⟩
  · rw [taken, same]
    exact ⟨_, rfl, kept⟩

end StoredEnums

namespace EnumRegistry

variable {registry : EnumRegistry} {rows : List EnumRow}

/-- The rows that were registered are some of those given, in their order. -/
theorem sublist_calls (rows : List EnumRow) : (calls rows).2.Sublist (rows.map inCapitals) := by
  have run : ∀ (rows : List EnumRow) (state : EnumRegistry × List EnumRow),
      (rows.foldl call state).2.Sublist (state.2 ++ rows.map inCapitals) := by
    intro rows
    induction rows with
    | nil =>
      intro state
      rw [List.map_nil, List.append_nil]
      exact List.Sublist.refl _
    | cons row rows ih =>
      intro state
      refine (ih (call state row)).trans ?_
      rw [List.map_cons, call]
      cases state.1.register row with
      | error fault => exact (List.sublist_cons_self _ _).append_left state.2
      | ok next => rw [List.append_assoc, List.singleton_append]
  exact run rows (empty, [])

/-- Whatever rows are registered one after the other, refused ones passed over: groups have names of
their own, and within a group no text and no value occurs twice; none of these is empty, and the
entries of a group are the rows of the sheet that owns it. What is stored for look-ups stays in step
with the groups. A further row is registered exactly when it is complete and its group, if there is
one, belongs to its sheet and has neither its text nor its value; then one entry is added, and else
nothing changes. -/
theorem calls_stay_in_step (rows : List EnumRow) :
    let registry := (calls rows).1
    let accepted := (calls rows).2
    registry.WellKept accepted ∧ accepted.Sublist (rows.map inCapitals) ∧
    (∀ name text value, registry.resolve? name text = some value ↔
      ∃ group ∈ registry.groups, group.name = name ∧
        ∃ entry ∈ group.entries, entry.text = text ∧ entry.value = value) ∧
    ∃ stored, StoredEnums.calls! rows = .ok stored ∧ stored.InStep registry ∧
      (∀ name text, stored.indexed.resolve! name text = .ok (registry.resolve? name text)) ∧
      ∀ row, ∃ refusal next, stored.call! row = .ok (refusal, next) ∧
        (refusal = none ↔ registry.Admits (inCapitals row)) ∧
        match refusal with
        | some fault => next = stored ∧ registry.register row = .error fault
        | none => ∃ after, registry.register row = .ok after ∧ next.InStep after ∧
            AddsEntry (inCapitals row) registry after := by
  dsimp only
  have kept := wellKept_calls rows
  obtain ⟨stored, called, inStep⟩ := StoredEnums.calls!_gives rows
  refine ⟨kept, sublist_calls rows, fun _ _ _ => kept.resolve?_eq_some_iff, stored, called, inStep,
    inStep.represents.resolve!_eq_ok, fun row => ?_⟩
  rcases inStep.call!_gives row with ⟨fault, refused, same⟩ | ⟨next, after, taken, same, still⟩
  · refine ⟨_, _, refused, iff_of_false (Option.some_ne_none fault) fun admits => ?_, rfl, same⟩
    have taken := (register_eq_ok_iff_admits kept).2 ⟨admits, rfl⟩
    rw [same] at taken
    cases taken
  · obtain ⟨admits, rfl⟩ := (register_eq_ok_iff_admits kept).1 same
    exact ⟨_, _, taken, iff_of_true rfl admits, _, same, still, addsEntry_add kept.names admits⟩

/-- A row without a value makes no group, so another sheet may own the group of its name; the first
sheet comes too late then. -/
example :
    let row (sheet group text value : String) : EnumRow := ⟨sheet, group, text, value, "", false⟩
    (calls [row "s" "color" "red" "", row "t" "color" "red" "1", row "s" "color" "blue" "2",
      row "t" "Color" "blue" "2", row "t" "color" "green" "1"]).1.groups.map
        (fun group => (group.name, group.sheet, group.entries.map (·.text))) =
      [("COLOR", "t", ["RED", "BLUE"])] := by
  decide +kernel

end EnumRegistry

end DesignTables
