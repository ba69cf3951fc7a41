import DesignTables.Proofs.Compile.Absorption
import DesignTables.Proofs.Lists

/-!
# What enumeration sheets come to in one registry

A group belongs to one sheet, so what a sheet registers does not depend on what other sheets
registered before, as long as no group is claimed by two sheets. The registry of many sheets is
then the groups of each sheet alone, one after the other.
-/
namespace DesignTables.EnumRegistry

/-- The registry with some rows, unless one of them cannot be registered. -/
def registerRows? (registry : EnumRegistry) : List EnumRow → Option EnumRegistry
  | [] => some registry
  | row :: rows =>
    match registry.register row with
    | .ok next => next.registerRows? rows
    | .error _ => none

theorem registerRows?_cons (registry : EnumRegistry) (row : EnumRow) (rows : List EnumRow) :
    registry.registerRows? (row :: rows) =
      if registry.fault? (inCapitals row) = none then
        (registry.add (inCapitals row)).registerRows? rows
      else none := by
  rw [registerRows?, register]
  cases registry.fault? (inCapitals row) <;> rfl

/-- The rows of a sheet as rows of the registry, if it has the columns for that. -/
def rowsOf? (sheet : IngestedSheet) : Option (List EnumRow) :=
  if sheet.schema.isClean && sheet.schema.kind == .enumeration then
    (EnumSlots.of? sheet.schema).map fun slots => sheet.rows.map (rowOf sheet.schema slots)
  else some []

/-- The groups that a sheet registers when it is alone. -/
def groupsOf (sheet : IngestedSheet) : List EnumGroup := (empty.takeSheet sheet).1.groups

theorem foldl_takeRow (schema : Schema) (slots : EnumSlots) (rows : List TableRow)
    (registry : EnumRegistry) :
    match registry.registerRows? (rows.map (rowOf schema slots)) with
    | some next => rows.foldl (takeRow schema slots) (registry, []) = (next, [])
    | none => (rows.foldl (takeRow schema slots) (registry, [])).2 ≠ [] := by
  have noted : ∀ (rows : List TableRow) (now : EnumRegistry × List Diagnostic), now.2 ≠ [] →
      (rows.foldl (takeRow schema slots) now).2 ≠ [] := by
    intro rows
    induction rows with
    | nil => exact fun _ h => h
    | cons row rows ih =>
      intro now h
      apply ih
      simp only [takeRow]
      split
      · exact h
      · simp
  induction rows generalizing registry with
  | nil => rfl
  | cons row rows ih =>
    rw [List.map_cons, registerRows?, List.foldl_cons]
    cases registered : registry.register (rowOf schema slots row) with
    | ok next =>
      have step : takeRow schema slots (registry, []) row = (next, []) := by
        simp only [takeRow, registered]
      rw [step]
      exact ih next
    | error fault =>
      apply noted
      simp only [takeRow, registered]
      simp

/-- A sheet is taken without a problem exactly when all of its rows can be registered. -/
theorem takeSheet_eq_iff {registry next : EnumRegistry} {sheet : IngestedSheet} :
    registry.takeSheet sheet = (next, []) ↔
      ∃ rows, rowsOf? sheet = some rows ∧ registry.registerRows? rows = some next := by
  rw [takeSheet, rowsOf?]
  split
  · rw [registerSheet]
    cases EnumSlots.of? sheet.schema with
    | none => simp
    | some slots =>
      have fold := foldl_takeRow sheet.schema slots sheet.rows registry
      simp only [Option.map_some, Option.some.injEq, exists_eq_left']
      split at fold
      next found => rw [fold, found]; simp
      next found =>
        rw [found]
        constructor
        · intro h
          rw [h] at fold
          exact absurd rfl fold
        · intro h
          cases h
  · simp [registerRows?]

theorem takeSheet_clean_iff {registry : EnumRegistry} {sheet : IngestedSheet} :
    (registry.takeSheet sheet).2 = [] ↔
      ∃ rows, rowsOf? sheet = some rows ∧ (registry.registerRows? rows).isSome := by
  constructor
  · intro clean
    obtain ⟨rows, taken, found⟩ := takeSheet_eq_iff.1 (Prod.ext rfl clean :
      registry.takeSheet sheet = ((registry.takeSheet sheet).1, []))
    exact ⟨rows, taken, by rw [found]; rfl⟩
  · rintro ⟨rows, taken, found⟩
    obtain ⟨next, found⟩ := Option.isSome_iff_exists.1 found
    rw [takeSheet_eq_iff.2 ⟨rows, taken, found⟩]

theorem sheet_of_mem_rowsOf? {sheet : IngestedSheet} {rows : List EnumRow}
    (h : rowsOf? sheet = some rows) {row : EnumRow} (mem : row ∈ rows) :
    row.sheet = sheet.name := by
  rw [rowsOf?] at h
  split at h
  · obtain ⟨slots, _, rfl⟩ := Option.map_eq_some_iff.1 h
    obtain ⟨given, _, rfl⟩ := List.mem_map.1 mem
    rfl
  · obtain rfl := Option.some.inj h
    exact absurd mem List.not_mem_nil

/-- Groups of other sheets, put before those of a registry. -/
def behind (foreign : List EnumGroup) (registry : EnumRegistry) : EnumRegistry :=
  ⟨foreign ++ registry.groups⟩

theorem group?_behind (foreign : List EnumGroup) (registry : EnumRegistry) (name : String) :
    (behind foreign registry).group? name =
      ((⟨foreign⟩ : EnumRegistry).group? name).or (registry.group? name) :=
  List.find?_append

theorem group?_eq_none_iff (registry : EnumRegistry) (name : String) :
    registry.group? name = none ↔ name ∉ registry.groups.map (·.name) := by
  rw [group?, List.find?_eq_none]
  simp

/-- Groups of other sheets only stand in the way of a row that names one of them. -/
theorem fault?_behind {foreign : List EnumGroup} {registry : EnumRegistry} {row : EnumRow}
    (other : ∀ group ∈ foreign, group.sheet ≠ row.sheet) :
    (behind foreign registry).fault? row = none ↔
      registry.fault? row = none ∧ row.group ∉ foreign.map (·.name) := by
  rw [fault?, fault?]
  by_cases noGroup : row.group.isEmpty = true
  · simp [noGroup]
  by_cases noText : row.text.isEmpty = true
  · simp [noGroup, noText]
  by_cases noValue : row.value.isEmpty = true
  · simp [noGroup, noText, noValue]
  rw [if_neg noGroup, if_neg noText, if_neg noValue, if_neg noGroup, if_neg noText, if_neg noValue,
    group?_behind]
  cases found : (⟨foreign⟩ : EnumRegistry).group? row.group with
  | none =>
    have absent := (group?_eq_none_iff ⟨foreign⟩ row.group).1 found
    rw [Option.none_or]
    exact ⟨fun clean => ⟨clean, absent⟩, fun clean => clean.1⟩
  | some group =>
    have mem : group ∈ foreign := List.mem_of_find?_eq_some found
    have named : group.name = row.group := by simpa using List.find?_some found
    rw [Option.some_or]
    dsimp only
    rw [if_pos (other group mem)]
    constructor
    · intro h
      cases h
    · rintro ⟨-, absent⟩
      exact absurd (List.mem_map.2 ⟨group, mem, named⟩) absent

theorem add_behind {foreign : List EnumGroup} {registry : EnumRegistry} {row : EnumRow}
    (absent : row.group ∉ foreign.map (·.name)) :
    (behind foreign registry).add row = behind foreign (registry.add row) := by
  have known : (behind foreign registry).hasGroup row.group = registry.hasGroup row.group := by
    rw [hasGroup, hasGroup, group?_behind, (group?_eq_none_iff ⟨foreign⟩ row.group).2 absent,
      Option.none_or]
  have kept : (foreign.map fun group => if group.name = row.group then extend row group else group) =
      foreign := by
    refine (List.map_congr_left fun group mem => ?_).trans (List.map_id' foreign)
    exact if_neg fun same => absent (List.mem_map.2 ⟨group, mem, same⟩)
  rw [add, add, known]
  split
  · rw [behind, behind, List.map_append, kept]
  · rw [behind, behind, List.append_assoc]

/-- Rows of one sheet are registered behind the groups of others as they would be alone. -/
theorem registerRows?_behind {foreign : List EnumGroup} {rows : List EnumRow}
    (other : ∀ group ∈ foreign, ∀ row ∈ rows, group.sheet ≠ row.sheet) (registry : EnumRegistry) :
    (behind foreign registry).registerRows? rows =
      if ∀ row ∈ rows, Text.upper row.group ∉ foreign.map (·.name) then
        (registry.registerRows? rows).map (behind foreign)
      else none := by
  induction rows generalizing registry with
  | nil => simp [registerRows?]
  | cons row rows ih =>
    have first : ∀ group ∈ foreign, group.sheet ≠ (inCapitals row).sheet :=
      fun group mem => other group mem row List.mem_cons_self
    have rest : ∀ group ∈ foreign, ∀ later ∈ rows, group.sheet ≠ later.sheet :=
      fun group mem later mem' => other group mem later (List.mem_cons_of_mem _ mem')
    rw [registerRows?_cons, registerRows?_cons]
    by_cases absent : Text.upper row.group ∉ foreign.map (·.name)
    · have faults : (behind foreign registry).fault? (inCapitals row) = none ↔
          registry.fault? (inCapitals row) = none :=
        (fault?_behind first).trans (and_iff_left absent)
      simp only [faults, List.forall_mem_cons, absent, not_false_eq_true, true_and]
      rw [add_behind (show (inCapitals row).group ∉ _ from absent), ih rest]
      split
      · rfl
      · rw [Option.map_none, ite_self]
    · rw [if_neg fun clean => absent ((fault?_behind first).1 clean).2,
        if_neg fun all => absent (all row List.mem_cons_self)]

/-- What rows leave behind: groups named as the rows name them, each once, all of the rows' sheet. -/
structure Registered (rows : List EnumRow) (start registry : EnumRegistry) : Prop where
  names : ∀ name, name ∈ registry.groups.map (·.name) ↔
    name ∈ start.groups.map (·.name) ∨ ∃ row ∈ rows, Text.upper row.group = name
  nodup : (start.groups.map (·.name)).Nodup → (registry.groups.map (·.name)).Nodup
  sheet : ∀ group ∈ registry.groups,
    (∃ known ∈ start.groups, known.sheet = group.sheet) ∨ ∃ row ∈ rows, row.sheet = group.sheet

theorem names_add (registry : EnumRegistry) (row : EnumRow) :
    (registry.add row).groups.map (·.name) =
      if registry.hasGroup row.group then registry.groups.map (·.name)
      else registry.groups.map (·.name) ++ [row.group] := by
  rw [add]
  split
  · rw [List.map_map]
    refine List.map_congr_left fun group _ => ?_
    rw [Function.comp]
    split <;> rfl
  · rw [List.map_append]
    rfl

theorem hasGroup_iff {registry : EnumRegistry} {name : String} :
    registry.hasGroup name = true ↔ name ∈ registry.groups.map (·.name) := by
  rw [hasGroup, Option.isSome_iff_ne_none, ne_eq, group?_eq_none_iff, not_not]

theorem mem_names_add {registry : EnumRegistry} {row : EnumRow} {name : String} :
    name ∈ (registry.add row).groups.map (·.name) ↔
      name ∈ registry.groups.map (·.name) ∨ row.group = name := by
  rw [names_add]
  split
  next known =>
    rw [hasGroup_iff] at known
    constructor
    · exact .inl
    · rintro (mem | rfl)
      · exact mem
      · exact known
  next => rw [List.mem_append, List.mem_singleton, eq_comm (a := name)]

theorem nodup_names_add {registry : EnumRegistry} (row : EnumRow)
    (h : (registry.groups.map (·.name)).Nodup) :
    ((registry.add row).groups.map (·.name)).Nodup := by
  rw [names_add]
  split
  next => exact h
  next new =>
    rw [hasGroup_iff] at new
    rw [List.nodup_append']
    refine ⟨h, List.nodup_singleton _, ?_⟩
    intro name mem mem'
    rw [List.mem_singleton] at mem'
    exact new (mem' ▸ mem)

theorem sheet_of_mem_add {registry : EnumRegistry} {row : EnumRow} {group : EnumGroup}
    (h : group ∈ (registry.add row).groups) :
    (∃ known ∈ registry.groups, known.sheet = group.sheet) ∨ row.sheet = group.sheet := by
  rw [add] at h
  split at h
  · obtain ⟨known, mem, rfl⟩ := List.mem_map.1 h
    refine .inl ⟨known, mem, ?_⟩
    split <;> rfl
  · rcases List.mem_append.1 h with mem | mem
    · exact .inl ⟨group, mem, rfl⟩
    · rw [List.mem_singleton] at mem
      exact .inr (mem ▸ rfl)

theorem registered_registerRows? {rows : List EnumRow} {start registry : EnumRegistry}
    (h : start.registerRows? rows = some registry) : Registered rows start registry := by
  induction rows generalizing start with
  | nil =>
    obtain rfl := Option.some.inj h
    exact ⟨by simp, id, fun group mem => .inl ⟨group, mem, rfl⟩⟩
  | cons row rows ih =>
    rw [registerRows?_cons, Option.ite_none_right_eq_some] at h
    obtain ⟨names, nodup, sheet⟩ := ih h.2
    refine ⟨fun name => ?_, fun start => nodup (nodup_names_add _ start), fun group mem => ?_⟩
    · rw [names, mem_names_add, List.exists_mem_cons_iff, or_assoc]
      rfl
    · rcases sheet group mem with ⟨known, mem', same⟩ | ⟨later, mem', same⟩
      · rcases sheet_of_mem_add mem' with ⟨first, mem'', same'⟩ | own
        · exact .inl ⟨first, mem'', same'.trans same⟩
        · exact .inr ⟨row, List.mem_cons_self, own.trans same⟩
      · exact .inr ⟨later, List.mem_cons_of_mem _ mem', same⟩

section

variable {sheet : IngestedSheet} {registry : EnumRegistry}

/-- What a sheet registers alone: groups of its own, with different names. -/
theorem groupsOf_own (clean : (empty.takeSheet sheet).2 = []) :
    ((groupsOf sheet).map (·.name)).Nodup ∧ ∀ group ∈ groupsOf sheet, group.sheet = sheet.name := by
  obtain ⟨rows, given, found⟩ := takeSheet_eq_iff.1
    (show empty.takeSheet sheet = ((empty.takeSheet sheet).1, []) from Prod.ext rfl clean)
  have registered := registered_registerRows? found
  refine ⟨registered.nodup List.nodup_nil, fun group mem => ?_⟩
  rcases registered.sheet group mem with ⟨_, none, _⟩ | ⟨row, mem', same⟩
  · exact absurd none List.not_mem_nil
  · rw [← same, sheet_of_mem_rowsOf? given mem']

/-- The rows of a sheet are registered behind groups of other sheets as they would be alone. -/
theorem registerRows?_of_apart (other : ∀ group ∈ registry.groups, group.sheet ≠ sheet.name)
    {rows : List EnumRow} (given : rowsOf? sheet = some rows) :
    registry.registerRows? rows =
      if ∀ row ∈ rows, Text.upper row.group ∉ registry.groups.map (·.name) then
        (empty.registerRows? rows).map (behind registry.groups)
      else none := by
  have start : registry = behind registry.groups empty := by
    rw [behind, empty, List.append_nil]
  conv_lhs => rw [start]
  apply registerRows?_behind
  intro group mem row mem'
  rw [sheet_of_mem_rowsOf? given mem']
  exact other group mem

/-- The groups that a sheet registers alone are those that its rows name. -/
theorem groupsOf_eq {rows : List EnumRow} {next : EnumRegistry} (given : rowsOf? sheet = some rows)
    (found : empty.registerRows? rows = some next) : groupsOf sheet = next.groups ∧
      ∀ name, name ∈ (groupsOf sheet).map (·.name) ↔ ∃ row ∈ rows, Text.upper row.group = name := by
  have same : groupsOf sheet = next.groups := by
    rw [groupsOf, takeSheet_eq_iff.2 ⟨rows, given, found⟩]
  refine ⟨same, fun name => ?_⟩
  rw [same, (registered_registerRows? found).names]
  exact or_iff_right List.not_mem_nil

/-- A sheet is registered behind groups of other sheets when it can be alone and claims none of
them, and then with the groups that it registers alone. -/
theorem takeSheet_behind (other : ∀ group ∈ registry.groups, group.sheet ≠ sheet.name) :
    ((registry.takeSheet sheet).2 = [] ↔ (empty.takeSheet sheet).2 = [] ∧
      List.Disjoint (registry.groups.map (·.name)) ((groupsOf sheet).map (·.name))) ∧
    ((registry.takeSheet sheet).2 = [] →
      (registry.takeSheet sheet).1.groups = registry.groups ++ groupsOf sheet) := by
  constructor
  · rw [takeSheet_clean_iff, takeSheet_clean_iff]
    constructor
    · rintro ⟨rows, given, found⟩
      rw [registerRows?_of_apart other given] at found
      split at found
      next absent =>
        rw [Option.isSome_map] at found
        obtain ⟨next, registered⟩ := Option.isSome_iff_exists.1 found
        refine ⟨⟨rows, given, found⟩, fun name mem mem' => ?_⟩
        obtain ⟨row, mem'', rfl⟩ := ((groupsOf_eq given registered).2 name).1 mem'
        exact absent row mem'' mem
      next => cases found
    · rintro ⟨⟨rows, given, found⟩, disjoint⟩
      obtain ⟨next, registered⟩ := Option.isSome_iff_exists.1 found
      refine ⟨rows, given, ?_⟩
      rw [registerRows?_of_apart other given, if_pos, Option.isSome_map]
      · exact found
      · intro row mem known
        exact disjoint known (((groupsOf_eq given registered).2 _).2 ⟨row, mem, rfl⟩)
  · intro clean
    obtain ⟨rows, given, found⟩ := takeSheet_clean_iff.1 clean
    obtain ⟨next, registered⟩ := Option.isSome_iff_exists.1 found
    rw [takeSheet_eq_iff.2 ⟨rows, given, registered⟩]
    rw [registerRows?_of_apart other given] at registered
    split at registered
    · obtain ⟨own, registered', rfl⟩ := Option.map_eq_some_iff.1 registered
      rw [behind, (groupsOf_eq given registered').1]
    · cases registered

end

/-- Many sheets are registered when each can be alone and no group is claimed twice, and then with
the groups of each. -/
theorem takeSheets_iff {sheets : List IngestedSheet} {registry : EnumRegistry}
    (other : ∀ group ∈ registry.groups, ∀ sheet ∈ sheets, group.sheet ≠ sheet.name)
    (names : (sheets.map (·.name)).Nodup) (nodup : (registry.groups.map (·.name)).Nodup) :
    ((registry.takeSheets sheets).2 = [] ↔ (∀ sheet ∈ sheets, (empty.takeSheet sheet).2 = []) ∧
      ((registry.groups ++ sheets.flatMap groupsOf).map (·.name)).Nodup) ∧
    ((registry.takeSheets sheets).2 = [] →
      (registry.takeSheets sheets).1.groups = registry.groups ++ sheets.flatMap groupsOf) := by
  induction sheets generalizing registry with
  | nil => simpa [takeSheets] using nodup
  | cons sheet sheets ih =>
    rw [List.map_cons, List.nodup_cons] at names
    have first := takeSheet_behind fun group mem => other group mem sheet List.mem_cons_self
    have unfolded : (registry.takeSheets (sheet :: sheets)) =
        (((registry.takeSheet sheet).1.takeSheets sheets).1,
          (registry.takeSheet sheet).2 ++ ((registry.takeSheet sheet).1.takeSheets sheets).2) := rfl
    rw [unfolded, List.append_eq_nil_iff, List.flatMap_cons, ← List.append_assoc]
    by_cases clean : (registry.takeSheet sheet).2 = []
    · obtain ⟨alone, disjoint⟩ := first.1.1 clean
      obtain ⟨own, ofSheet⟩ := groupsOf_own alone
      have groups := first.2 clean
      have other' : ∀ group ∈ (registry.takeSheet sheet).1.groups, ∀ later ∈ sheets,
          group.sheet ≠ later.name := by
        intro group mem later mem'
        rw [groups] at mem
        rcases List.mem_append.1 mem with mem | mem
        · exact other group mem later (List.mem_cons_of_mem _ mem')
        · intro same
          rw [ofSheet group mem] at same
          exact names.1 (List.mem_map.2 ⟨later, mem', same.symm⟩)
      have nodup' : ((registry.takeSheet sheet).1.groups.map (·.name)).Nodup := by
        rw [groups, List.map_append, List.nodup_append']
        exact ⟨nodup, own, disjoint⟩
      have rest := ih other' names.2 nodup'
      rw [groups] at rest
      refine ⟨?_, fun both => rest.2 both.2⟩
      rw [rest.1, List.forall_mem_cons]
      exact ⟨fun h => ⟨⟨alone, h.2.1⟩, h.2.2⟩, fun h => ⟨clean, h.1.2, h.2⟩⟩
    · refine ⟨⟨fun both => absurd both.1 clean, ?_⟩, fun both => absurd both.1 clean⟩
      rintro ⟨all, distinct⟩
      refine absurd (first.1.2 ⟨all sheet List.mem_cons_self, ?_⟩) clean
      rw [List.map_append, List.map_append, List.nodup_append', List.nodup_append'] at distinct
      exact distinct.1.2.2

/-- The registry of many sheets, none before. -/
theorem takeSheets_empty_iff {sheets : List IngestedSheet} (names : (sheets.map (·.name)).Nodup) :
    ((empty.takeSheets sheets).2 = [] ↔ (∀ sheet ∈ sheets, (empty.takeSheet sheet).2 = []) ∧
      ((sheets.flatMap groupsOf).map (·.name)).Nodup) ∧
    ((empty.takeSheets sheets).2 = [] →
      (empty.takeSheets sheets).1.groups = sheets.flatMap groupsOf) :=
  takeSheets_iff (fun _ none => absurd none List.not_mem_nil) names List.nodup_nil

theorem takeSheets_append (registry : EnumRegistry) (first second : List IngestedSheet) :
    registry.takeSheets (first ++ second) =
      (((registry.takeSheets first).1.takeSheets second).1,
        (registry.takeSheets first).2 ++ ((registry.takeSheets first).1.takeSheets second).2) := by
  induction first generalizing registry with
  | nil => rfl
  | cons sheet first ih => simp only [List.cons_append, takeSheets, ih, List.append_assoc]

/-- A sheet that is no enumeration registers nothing. -/
theorem groupsOf_eq_nil {sheet : IngestedSheet} (h : sheet.schema.kind ≠ .enumeration) :
    groupsOf sheet = [] := by
  rw [groupsOf, takeSheet, if_neg]
  · rfl
  · simp [h]

end DesignTables.EnumRegistry
