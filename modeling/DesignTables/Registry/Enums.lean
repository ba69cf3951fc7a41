import DesignTables.Diagnostic.Problem
import DesignTables.Text.Case

/-!
Enumeration groups: texts with their values.

A group belongs to the sheet that registers it first. Names, texts and values are held in capitals,
and within a group neither a text nor a value occurs twice.
-/
namespace DesignTables

/-- One text of a group with its value. -/
structure EnumEntry where
  text : String
  value : String
  comment : String
deriving DecidableEq, Repr

/-- An enumeration group. -/
structure EnumGroup where
  name : String
  /-- The sheet that owns the group. -/
  sheet : String
  /-- No companion code is written for the group. -/
  nocode : Bool
  entries : List EnumEntry
deriving DecidableEq, Repr

namespace EnumGroup

/-- The value of a text. -/
def valueOf? (group : EnumGroup) (text : String) : Option String :=
  (group.entries.find? (·.text == text)).map (·.value)

end EnumGroup

/-- A row of an enumeration sheet. -/
structure EnumRow where
  sheet : String
  group : String
  text : String
  value : String
  comment : String
  nocode : Bool
deriving DecidableEq, Repr

/-- Enumeration groups in the order of their registration. -/
structure EnumRegistry where
  groups : List EnumGroup
deriving DecidableEq, Repr

namespace EnumRegistry

/-- The registry without groups. -/
def empty : EnumRegistry := ⟨[]⟩

/-- The group of a name. -/
def group? (registry : EnumRegistry) (name : String) : Option EnumGroup :=
  registry.groups.find? (·.name == name)

/-- Whether a group is registered. -/
def hasGroup (registry : EnumRegistry) (name : String) : Bool := (registry.group? name).isSome

/-- The value of a text in a group. -/
def resolve? (registry : EnumRegistry) (group text : String) : Option String :=
  (registry.group? group).bind (·.valueOf? text)

/-- A row with its group, text and value in capitals. -/
def inCapitals (row : EnumRow) : EnumRow :=
  { row with group := Text.upper row.group, text := Text.upper row.text,
             value := Text.upper row.value }

/-- Why a row in capitals cannot be registered, if it cannot. -/
def fault? (registry : EnumRegistry) (row : EnumRow) : Option EnumFault :=
  if row.group.isEmpty then some .noGroup
  else if row.text.isEmpty then some .noText
  else if row.value.isEmpty then some .noValue
  else match registry.group? row.group with
    | none => none
    | some group =>
      if group.sheet ≠ row.sheet then some .ownedByOtherSheet
      else if group.entries.any (·.text == row.text) then some .repeatedText
      else if group.entries.any (·.value == row.value) then some .repeatedValue
      else none

/-- A group with the entry of one more row, whose `nocode` flag now counts. -/
def extend (row : EnumRow) (group : EnumGroup) : EnumGroup :=
  { group with
    nocode := row.nocode
    entries := group.entries ++ [⟨row.text, row.value, row.comment⟩] }

/-- Adds the entry of a row in capitals to its group, which is made if it is new. -/
def add (registry : EnumRegistry) (row : EnumRow) : EnumRegistry :=
  if registry.hasGroup row.group then
    ⟨registry.groups.map fun group => if group.name = row.group then extend row group else group⟩
  else ⟨registry.groups ++ [extend row ⟨row.group, row.sheet, row.nocode, []⟩]⟩

/-- Registers a row, or tells why it cannot be registered. -/
def register (registry : EnumRegistry) (row : EnumRow) : Except EnumFault EnumRegistry :=
  let row := inCapitals row
  match registry.fault? row with
  | some fault => .error fault
  | none => .ok (registry.add row)

/-- Changing the groups of a name, but not their name, changes what is found under it. -/
private theorem find?_map_group (groups : List EnumGroup) (row : EnumRow) (name : String) :
    (groups.map fun group => if group.name = row.group then extend row group else group).find?
        (·.name == name) =
      (groups.find? (·.name == name)).map fun group =>
        if name = row.group then extend row group else group := by
  induction groups with
  | nil => rfl
  | cons first rest ih =>
    have kept : (if first.name = row.group then extend row first else first).name = first.name := by
      split <;> rfl
    rw [List.map_cons, List.find?_cons, List.find?_cons, kept]
    split
    next h => rw [← of_decide_eq_true h]; rfl
    next => exact ih

theorem group?_add (registry : EnumRegistry) (row : EnumRow) (name : String) :
    (registry.add row).group? name =
      if name = row.group then
        some (extend row ((registry.group? name).getD ⟨row.group, row.sheet, row.nocode, []⟩))
      else registry.group? name := by
  unfold add
  split
  next known =>
    refine (find?_map_group registry.groups row name).trans ?_
    obtain ⟨owned, found⟩ := Option.isSome_iff_exists.1 known
    split
    next same => subst same; rw [found]; exact congrArg (Option.map _) found
    next =>
      rw [group?]
      cases registry.groups.find? (·.name == name) <;> rfl
  next new =>
    have absent : registry.group? row.group = none := by simpa [hasGroup] using new
    simp only [group?] at absent
    simp only [group?, List.find?_append, List.find?_cons, List.find?_nil]
    by_cases same : name = row.group
    · simp [same, absent, extend]
    · have other : (row.group == name) = false := by simpa using Ne.symm same
      simp [same, other, extend]

theorem register_eq_ok_iff {registry next : EnumRegistry} {row : EnumRow} :
    registry.register row = .ok next ↔
      registry.fault? (inCapitals row) = none ∧ next = registry.add (inCapitals row) := by
  unfold register
  simp only
  cases registry.fault? (inCapitals row) with
  | some _ => simp
  | none => simp [eq_comm]

end EnumRegistry

end DesignTables
