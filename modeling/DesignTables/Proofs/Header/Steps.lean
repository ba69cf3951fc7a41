import DesignTables.Proofs.Header.Links
import DesignTables.Proofs.Header.Needs

/-!
# What the columns and the needs of a header say together, once its directives are applied

Most directives only add to a column; four sorts of them say something of the header: a key, a
comparison, a target to look values up in, and an enumeration. In whatever order they stand, only
the key column is flagged as one, a compared column is noted, a target is named in full, and where
enumerations are needed some column has one.
-/
namespace DesignTables

/-- Whether a reference names both its table and its column. -/
def ReferenceTarget.IsNamed (target : ReferenceTarget) : Prop :=
  target.table ≠ "" ∧ target.field ≠ ""

namespace Column

/-- Whether element counts are compared with those of the column. -/
def IsTracked (column : Column) : Prop := column.tracksLength = true ∨ column.tracksCount = true

/-- A column after a change that leaves its key flag and its links alone, and takes nothing away. -/
structure Grows (before after : Column) : Prop where
  isKey : after.isKey = before.isKey
  check : after.check = before.check
  arraySizeRef : after.arraySizeRef = before.arraySizeRef
  isUnique : before.isUnique = true → after.isUnique = true
  origin : before.origin.isSome → after.origin.isSome
  enumGroup : before.enumGroup.isSome → after.enumGroup.isSome
  isTracked : before.IsTracked → after.IsTracked

/-- A column that is flagged as key is unique and has an origin. -/
def KeyIsApart (column : Column) : Prop :=
  column.isKey = true → column.isUnique = true ∧ column.origin.isSome

/-- The column that values are looked up in is named with its table. -/
def NamesTarget (column : Column) : Prop := ∀ target ∈ column.check, target.IsNamed

end Column

namespace Header

variable {mergeGroups : List String} {schema after : Schema} {column : Column} {slot : Nat}
  {directive : Directive}

/-- What a directive of the column in a slot makes of a header. -/
inductive Applied (slot : Nat) (before : Schema) : Directive → Schema → Prop
  /-- The directive is passed over, perhaps with a problem. -/
  | skipped {directive : Directive} {after : Schema} (columns : after.columns = before.columns)
      (key : after.key = before.key) (needs : after.needs = before.needs) :
      Applied slot before directive after
  /-- The column becomes the key, unless another one is. -/
  | key {after : Schema} {name : String} (free : ∀ first ∈ before.key, first = slot)
      (columns : after.columns = before.columns.modify slot fun c => { c with
        isKey := true, isUnique := true, origin := c.origin.or (some name) })
      (key : after.key = some slot) (needs : after.needs = before.needs) :
      Applied slot before .key after
  /-- Element counts are compared with those of another column, which is noted. -/
  | compared {directive : Directive} {after : Schema} {source : Nat} {note : Column → Column}
      (inside : source < before.columns.length)
      (columns : after.columns = (before.columns.modify source note).modify slot fun c =>
        { c with arraySizeRef := some source })
      (grows : ∀ c : Column, c.Grows (note c)) (noted : ∀ c, (note c).IsTracked)
      (key : after.key = before.key) (needs : after.needs = before.needs) :
      Applied slot before directive after
  /-- Values are looked up in a column of a table. -/
  | target {text : String} {after : Schema} {target : ReferenceTarget}
      (named : target.IsNamed)
      (columns : after.columns = before.columns.modify slot fun c =>
        { c with check := some target })
      (key : after.key = before.key) (enums : after.needs.enums = before.needs.enums) :
      Applied slot before (.check text) after
  /-- The column has texts of a group. -/
  | grouped {group : String} {after : Schema} {change : Column → Column}
      (columns : after.columns = before.columns.modify slot change)
      (grows : ∀ c : Column, c.Grows (change c)) (given : ∀ c, (change c).enumGroup.isSome)
      (key : after.key = before.key) : Applied slot before (.enumGroup group) after
  /-- The column has texts of a group that another column names. -/
  | referred {title : String} {after : Schema} {change : Column → Column}
      (columns : after.columns = before.columns.modify slot change)
      (grows : ∀ c : Column, c.Grows (change c)) (key : after.key = before.key) :
      Applied slot before (.enumRef title) after
  /-- Something is added to the column. -/
  | plain {directive : Directive} {after : Schema} {change : Column → Column}
      (columns : after.columns = before.columns.modify slot change)
      (grows : ∀ c : Column, c.Grows (change c)) (key : after.key = before.key)
      (enums : after.needs.enums = before.needs.enums) : Applied slot before directive after

/-- What the changes that a directive makes of its own column say of the header. -/
theorem Changes.applied {name : String} {change : Column → Column} {add : TableNeeds → TableNeeds}
    (own : Changes mergeGroups schema name directive change add) : Applied slot schema directive
      { schema.modifyColumn slot change with needs := add schema.needs } := by
  cases own
  case origin =>
    exact .plain rfl (fun c => ⟨rfl, rfl, rfl, id, fun _ => by simp, id, id⟩) rfl rfl
  case unique => exact .plain rfl (fun c => ⟨rfl, rfl, rfl, fun _ => rfl, id, id, id⟩) rfl rfl
  case enumGroup group =>
    exact .grouped rfl (fun c => ⟨rfl, rfl, rfl, id, id, fun _ => rfl, id⟩) (fun _ => rfl) rfl
  case enumRef title => exact .referred rfl (fun c => ⟨rfl, rfl, rfl, id, id, id, id⟩) rfl
  case check target table field pieces named =>
    have full : (⟨table, field⟩ : ReferenceTarget).IsNamed := named
    refine .target full rfl rfl ?_
    change (needTable mergeGroups schema.needs table).enums = schema.needs.enums
    rw [needTable]
    split <;> rfl
  all_goals exact .plain rfl (fun c => ⟨rfl, rfl, rfl, id, id, id, id⟩) rfl rfl

theorem Step.applied (step : Step mergeGroups column slot schema directive after) :
    Applied slot schema directive after := by
  cases step with
  | refused code => exact .skipped rfl rfl rfl
  | passed token => exact .skipped rfl rfl rfl
  | key free => exact .key free rfl rfl rfl
  | changed own => exact own.applied
  | compared lengths source found asks =>
    have below := Schema.lt_of_findSlot? found
    cases lengths
    · exact .compared below (modify_comm (by exact fun _ => rfl) _ _ _)
        (fun c => ⟨rfl, rfl, rfl, id, id, id, fun _ => .inr rfl⟩) (fun _ => .inr rfl) rfl rfl
    · exact .compared below (modify_comm (by exact fun _ => rfl) _ _ _)
        (fun c => ⟨rfl, rfl, rfl, id, id, id, fun _ => .inl rfl⟩) (fun _ => .inl rfl) rfl rfl

end Header

/-- What the directives of a header say of it, whatever their order. -/
structure Schema.Declares (schema : Schema) : Prop where
  key_iff : ∀ slot column, schema.column? slot = some column →
    (column.isKey = true ↔ schema.key = some slot)
  keys : ∀ column ∈ schema.columns, column.KeyIsApart
  compared : ∀ column ∈ schema.columns, ∀ source ∈ column.arraySizeRef,
    ∃ other, schema.column? source = some other ∧ other.IsTracked
  targets : ∀ column ∈ schema.columns, column.NamesTarget

/-- If a table has a key, its column is flagged as one and unique. -/
def Schema.KeyIsUnique (schema : Schema) : Prop :=
  ∀ slot ∈ schema.key, ∃ column, schema.column? slot = some column ∧
    column.isKey = true ∧ column.isUnique = true

namespace Schema

variable {before after : Schema} {slot place : Nat} {change : Column → Column} {column : Column}

theorem column?_of_modify (columns : after.columns = before.columns.modify place change)
    (slot : Nat) : after.column? slot =
      (before.column? slot).map fun c => if place = slot then change c else c := by
  rw [column?, columns, List.getElem?_modify]
  rfl

theorem column?_modifyColumn (schema : Schema) (place : Nat) (change : Column → Column)
    (slot : Nat) : (schema.modifyColumn place change).column? slot =
      (schema.column? slot).map fun c => if place = slot then change c else c :=
  column?_of_modify rfl slot

/-- A change of one column keeps what is said of the header, as far as it keeps it of that column. -/
theorem Declares.of_modify (h : before.Declares)
    (columns : after.columns = before.columns.modify place change)
    (key_iff : ∀ slot c, before.column? slot = some c →
      ((if place = slot then change c else c).isKey = true ↔ after.key = some slot))
    (keys : ∀ c : Column, c.KeyIsApart → (change c).KeyIsApart)
    (isTracked : ∀ c : Column, c.IsTracked → (change c).IsTracked)
    (compared : ∀ c, ∀ source ∈ (change c).arraySizeRef, source ∈ c.arraySizeRef ∨
      ∃ other, before.column? source = some other ∧ other.IsTracked)
    (targets : ∀ c : Column, c.NamesTarget → (change c).NamesTarget) : after.Declares := by
  have tracked {source : Nat}
      (known : ∃ other, before.column? source = some other ∧ other.IsTracked) :
      ∃ other, after.column? source = some other ∧ other.IsTracked := by
    obtain ⟨other, found, tracks⟩ := known
    rw [column?_of_modify columns, found]
    refine ⟨_, rfl, ?_⟩
    dsimp only
    split
    · exact isTracked other tracks
    · exact tracks
  refine ⟨fun slot column found => ?_, fun column mem => ?_, fun column mem source link => ?_,
    fun column mem => ?_⟩
  · rw [column?_of_modify columns] at found
    obtain ⟨old, known, rfl⟩ := Option.map_eq_some_iff.1 found
    exact key_iff slot old known
  · rw [columns] at mem
    rcases mem_modify mem with mem | ⟨old, known, rfl⟩
    · exact h.keys column mem
    · exact keys old (h.keys old (List.mem_of_getElem? known))
  · rw [columns] at mem
    rcases mem_modify mem with mem | ⟨old, known, rfl⟩
    · exact tracked (h.compared column mem source link)
    · rcases compared old source link with own | noted
      · exact tracked (h.compared old (List.mem_of_getElem? known) source own)
      · exact tracked noted
  · rw [columns] at mem
    rcases mem_modify mem with mem | ⟨old, known, rfl⟩
    · exact h.targets column mem
    · exact targets old (h.targets old (List.mem_of_getElem? known))

/-- A change that leaves the key flag alone leaves the key column the only one that is flagged. -/
theorem Declares.key_iff_of_kept (h : before.Declares) (isKey : ∀ c, (change c).isKey = c.isKey)
    (key : after.key = before.key) (slot : Nat) (c : Column)
    (found : before.column? slot = some c) :
    (if place = slot then change c else c).isKey = true ↔ after.key = some slot := by
  rw [key, ← h.key_iff slot c found]
  split
  · rw [isKey]
  · rfl

/-- A change that adds to a column keeps what is said of the header. -/
theorem Declares.grow (h : before.Declares)
    (columns : after.columns = before.columns.modify place change)
    (grows : ∀ c : Column, c.Grows (change c)) (key : after.key = before.key) : after.Declares := by
  refine h.of_modify columns (h.key_iff_of_kept (fun c => (grows c).isKey) key) ?_
    (fun c => (grows c).isTracked) ?_ ?_
  · intro c own isKey
    rw [(grows c).isKey] at isKey
    obtain ⟨isUnique, origin⟩ := own isKey
    exact ⟨(grows c).isUnique isUnique, (grows c).origin origin⟩
  · intro c source link
    rw [(grows c).arraySizeRef] at link
    exact .inl link
  · intro c own
    rw [Column.NamesTarget, (grows c).check]
    exact own

end Schema

namespace Header

variable {schema after : Schema} {column : Column} {slot : Nat} {directive : Directive}

theorem Applied.declares (h : schema.Declares) (step : Applied slot schema directive after) :
    after.Declares := by
  cases step with
  | skipped columns key needs =>
    refine ⟨fun slot column found => ?_, fun column mem => ?_,
      fun column mem source link => ?_, fun column mem => ?_⟩
    · rw [Schema.column?, columns] at found
      rw [key]
      exact h.key_iff slot column found
    · exact h.keys column (columns ▸ mem)
    · rw [Schema.column?, columns]
      exact h.compared column (columns ▸ mem) source link
    · exact h.targets column (columns ▸ mem)
  | key free columns key needs =>
    refine h.of_modify columns ?_ (fun c _ _ => ⟨rfl, by simp⟩) (fun _ => id)
      (fun c source link => .inl link) (fun _ => id)
    intro place c found
    rw [key]
    split
    next same => exact iff_of_true rfl (congrArg some same)
    next apart =>
      -- No other column is flagged: the key would be that one.
      refine iff_of_false (fun flagged => apart ?_) fun same => apart (Option.some.inj same)
      exact (free place ((h.key_iff place c found).1 flagged)).symm
  | @compared directive after source note inside columns grows noted key needs =>
    -- The other column is noted first, so that the comparison is with a column that is.
    let tracking : Schema := { schema with columns := schema.columns.modify source note }
    have known : tracking.Declares := h.grow rfl grows rfl
    have found : ∃ other, tracking.column? source = some other ∧ other.IsTracked := by
      rw [show tracking = schema.modifyColumn source note from rfl, Schema.column?_modifyColumn,
        Schema.column?,
        List.getElem?_eq_getElem inside]
      exact ⟨_, rfl, by simpa using noted _⟩
    refine known.of_modify columns (known.key_iff_of_kept (fun _ => rfl) key) (fun _ => id)
      (fun _ => id) ?_ (fun _ => id)
    intro c source link
    obtain rfl := Option.some.inj link
    exact .inr found
  | target named columns key enums =>
    refine h.of_modify columns (h.key_iff_of_kept (fun _ => rfl) key) (fun _ => id) (fun _ => id)
      (fun c source link => .inl link) ?_
    intro c own target mem
    obtain rfl := Option.some.inj mem
    exact named
  | grouped columns grows given key => exact h.grow columns grows key
  | referred columns grows key => exact h.grow columns grows key
  | plain columns grows key enums => exact h.grow columns grows key

theorem declares_applyDirectives (mergeGroups : List String) (h : schema.Declares) :
    (applyDirectives mergeGroups schema).Declares :=
  applyDirectives_induction h fun _ known _ _ _ directive _ =>
    (step_applyDirective directive).applied.declares known

/-- Linking the columns that name enumeration groups keeps what is said of the header. -/
theorem declares_linkEnumSources (h : schema.Declares) : (linkEnumSources schema).Declares := by
  refine linkEnumSources_induction h ?_ fun now known _ _ =>
    ⟨known.key_iff, known.keys, known.compared, known.targets⟩
  intro now known column slot title source _ _ _
  exact known.grow rfl (fun c => ⟨rfl, rfl, rfl, id, id, id, id⟩) rfl

theorem declares_start (sheet : Sheet) (origin : SheetOrigin) (kind : Kind) :
    (start sheet origin kind).Declares := by
  have plain : ∀ column ∈ (start sheet origin kind).columns,
      column.isKey = false ∧ column.arraySizeRef = none ∧ column.check = none := by
    intro column mem
    obtain ⟨col, title, mode, isArray, directives, rfl⟩ := eq_plain_of_mem_start mem
    exact ⟨rfl, rfl, rfl⟩
  refine ⟨fun slot column found => ?_, fun column mem isKey => ?_,
    fun column mem source link => ?_, fun column mem target named => ?_⟩
  · rw [(plain column (List.mem_of_getElem? found)).1, key_start]
    exact iff_of_false Bool.false_ne_true fun none => by cases none
  · rw [(plain column mem).1] at isKey
    cases isKey
  · rw [(plain column mem).2.1] at link
    cases link
  · rw [(plain column mem).2.2] at named
    cases named

/-- What the header of a sheet says of its columns, whatever problems it has. -/
theorem declares_of_compile? {sheet : Sheet} {origin : SheetOrigin} {mergeGroups : List String}
    (h : compile? sheet origin mergeGroups = some schema) : schema.Declares := by
  rw [compile?_eq] at h
  obtain ⟨kind, -, rfl⟩ := Option.map_eq_some_iff.1 h
  have directed := declares_applyDirectives mergeGroups (declares_start sheet origin kind)
  refine declares_linkEnumSources ?_
  exact ⟨directed.key_iff, directed.keys, directed.compared, directed.targets⟩

variable {sheet : Sheet} {origin : SheetOrigin} {mergeGroups : List String}

/-- The key column of a header is unique, whatever problems it has. -/
theorem keyIsUnique_of_compile? (h : compile? sheet origin mergeGroups = some schema) :
    schema.KeyIsUnique := by
  intro slot key
  have declares := declares_of_compile? h
  have inside := (linksInside_of_compile? h).key slot key
  have place : schema.column? slot = some schema.columns[slot] := List.getElem?_eq_getElem inside
  have flagged := (declares.key_iff slot _ place).2 key
  exact ⟨_, place, flagged, (declares.keys _ (List.mem_of_getElem? place) flagged).1⟩

/-- The header of a table with a key flags a column as one. -/
theorem exists_isKey_of_compile? (h : compile? sheet origin mergeGroups = some schema)
    (keyed : schema.key.isSome) : ∃ column ∈ schema.columns, column.isKey = true := by
  obtain ⟨slot, key⟩ := Option.isSome_iff_exists.1 keyed
  obtain ⟨column, place, flagged, -⟩ := keyIsUnique_of_compile? h slot key
  exact ⟨column, List.mem_of_getElem? place, flagged⟩

end Header

end DesignTables
