import DesignTables.Header.Compile
import DesignTables.Proofs.Lists

/-!
# What one directive makes of a header, and what follows for all of them

A directive is passed over or has a problem, or it makes its column the key, or it changes its column
and perhaps the needs of the table; one that compares element counts notes the other column as well.
What each of these steps keeps is kept by the directives of a header, and what one of them brings
about holds in the end if the others keep it. The links to enumeration groups are made in steps too.
-/
namespace DesignTables

/-- A column that element counts are compared with: the lengths of its arrays, or its values. -/
def Column.tracked (lengths : Bool) (column : Column) : Column :=
  if lengths then { column with tracksLength := true } else { column with tracksCount := true }

namespace Header

/-- The codes of the problems that a directive can have where it stands. -/
def directiveCodes : List Code :=
  [.multipleKeyFields, .invalidRefName, .invalidChangeField, .invalidArrayrefName,
    .invalidArraycntrefName]

/-- What a directive changes of its column alone, whose origin would be declared under `name`, and
what it adds to the needs of the table. -/
inductive Changes (mergeGroups : List String) (schema : Schema) (name : String) :
    Directive → (Column → Column) → (TableNeeds → TableNeeds) → Prop
  | dataType (type : DataType) : Changes mergeGroups schema name (.dataType type)
      (fun c => { c with dataType := c.dataType.or (some type) })
      fun needs => { needs with localization := needs.localization || type == .localText }
  | origin : Changes mergeGroups schema name .origin
      (fun c => { c with origin := c.origin.or (some name) }) id
  | unique : Changes mergeGroups schema name .unique (fun c => { c with isUnique := true }) id
  | null : Changes mergeGroups schema name .null (fun c => { c with nullAllowed := true }) id
  | enumGroup (group : String) : Changes mergeGroups schema name (.enumGroup group)
      (fun c => { c with enumGroup := some group, dataType := some .enumText })
      fun needs => { needs with enums := true }
  | enumRef (title : String) : Changes mergeGroups schema name (.enumRef title)
      (fun c => { c with dataType := some .string }) fun needs => { needs with enums := true }
  | check {target table field : String} (pieces : Text.splitOn '/' target = [table, field])
      (named : table ≠ "" ∧ field ≠ "") : Changes mergeGroups schema name (.check target)
      (fun c => { c with check := some ⟨table, field⟩ }) fun needs => needTable mergeGroups needs table
  | change {title : String} {source : Nat} (found : schema.findSlot? title = some source) :
      Changes mergeGroups schema name (.change title) (fun c => { c with change := some source }) id
  | before (text : String) :
      Changes mergeGroups schema name (.before text) (fun c => { c with before := some text }) id
  | after (text : String) :
      Changes mergeGroups schema name (.after text) (fun c => { c with after := some text }) id
  | arraySize (size : String) : Changes mergeGroups schema name (.arraySize size)
      (fun c => { c with arraySize := some size }) id
  | commaStandIn (text : String) : Changes mergeGroups schema name (.commaStandIn text)
      (fun c => { c with commaStandIn := some text }) id

/-- What a directive of the column in a slot makes of a header. -/
inductive Step (mergeGroups : List String) (column : Column) (slot : Nat) (schema : Schema) :
    Directive → Schema → Prop
  /-- The directive has a problem and changes nothing else. -/
  | refused {directive : Directive} {problem : Problem} (code : problem.code ∈ directiveCodes) :
      Step mergeGroups column slot schema directive
        (schema.report (directiveProblem schema column problem))
  /-- The directive is none. -/
  | passed (token : String) : Step mergeGroups column slot schema (.unknown token) schema
  /-- The column becomes the key, unless another one is. -/
  | key (free : ∀ first ∈ schema.key, first = slot) : Step mergeGroups column slot schema .key
      { schema.modifyColumn slot fun c => { c with
          isKey := true, isUnique := true
          origin := c.origin.or (some (originName schema.name column.title)) } with
        key := some slot }
  /-- The column is changed, and nothing is forgotten that the table needs. -/
  | changed {directive : Directive} {change : Column → Column} {add : TableNeeds → TableNeeds}
      (own : Changes mergeGroups schema (originName schema.name column.title) directive change add) :
      Step mergeGroups column slot schema directive
        { schema.modifyColumn slot change with needs := add schema.needs }
  /-- Element counts are compared with those of another column, which is noted. -/
  | compared {directive : Directive} {title : String} (lengths : Bool) (source : Nat)
      (found : schema.findSlot? title = some source)
      (asks : directive = if lengths then .arraySizeRef title else .arraySizeCount title) :
      Step mergeGroups column slot schema directive
        ((schema.modifyColumn slot fun c => { c with arraySizeRef := some source }).modifyColumn
          source (Column.tracked lengths))

variable {mergeGroups : List String} {column : Column} {slot : Nat} {schema : Schema}
  {directive : Directive}

theorem step_applyCheck (target : String) : Step mergeGroups column slot schema (.check target)
    (applyCheck mergeGroups column slot schema target) := by
  rw [applyCheck]
  split
  next table field pieces =>
    split
    · exact .refused (by simp [Problem.code, directiveCodes])
    next named =>
      rw [Bool.or_eq_true, String.isEmpty_iff, String.isEmpty_iff, not_or] at named
      exact .changed (.check pieces named)
  · exact .refused (by simp [Problem.code, directiveCodes])

/-- A directive makes one of these steps. -/
theorem step_applyDirective (directive : Directive) : Step mergeGroups column slot schema directive
    (applyDirective mergeGroups column slot schema directive) := by
  cases directive <;> simp only [applyDirective]
  case key =>
    split
    · exact .refused (by simp [Problem.code, directiveCodes])
    next free =>
      rw [Option.filter_eq_none_iff] at free
      exact .key fun first known => by simpa using free first known
  case dataType type => exact .changed (.dataType type)
  case origin => exact .changed .origin
  case unique => exact .changed .unique
  case null => exact .changed .null
  case enumGroup group => exact .changed (.enumGroup group)
  case enumRef title => exact .changed (.enumRef title)
  case check target => exact step_applyCheck target
  case change title =>
    split
    next found => exact .changed (.change found)
    · exact .refused (by simp [Problem.code, directiveCodes])
  case before text => exact .changed (.before text)
  case after text => exact .changed (.after text)
  case arraySize size => exact .changed (.arraySize size)
  case arraySizeRef title =>
    split
    next source found => exact .compared true source found rfl
    · exact .refused (by simp [Problem.code, directiveCodes])
  case arraySizeCount title =>
    split
    next source found => exact .compared false source found rfl
    · exact .refused (by simp [Problem.code, directiveCodes])
  case commaStandIn text => exact .changed (.commaStandIn text)
  case unknown token => exact .passed token

/-- What holds of a header and is kept by every directive of its columns holds after all of them. -/
theorem applyDirectives_induction {P : Schema → Prop} (begun : P schema)
    (step : ∀ now, P now → ∀ column slot, (column, slot) ∈ schema.slots →
      ∀ directive ∈ directivesOf column, P (applyDirective mergeGroups column slot now directive)) :
    P (applyDirectives mergeGroups schema) := by
  rw [applyDirectives]
  refine List.foldlRecOn (motive := P) schema.slots _ begun ?_
  rintro now known ⟨column, slot⟩ mem
  refine List.foldlRecOn (motive := P) (directivesOf column) _ known ?_
  exact fun now known directive given => step now known column slot mem directive given

/-- What one directive brings about and every directive keeps holds after all of them. -/
theorem applyDirectives_brings_about {P : Schema → Prop} (mem : (column, slot) ∈ schema.slots)
    (given : directive ∈ directivesOf column)
    (kept : ∀ now, P now → ∀ other place later,
      P (applyDirective mergeGroups other place now later))
    (reached : ∀ now, P (applyDirective mergeGroups column slot now directive)) :
    P (applyDirectives mergeGroups schema) := by
  rw [applyDirectives]
  refine foldl_brings_about (P := P) mem ?_ ?_ schema
  · rintro now known ⟨other, place⟩ _
    exact List.foldlRecOn (motive := P) (directivesOf other) _ known
      fun now known later _ => kept now known other place later
  · exact fun now => foldl_brings_about (P := P) given
      (fun now known later _ => kept now known column slot later) reached now

/-- What holds of a header and is kept by every link to a column that is found, and by every problem
of one that is not, holds after all links are made. -/
theorem linkEnumSources_induction {P : Schema → Prop} (begun : P schema)
    (linked : ∀ now, P now → ∀ column slot title source, (column, slot) ∈ schema.slots →
      enumSource? column = some title → now.findSlot? title = some source →
      P (now.modifyColumn slot fun c => { c with enumGroupRef := some source }))
    (refused : ∀ now, P now → ∀ column title,
      P (now.report (directiveProblem now column (.unknownEnumSource title)))) :
    P (linkEnumSources schema) := by
  rw [linkEnumSources]
  refine List.foldlRecOn (motive := P) schema.slots _ begun ?_
  rintro now known ⟨column, slot⟩ mem
  dsimp only
  split
  · exact known
  next title asks =>
    split
    next source found => exact linked now known column slot title source mem asks found
    · exact refused now known column title

end Header

end DesignTables
