import DesignTables.Proofs.Merge.Placement
import DesignTables.Proofs.Validation.EnumCodes
import DesignTables.Proofs.Validation.Writing

/-!
# What columns with a `change` directive are written with

A column takes what its source has when it is reached, and columns are reached from left to right.
So links to the left are followed to their end, and a link to the right ends the way: the column is
written with what the checks give for the source there, whether or not the source is written with
something else in the end.
-/
namespace DesignTables

namespace Schema

variable {schema : Schema} {slot source : Nat}

/-- The source of the column in a slot. -/
def changeAt? (schema : Schema) (slot : Nat) : Option Nat :=
  (schema.column? slot).bind (·.change)

/-- The slot whose checked value a column is written with: links are followed as long as they lead
to the left, and the first that does not is the last. -/
def giver (schema : Schema) (slot : Nat) : Nat :=
  match schema.changeAt? slot with
  | none => slot
  | some source => if source < slot then schema.giver source else source
termination_by slot

theorem giver_of_none (none : schema.changeAt? slot = none) : schema.giver slot = slot := by
  rw [giver, none]

theorem giver_of_left (link : schema.changeAt? slot = some source) (left : source < slot) :
    schema.giver slot = schema.giver source := by
  rw [giver, link]
  exact if_pos left

theorem giver_of_not_left (link : schema.changeAt? slot = some source) (right : ¬ source < slot) :
    schema.giver slot = source := by
  rw [giver, link]
  exact if_neg right

theorem changeAt?_eq_some_iff :
    schema.changeAt? slot = some source ↔
      ∃ column, (column, slot) ∈ schema.slots ∧ column.change = some source := by
  rw [changeAt?, Option.bind_eq_some_iff]
  exact exists_congr fun column => and_congr_left fun _ => List.mk_mem_zipIdx_iff_getElem?.symm

/-- A column that is written with another column's value stands in the schema. -/
theorem lt_of_giver_ne (apart : schema.giver slot ≠ slot) : slot < schema.columns.length := by
  have linked : schema.changeAt? slot ≠ none := fun none => apart (giver_of_none none)
  obtain ⟨source, link⟩ := Option.ne_none_iff_exists'.1 linked
  obtain ⟨column, mem, -⟩ := changeAt?_eq_some_iff.1 link
  exact (List.getElem?_eq_some_iff.1 (Header.column?_of_mem_slots mem)).1

end Schema

/-- What a cell of a table is written with when no value is copied: what its checks give, else the
ingested value. -/
def ValidationTarget.checkedValue (target : ValidationTarget) (ctx : ValidationContext)
    (row : TableRow) (position slot : Nat) : String :=
  (TableValidation.resolvedAt target ctx row position slot).getD (row.value slot)

namespace TableValidation

variable {target : ValidationTarget} {ctx : ValidationContext} {row : TableRow}
  {position slot source : Nat} {column : Column}

/-- What a cell is written with after a validation: the value of the overlay, else the ingested
one. -/
def shipped (validation : TableValidation) (row : TableRow) (slot : Nat) : String :=
  (validation.overlay.get? validation.table row.row slot).getD (row.value slot)

/-- A column without a source is written with what its checks give. -/
theorem shipped_of_plain (numbers : (target.rows.map (·.row)).Nodup)
    (stored : (row, position) ∈ target.rows.zipIdx) (plain : target.schema.changeAt? slot = none) :
    (ofTarget target ctx).shipped row slot = target.checkedValue ctx row position slot := by
  have unlinked : ∀ given, target.schema.column? slot = some given → given.change = none := by
    intro given place
    rw [Schema.changeAt?, place] at plain
    exact plain
  have written : (ofTarget target ctx).overlay.get? target.schema.name row.row slot =
      resolvedAt target ctx row position slot :=
    get?_ofTarget_of_unlinked numbers stored unlinked
  unfold shipped ValidationTarget.checkedValue
  rw [← written]
  rfl

/-- A column with a source takes what the source is written with, where the source stands to its
left, and else what the checks give for the source. -/
theorem get?_ofTarget_of_link (numbers : (target.rows.map (·.row)).Nodup)
    (stored : (row, position) ∈ target.rows.zipIdx) (mem : (column, slot) ∈ target.schema.slots)
    (change : column.change = some source) :
    (ofTarget target ctx).overlay.get? target.schema.name row.row slot =
      some (if source < slot then (ofTarget target ctx).shipped row source
        else target.checkedValue ctx row position source) := by
  obtain ⟨before, empty, same⟩ := exists_get?_ofTarget ctx numbers stored
  rw [same, writeRow, get?_propagate_eq mem change]
  split
  · unfold shipped
    rw [← writeRow.eq_def target ctx before (row, position), ← same]
    rfl
  · unfold ValidationTarget.checkedValue
    rw [get?_overlayRow empty]

/-- A cell is written with what the checks give for the cell that its links lead to. -/
theorem shipped_eq (numbers : (target.rows.map (·.row)).Nodup)
    (stored : (row, position) ∈ target.rows.zipIdx) (slot : Nat) :
    (ofTarget target ctx).shipped row slot =
      target.checkedValue ctx row position (target.schema.giver slot) := by
  induction slot using Nat.strongRecOn with
  | ind slot ih =>
    cases link : target.schema.changeAt? slot with
    | none =>
      rw [Schema.giver_of_none link]
      exact shipped_of_plain numbers stored link
    | some source =>
      obtain ⟨column, mem, change⟩ := Schema.changeAt?_eq_some_iff.1 link
      have taken : (ofTarget target ctx).shipped row slot =
          if source < slot then (ofTarget target ctx).shipped row source
            else target.checkedValue ctx row position source :=
        congrArg (Option.getD · (row.value slot))
          (get?_ofTarget_of_link numbers stored mem change)
      rw [taken]
      split
      · next left => rw [Schema.giver_of_left link left, ih source left]
      · next right => rw [Schema.giver_of_not_left link right]

/-- A column with a source is written from the overlay, with what the checks give for the cell that
its links lead to. -/
theorem get?_ofTarget_of_change_eq (numbers : (target.rows.map (·.row)).Nodup)
    (stored : (row, position) ∈ target.rows.zipIdx) (mem : (column, slot) ∈ target.schema.slots)
    (change : column.change = some source) :
    (ofTarget target ctx).overlay.get? target.schema.name row.row slot =
      some (target.checkedValue ctx row position (target.schema.giver slot)) := by
  have link := Schema.changeAt?_eq_some_iff.2 ⟨column, mem, change⟩
  rw [get?_ofTarget_of_link numbers stored mem change]
  split
  · next left => rw [Schema.giver_of_left link left, shipped_eq numbers stored]
  · next right => rw [Schema.giver_of_not_left link right]

end TableValidation

/-- In every table of a schema, whatever it is validated against, a column with a source is written
with what its source is written with. -/
def Schema.ShipsSources (schema : Schema) : Prop :=
  ∀ (target : ValidationTarget) (ctx : ValidationContext), target.schema = schema →
    (target.rows.map (·.row)).Nodup → ∀ row ∈ target.rows,
      ∀ column slot, (column, slot) ∈ schema.slots → ∀ source, column.change = some source →
        (TableValidation.ofTarget target ctx).overlay.get? schema.name row.row slot =
          some ((TableValidation.ofTarget target ctx).shipped row source)

/-- A row whose cells are all different: words of `x`, each one longer than the one before. -/
def TableRow.staircase (width : Nat) : TableRow :=
  ⟨0, (List.range width).map fun slot => String.ofList (List.replicate (slot + 1) 'x')⟩

theorem TableRow.value_staircase (width slot : Nat) :
    (staircase width).value slot =
      String.ofList (List.replicate (if slot < width then slot + 1 else 0) 'x') := by
  unfold value staircase
  rw [List.getElem?_map]
  split
  · next inside => rw [List.getElem?_range inside]; rfl
  · next outside => rw [List.getElem?_eq_none (by simpa using outside)]; rfl

theorem TableRow.eq_of_value_staircase {width slot other : Nat} (inside : slot < width)
    (same : (staircase width).value slot = (staircase width).value other) : slot = other := by
  have lengths := congrArg (fun word : String => word.toList.length) same
  simp only [value_staircase, String.toList_ofList, List.length_replicate, if_pos inside]
    at lengths
  split at lengths <;> omega

theorem Text.upper_ne_none (count : Nat) :
    Text.upper (String.ofList (List.replicate count 'x')) ≠ CheckedCell.noneGroup := by
  intro named
  have letters := congrArg String.toList named
  rw [Text.upper, String.toList_ofList, String.toList_ofList] at letters
  have first : 'N' ∈ (List.replicate count 'x').flatMap Text.upperChar := by
    rw [letters]
    decide
  obtain ⟨letter, mem, small⟩ := List.mem_flatMap.1 first
  rw [List.eq_of_mem_replicate mem] at small
  revert small
  decide

/-- Against a context that knows nothing, no check gives a value to write, unless the row names the
group `NONE`. -/
theorem CheckedCell.resolved_check_blank {cell : CheckedCell} {substituted : Bool}
    (named : ∀ source, cell.column.enumGroupRef = some source →
      Text.upper (cell.row.value source) ≠ noneGroup) :
    (cell.check Library.blankContext substituted).resolved = none := by
  have unknown (group : String) : Library.blankContext.enums.hasGroup group = false := rfl
  have reference : (cell.checkReference Library.blankContext.references substituted).resolved =
      none := by
    unfold checkReference
    split
    · rfl
    · rfl
  have enum : (cell.checkEnum Library.blankContext.enums).resolved = none := by
    unfold checkEnum
    cases ref : cell.column.enumGroupRef with
    | some source =>
      dsimp only
      unfold checkInGroup
      rw [if_neg (named source ref), if_pos (by rw [unknown]; rfl)]
      rfl
    | none =>
      cases cell.column.enumGroup with
      | some group =>
        dsimp only
        rw [if_neg (by rw [unknown]; decide)]
        rfl
      | none => rfl
  rw [resolved_check_eq, reference, enum]
  rfl

/-- Where no check gives a value, a cell counts with its ingested value. -/
theorem ValidationTarget.checkedValue_staircase (target : ValidationTarget)
    (width position slot : Nat) :
    target.checkedValue Library.blankContext (TableRow.staircase width) position slot =
      (TableRow.staircase width).value slot := by
  have silent : TableValidation.resolvedAt target Library.blankContext (TableRow.staircase width)
      position slot = none := by
    unfold TableValidation.resolvedAt
    rw [Option.bind_eq_none_iff]
    intro column _
    apply CheckedCell.resolved_check_blank
    intro source _
    change Text.upper ((TableRow.staircase width).value source) ≠ _
    rw [TableRow.value_staircase]
    exact Text.upper_ne_none _
  unfold checkedValue
  rw [silent]
  rfl

namespace Schema

variable {schema : Schema}

/-- Where every column with a source is written like it, a link to the right leads to a column that
is written with its own checked value. -/
theorem giver_of_shipsSources (ships : schema.ShipsSources) {column : Column} {slot source : Nat}
    (mem : (column, slot) ∈ schema.slots) (change : column.change = some source)
    (right : slot < source) : schema.giver source = source := by
  -- A row of different cells, checked against nothing, tells the two cells apart.
  let row := TableRow.staircase schema.columns.length
  let target := ValidationTarget.sheet schema [row]
  have numbers : (target.rows.map (·.row)).Nodup := List.nodup_singleton _
  have stored : (row, 0) ∈ target.rows.zipIdx := List.mem_singleton.2 rfl
  have taken : (TableValidation.ofTarget target Library.blankContext).overlay.get? schema.name
      row.row slot = _ := TableValidation.get?_ofTarget_of_change_eq numbers stored mem change
  have told := ships target Library.blankContext rfl numbers row (List.mem_singleton.2 rfl) column
    slot mem source change
  rw [TableValidation.shipped_eq numbers stored] at told
  have link := changeAt?_eq_some_iff.2 ⟨column, mem, change⟩
  have same := Option.some.inj (taken.symm.trans told)
  change target.checkedValue _ row 0 (schema.giver slot) =
    target.checkedValue _ row 0 (schema.giver source) at same
  rw [giver_of_not_left link (Nat.not_lt_of_lt right), ValidationTarget.checkedValue_staircase,
    ValidationTarget.checkedValue_staircase] at same
  by_contra apart
  exact apart (TableRow.eq_of_value_staircase (lt_of_giver_ne apart) same).symm

/-- Where every link to the right leads to a column that is written with its own checked value, every
column with a source is written like it. -/
theorem shipsSources_of_giver (settled : ∀ column slot, (column, slot) ∈ schema.slots →
    ∀ source, column.change = some source → slot < source → schema.giver source = source) :
    schema.ShipsSources := by
  intro target ctx same numbers row mem column slot place source change
  subst same
  obtain ⟨position, stored⟩ := exists_mem_zipIdx mem
  have link := changeAt?_eq_some_iff.2 ⟨column, place, change⟩
  have same : target.schema.giver slot = target.schema.giver source := by
    rcases Nat.lt_trichotomy source slot with left | own | right
    · exact giver_of_left link left
    · rw [own]
    · rw [giver_of_not_left link (Nat.not_lt_of_lt right),
        settled column slot place source change right]
  rw [TableValidation.get?_ofTarget_of_change_eq numbers stored place change,
    TableValidation.shipped_eq numbers stored, same]

/-- A column with a source is written with what the checks give for the cell that its links lead to.
So all such columns of a schema are written with what their sources are written with exactly when
every link to the right leads to a column that is written with its own checked value. -/
theorem shipsSources_iff (schema : Schema) :
    (∀ (target : ValidationTarget) (ctx : ValidationContext), target.schema = schema →
      (target.rows.map (·.row)).Nodup → ∀ row position, (row, position) ∈ target.rows.zipIdx →
        ∀ column slot, (column, slot) ∈ schema.slots → column.change.isSome →
          (TableValidation.ofTarget target ctx).overlay.get? schema.name row.row slot =
            some (target.checkedValue ctx row position (schema.giver slot))) ∧
    (schema.ShipsSources ↔
      ∀ column slot, (column, slot) ∈ schema.slots → ∀ source, column.change = some source →
        slot < source → schema.giver source = source) := by
  constructor
  · intro target ctx same numbers row position stored column slot mem changed
    subst same
    obtain ⟨source, change⟩ := Option.isSome_iff_exists.1 changed
    exact TableValidation.get?_ofTarget_of_change_eq numbers stored mem change
  · constructor
    · intro ships column slot mem source change right
      exact giver_of_shipsSources ships mem change right
    · exact shipsSources_of_giver

open Library

/-- A sheet of one row whose columns take the values of their neighbours. -/
def relay (columns : List (String × String)) (texts : List String) : Sheet :=
  sheetOf "relay" "#data" "" (("id", "key,int") :: columns) [("1" :: texts)]

/-- The schema of such a sheet. -/
def relaySchema? (sheet : Sheet) : Option Schema :=
  Header.compile? sheet ⟨"design", "relay.xlsx", "relay"⟩ []

/-- The texts that the rows of a sheet are written with, checked against nothing. -/
def writtenTexts (schema : Schema) (sheet : Sheet) : List (List String) :=
  let rows := (RowIngest.ofGrid schema sheet.grid).rows
  let validation := TableValidation.ofTarget (.sheet schema rows) blankContext
  rows.map fun row => schema.slots.map fun given => validation.shipped row given.2

/-- Every column takes the value of the one to its left. -/
def relayRight : Sheet :=
  relay [("third", "string"), ("second", "string,change<third>"),
    ("first", "string,change<second>")] ["z", "y", "x"]

/-- Every column takes the value of the one to its right. -/
def relayLeft : Sheet :=
  relay [("first", "string,change<second>"), ("second", "string,change<third>"),
    ("third", "string")] ["x", "y", "z"]

set_option maxRecDepth 100000 in
/-- From left to right the last value arrives in all columns. -/
theorem shipsSources_relayRight : ∃ schema, relaySchema? relayRight = some schema ∧
    schema.isClean = true ∧ schema.ShipsSources ∧
    writtenTexts schema relayRight = [["1", "z", "z", "z"]] := by
  have run : (relaySchema? relayRight).map (fun schema =>
      (schema.isClean, writtenTexts schema relayRight,
        decide (∀ given ∈ schema.slots, ∀ source ∈ given.1.change, source < given.2))) =
      some (true, [["1", "z", "z", "z"]], true) := by
    decide
  obtain ⟨schema, compiled, same⟩ := Option.map_eq_some_iff.1 run
  obtain ⟨clean, same⟩ := Prod.mk.inj same
  obtain ⟨texts, left⟩ := Prod.mk.inj same
  refine ⟨schema, compiled, clean, (shipsSources_iff schema).2.2 ?_, texts⟩
  intro column slot mem source change right
  have := of_decide_eq_true left (column, slot) mem source change
  omega

set_option maxRecDepth 100000 in
/-- From right to left the first column is written with the text that the second one had, although
that is written with the text of the third. So the columns of one clean table in another order give
other texts. -/
theorem not_shipsSources_relayLeft : ∃ schema, relaySchema? relayLeft = some schema ∧
    schema.isClean = true ∧ ¬ schema.ShipsSources ∧
    writtenTexts schema relayLeft = [["1", "y", "z", "z"]] ∧
    (relaySchema? relayRight).map (writtenTexts · relayRight) = some [["1", "z", "z", "z"]] := by
  have run : (relaySchema? relayLeft).map (fun schema =>
      let rows := (RowIngest.ofGrid schema relayLeft.grid).rows
      let validation := TableValidation.ofTarget (.sheet schema rows) blankContext
      (schema.isClean, writtenTexts schema relayLeft, decide (rows.map (·.row)).Nodup,
        decide (∀ row ∈ rows, ∀ given ∈ schema.slots, ∀ source ∈ given.1.change,
          validation.overlay.get? schema.name row.row given.2 =
            some (validation.shipped row source)))) =
      some (true, [["1", "y", "z", "z"]], true, false) := by
    decide
  obtain ⟨schema, compiled, same⟩ := Option.map_eq_some_iff.1 run
  obtain ⟨clean, same⟩ := Prod.mk.inj same
  obtain ⟨texts, same⟩ := Prod.mk.inj same
  obtain ⟨numbers, apart⟩ := Prod.mk.inj same
  refine ⟨schema, compiled, clean, fun ships => ?_, texts, by decide⟩
  apply of_decide_eq_false apart
  intro row mem given place source change
  exact ships (.sheet schema _) blankContext rfl (of_decide_eq_true numbers) row mem given.1 given.2
    place source change

end Schema

end DesignTables
