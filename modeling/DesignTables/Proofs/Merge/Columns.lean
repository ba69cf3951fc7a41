import DesignTables.Merge.Unify
import DesignTables.Proofs.Header.Columns

/-!
# The columns of a merge table

The table bears the name of the group, and a column that had an origin in its sheet has one named
after the group and the column in the table. The sheets add no options to it.
-/
namespace DesignTables.Merge

variable {group : String} {source schema : Schema} {unified : Unified} {placements : List Placement}
  {merged : Structure} {sheets : List IngestedSheet}

/-- What every link keeps that is made between columns of a sheet and where they went is kept by all. -/
theorem linkColumns_induction {P : Schema → Prop} (begun : P schema)
    (linked : ∀ now, P now → ∀ column placement,
      (column, placement) ∈ source.columns.zip placements →
      P (now.modifyColumn placement.slot (linkColumn placements placement.isNew column))) :
    P (linkColumns source placements schema) := by
  rw [linkColumns]
  refine List.foldlRecOn (motive := P) (source.columns.zip placements) _ begun ?_
  exact fun now known given mem => linked now known given.1 given.2 mem

/-- What the placing of every column of some sheets keeps, and every link, is kept by the sheets. -/
theorem addSheets_induction {P : Schema → Prop} (begun : P merged.schema)
    (placed : ∀ unified : Unified, P unified.schema → ∀ sheet ∈ sheets,
      ∀ column ∈ sheet.schema.columns, P (placeColumn group sheet.schema unified column).schema)
    (linked : ∀ now, P now → ∀ placements isNew column slot,
      P (now.modifyColumn slot (linkColumn placements isNew column))) :
    P (sheets.foldl (addSheet group) merged).schema := by
  refine List.foldlRecOn (motive := fun now : Structure => P now.schema) sheets _ begun ?_
  intro now known sheet mem
  refine linkColumns_induction ?_ fun now known column placement _ => linked now known _ _ _ _
  exact List.foldlRecOn (motive := fun now : Unified => P now.schema) sheet.schema.columns _ known
    fun unified known column inside => placed unified known sheet mem column inside

/-- The schema is that of a merge table, and with its origins bears the name of a group. -/
structure BearsName (group : String) (schema : Schema) : Prop where
  name : schema.name = group
  kind : schema.kind = .merge
  origins : schema.OwnsOrigins

theorem BearsName.placeColumn (h : BearsName group unified.schema) (column : Column) :
    BearsName group (Merge.placeColumn group source unified column).schema := by
  rw [Merge.placeColumn]
  split
  · exact h
  · refine ⟨h.name, h.kind, ?_⟩
    intro placed mem
    rcases List.mem_append.1 mem with mem | mem
    · exact h.origins placed mem
    · rw [List.mem_singleton] at mem
      subst mem
      intro origin declared
      obtain ⟨_, _, rfl⟩ := Option.map_eq_some_iff.1 declared
      rw [← h.name]

theorem linkColumn_kept (placements : List Placement) (isNew : Bool) (column merged : Column) :
    (linkColumn placements isNew column merged).title = merged.title ∧
      (linkColumn placements isNew column merged).origin = merged.origin := by
  cases isNew <;> exact ⟨rfl, rfl⟩

/-- The table of some sheets bears the name of the group, also in its origins. -/
theorem bearsName_addSheets (merged : Structure) (h : BearsName group merged.schema)
    (sheets : List IngestedSheet) :
    BearsName group (sheets.foldl (Merge.addSheet group) merged).schema := by
  refine addSheets_induction h (fun unified bears _ _ column _ => bears.placeColumn column) ?_
  intro now bears placements isNew column slot
  refine ⟨bears.name, bears.kind, bears.origins.modifyColumn fun c _ kept => ?_⟩
  obtain ⟨title, origin⟩ := linkColumn_kept placements isNew column c
  rw [Column.OwnsOrigin, title, origin]
  exact kept

theorem options_placeColumn (column : Column) :
    (Merge.placeColumn group source unified column).schema.options = unified.schema.options := by
  rw [Merge.placeColumn]
  split <;> rfl

/-- The sheets of a group leave the options of its table as they are. -/
theorem options_addSheets (merged : Structure) (sheets : List IngestedSheet) :
    (sheets.foldl (Merge.addSheet group) merged).schema.options = merged.schema.options :=
  addSheets_induction (P := fun now => now.options = merged.schema.options) rfl
    (fun _ kept _ _ column _ => (options_placeColumn column).trans kept) fun _ kept _ _ _ _ => kept

end DesignTables.Merge
