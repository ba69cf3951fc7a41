import DesignTables.Proofs.Header.Needs
import DesignTables.Proofs.Ingest.Origins
import DesignTables.Proofs.Ingest.Sizes

/-!
What is known of every ingested sheet, whatever its cells hold.
-/
namespace DesignTables.IngestedSheet

/-- What an ingested sheet says of the sheet that it was read from, and of itself. -/
structure ReadFrom (sheet : IngestedSheet) (given : Sheet) (mergeGroups : List String) : Prop where
  kind : Kind.detect? given.grid = some sheet.schema.kind
  origins : sheet.schema.OwnsOrigins
  needs : sheet.schema.KnowsNeeds mergeGroups
  traces : sheet.origins.TracesTo sheet.schema sheet.rows
  sizes : sheet.sizes.BelongsTo sheet.name
  header : sheet.diagnostics = [] → sheet.schema.isClean = true
  group : sheet.schema.kind = .merge → sheet.schema.isClean = true →
    ∃ header, sheet.schema.merge = some header ∧
      (given.grid.text? Header.directiveRow 0).bind mergeGroupName? = some header.name

/-- The header of an ingested sheet is the one that was read from it. -/
theorem compile?_of_ofSheet? {given : Sheet} {origin : SheetOrigin} {mergeGroups : List String}
    {sheet : IngestedSheet} (h : ofSheet? given origin mergeGroups = some sheet) :
    Header.compile? given origin mergeGroups = some sheet.schema := by
  obtain ⟨schema, compiled, same⟩ := Option.map_eq_some_iff.1 h
  rw [compiled, ← same]
  split <;> rfl

theorem readFrom_ofSheet? {given : Sheet} {origin : SheetOrigin} {mergeGroups : List String}
    {sheet : IngestedSheet} (h : ofSheet? given origin mergeGroups = some sheet) :
    sheet.name = origin.sheet ∧ sheet.ReadFrom given mergeGroups := by
  have traces := tracesTo_ofSheet? h
  have sizes := belongsTo_ofSheet? h
  have compiled := compile?_of_ofSheet? h
  have found : sheet.diagnostics = [] → sheet.schema.isClean = true := by
    obtain ⟨schema, -, rfl⟩ := Option.map_eq_some_iff.1 h
    intro none
    by_contra faulty
    split at none
    next clean => exact faulty (by rw [if_pos clean]; exact clean)
    next unclean => exact unclean (List.isEmpty_iff.2 none)
  obtain ⟨name, kind, origins⟩ := Header.compile?_eq_some compiled
  exact ⟨name, kind, origins, Header.knowsNeeds_compile? compiled, traces, sizes, found,
    Header.merge_of_compile? compiled⟩

theorem isSome_ofSheet? (given : Sheet) (origin : SheetOrigin) (mergeGroups : List String) :
    (ofSheet? given origin mergeGroups).isSome = (Kind.detect? given.grid).isSome := by
  rw [ofSheet?, Option.isSome_map, Header.compile?_eq, Option.isSome_map]

end DesignTables.IngestedSheet
