import DesignTables.Proofs.Lists
import DesignTables.Proofs.Output.Faithful
import DesignTables.Proofs.Registry.Strings

/-!
# The languages of a registry and the strings that each of them lists

A registry in which no key occurs twice lists its keys in strictly ascending order, each once. A
sheet tells a string in every language that it has a column for.
-/
namespace DesignTables

/-- An entry of a file of strings. -/
structure ListedString where
  key : String
  text : String
  category : String
deriving DecidableEq, Repr

/-- The object of an entry. -/
def ListedString.json (entry : ListedString) : Json :=
  .object [("key", .string entry.key), ("text", .string entry.text),
    ("text_category", .string entry.category)]

namespace LocalizationRegistry

variable {registry : LocalizationRegistry}

/-- The entries of the file of a language. -/
def listed (registry : LocalizationRegistry) (language : String) : List ListedString :=
  registry.sorted.map fun entry =>
    ⟨entry.key, (entry.text? language).getD "", entry.category⟩

/-- The file of a language holds the objects of its entries. -/
theorem holdsList_render (registry : LocalizationRegistry) (language : String) :
    (registry.render language).HoldsList ((registry.listed language).map (·.json)) := by
  have objects : (registry.listed language).map (·.json) =
      registry.sorted.map fun entry => .object ((titledTexts language entry).map member) := by
    rw [listed, List.map_map]
    rfl
  rw [objects]
  exact registry.holdsList_render_sorted language

theorem keys_listed (registry : LocalizationRegistry) (language : String) :
    (registry.listed language).map (·.key) = registry.sorted.map (·.key) := by
  rw [listed, List.map_map]
  rfl

theorem mem_sorted {entry : LocalizedString} :
    entry ∈ registry.sorted ↔ entry ∈ registry.strings :=
  List.mem_mergeSort

/-- Every key is listed, and nothing else. -/
theorem mem_keys_listed_iff {language key : String} :
    key ∈ (registry.listed language).map (·.key) ↔ registry.hasKey key = true := by
  rw [keys_listed, hasKey_iff, List.mem_map, List.mem_map]
  exact exists_congr fun entry => and_congr_left fun _ => mem_sorted

/-- The order of keys is that of code points; keys that are told apart are strictly ordered. -/
theorem pairwise_keys_listed (nodup : (registry.strings.map (·.key)).Nodup) (language : String) :
    ((registry.listed language).map (·.key)).Pairwise (· < ·) := by
  have ordered : registry.sorted.Pairwise fun a b => decide (a.key ≤ b.key) = true := by
    apply List.pairwise_mergeSort
    · intro a b c first second
      rw [decide_eq_true_eq] at *
      exact String.le_trans first second
    · intro a b
      rw [Bool.or_eq_true, decide_eq_true_eq, decide_eq_true_eq]
      exact String.le_total a.key b.key
  have apart : (registry.sorted.map (·.key)).Nodup :=
    (((List.mergeSort_perm _ _).map _).nodup_iff).2 nodup
  rw [keys_listed, List.pairwise_map]
  refine (ordered.and (List.pairwise_map.1 apart)).imp ?_
  rintro a b ⟨le, ne⟩
  show a.key < b.key
  rw [← String.not_le]
  exact fun ge => ne (String.le_antisymm (of_decide_eq_true le) ge)

/-- Strings in strictly ascending order of their keys are listed as they are. -/
theorem sorted_eq {entries : List LocalizedString} (perm : entries.Perm registry.strings)
    (ascending : (entries.map (·.key)).Pairwise (· < ·)) : registry.sorted = entries := by
  have apart : (entries.map (·.key)).Nodup := ascending.imp String.ne_of_lt
  have nodup := ((perm.map _).nodup_iff).1 apart
  have strict := pairwise_keys_listed nodup ""
  rw [keys_listed, List.pairwise_map] at strict
  refine List.Perm.eq_of_pairwise ?_ strict (List.pairwise_map.1 ascending)
    ((List.mergeSort_perm _ _).trans perm.symm)
  intro a b _ _ less greater
  exact absurd greater (String.lt_asymm less)

theorem mem_languages_iff {language : String} :
    language ∈ registry.languages ↔
      ∃ entry ∈ registry.strings, language ∈ entry.texts.map (·.1) := by
  rw [languages, List.mem_eraseDups, List.mem_flatMap]

theorem nodup_languages (registry : LocalizationRegistry) : registry.languages.Nodup :=
  nodup_eraseDups _

end LocalizationRegistry

namespace LocalizedString

variable {entry : LocalizedString} {language text : String}

/-- A language of which an entry has one text has that text. -/
theorem text?_of_mem (nodup : (entry.texts.map (·.1)).Nodup)
    (mem : (language, text) ∈ entry.texts) :
    entry.text? language = some text := by
  have apart : (entry.texts.reverse.map (·.1)).Nodup := by
    rw [List.map_reverse]
    exact List.nodup_reverse.2 nodup
  rw [text?, List.lookup_eq_findSome?, findSome?_key apart (List.mem_reverse.2 mem),
    beq_self_eq_true]
  · rfl
  · intro titled _ other
    rw [if_neg]
    rw [beq_iff_eq]
    exact Ne.symm other

theorem text?_of_absent (absent : language ∉ entry.texts.map (·.1)) :
    entry.text? language = none := by
  rw [text?, List.lookup_eq_none_iff]
  intro titled mem
  rw [bne_iff_ne]
  rintro rfl
  exact absent (List.mem_map_of_mem (List.mem_reverse.1 mem))

end LocalizedString

end DesignTables
