import DesignTables.Index.KeyTable
import DesignTables.Proofs.Registry.Languages
import DesignTables.Registry.Filling

/-!
# Strings as tables store them

Strings are stored in three parts: the category of each key, the languages in the order in which they
were met, and the texts of each language by their keys. A call refuses a key that has a category, and
else notes the category and puts in the texts one by one. `LocalizationRegistry` is one list of
strings instead, from which all of this is read.

`InStep` says that the parts hold what is read from the list. A call is refused by both or keeps them
in step, so they are in step after any sheets, and the same strings are listed for each language.
-/
namespace DesignTables

/-- Strings as they are stored. -/
structure StoredStrings where
  categories : KeyTable String String
  languages : List String
  /-- The texts of a language by their keys. -/
  texts : KeyTable String (KeyTable String String)

namespace StoredStrings

def empty : StoredStrings := ⟨KeyTable.empty, [], KeyTable.empty⟩

/-- The text of a key in a language. -/
def text? (stored : StoredStrings) (language key : String) : Option String :=
  (stored.texts.get? language).bind (·.get? key)

/-- Puts in the text of a key in a language. A language without texts is new. -/
def addText (key : String) (stored : StoredStrings) (given : String × String) : StoredStrings where
  categories := stored.categories
  languages :=
    if (stored.texts.get? given.1).isSome then stored.languages else stored.languages ++ [given.1]
  texts := stored.texts.set given.1
    (((stored.texts.get? given.1).getD KeyTable.empty).set key given.2)

/-- A call with a string: nothing if its key is taken, and else what is stored afterwards. -/
def insert? (stored : StoredStrings) (entry : LocalizedString) : Option StoredStrings :=
  if (stored.categories.get? entry.key).isSome then none
  else some (entry.texts.foldl (addText entry.key)
    { stored with categories := stored.categories.set entry.key entry.category })

/-- What is stored after a call that may be refused. -/
def call (stored : StoredStrings) (entry : LocalizedString) : StoredStrings :=
  (stored.insert? entry).getD stored

/-- The keys in ascending order, each with its category. -/
def sorted (stored : StoredStrings) : List (String × String) :=
  stored.categories.entries.mergeSort fun a b => decide (a.1 ≤ b.1)

/-- The entries of the file of a language. -/
def listed (stored : StoredStrings) (language : String) : List ListedString :=
  stored.sorted.map fun (key, category) => ⟨key, (stored.text? language key).getD "", category⟩

/-- What is stored is what is read from the list of a registry. -/
structure InStep (stored : StoredStrings) (registry : LocalizationRegistry) : Prop where
  categories : stored.categories.entries =
    registry.strings.map fun entry => (entry.key, entry.category)
  languages : stored.languages = registry.languages
  noted : ∀ language, (stored.texts.get? language).isSome ↔ language ∈ stored.languages
  texts : ∀ language key, stored.text? language key = registry.text? language key

/-! ## The texts of one key -/

section

variable {stored : StoredStrings} {key : String}

theorem text?_addText (given : String × String) (language other : String) :
    (stored.addText key given).text? language other =
      if language = given.1 ∧ other = key then some given.2 else stored.text? language other := by
  rw [text?, text?, addText, KeyTable.get?_set]
  by_cases own : language = given.1
  · rw [if_pos own, Option.bind_some, KeyTable.get?_set, ← own]
    by_cases same : other = key
    · rw [if_pos same, if_pos ⟨rfl, same⟩]
    · rw [if_neg same, if_neg fun both => same both.2]
      cases stored.texts.get? language <;> rfl
  · rw [if_neg own, if_neg fun both => own both.1]

/-- Of a language that is given twice the later text stays. -/
theorem text?_foldl_addText (texts : List (String × String)) (language other : String) :
    (texts.foldl (addText key) stored).text? language other =
      if other = key then (texts.reverse.lookup language).or (stored.text? language other)
      else stored.text? language other := by
  induction texts generalizing stored with
  | nil => simp
  | cons given texts ih =>
    obtain ⟨title, text⟩ := given
    rw [List.foldl_cons, ih, text?_addText, List.reverse_cons, List.lookup_append]
    by_cases same : other = key
    · by_cases own : language = title
      · cases List.lookup language texts.reverse <;> simp [same, own]
      · have apart : (language == title) = false := beq_false_of_ne own
        simp [same, own, List.lookup_cons, apart]
    · simp [same]

theorem categories_foldl_addText (texts : List (String × String)) :
    (texts.foldl (addText key) stored).categories = stored.categories := by
  induction texts generalizing stored with
  | nil => rfl
  | cons given texts ih => exact ih

/-- The languages are those that were met, each where it was met first, and they have texts. -/
structure Notes (met : List String) (stored : StoredStrings) : Prop where
  languages : stored.languages = met.eraseDups
  noted : ∀ language, (stored.texts.get? language).isSome ↔ language ∈ stored.languages

theorem Notes.addText {met : List String} (h : Notes met stored) (given : String × String) :
    Notes (met ++ [given.1]) (stored.addText key given) := by
  have known : (stored.texts.get? given.1).isSome ↔ given.1 ∈ met := by
    rw [h.noted, h.languages, List.mem_eraseDups]
  have languages : (stored.addText key given).languages = (met ++ [given.1]).eraseDups := by
    rw [StoredStrings.addText, List.eraseDups_append, ← h.languages]
    by_cases old : given.1 ∈ met
    · simp [known.2 old, List.removeAll, old]
    · simp [mt known.1 old, List.removeAll, old, List.eraseDups_cons]
  refine ⟨languages, fun language => ?_⟩
  have before := h.noted language
  rw [h.languages, List.mem_eraseDups] at before
  rw [languages, List.mem_eraseDups, List.mem_append, List.mem_singleton, StoredStrings.addText,
    KeyTable.get?_set]
  by_cases own : language = given.1
  · simp [own]
  · simp [own, before]

theorem Notes.foldl_addText {met : List String} (h : Notes met stored)
    (texts : List (String × String)) :
    Notes (met ++ texts.map (·.1)) (texts.foldl (StoredStrings.addText key) stored) := by
  induction texts generalizing met stored with
  | nil => rwa [List.map_nil, List.append_nil]
  | cons given texts ih =>
    have rest : Notes (met ++ [given.1] ++ texts.map (·.1))
        (texts.foldl (StoredStrings.addText key) (stored.addText key given)) := ih (h.addText given)
    rwa [List.append_assoc] at rest

end

/-! ## Calls -/

theorem inStep_empty : empty.InStep LocalizationRegistry.empty where
  categories := rfl
  languages := rfl
  noted language := by simp [empty, KeyTable.get?_empty]
  texts _ _ := rfl

namespace InStep

variable {stored : StoredStrings} {registry : LocalizationRegistry}

theorem keys_eq (h : stored.InStep registry) :
    stored.categories.keys = registry.strings.map (·.key) := by
  rw [KeyTable.keys, h.categories, List.map_map]
  rfl

theorem nodup (h : stored.InStep registry) : (registry.strings.map (·.key)).Nodup :=
  h.keys_eq ▸ stored.categories.nodup

/-- A key has a category exactly when it is registered. -/
theorem isSome_category (h : stored.InStep registry) (key : String) :
    (stored.categories.get? key).isSome = registry.hasKey key := by
  rw [Bool.eq_iff_iff, LocalizationRegistry.hasKey_iff, ← h.keys_eq, Option.isSome_iff_ne_none,
    Ne, KeyTable.get?_eq_none_iff, not_not]

/-- A key that is free gets its category and its texts. -/
theorem insert (h : stored.InStep registry) {entry : LocalizedString}
    (free : registry.hasKey entry.key = false) :
    InStep (entry.texts.foldl (addText entry.key)
        { stored with categories := stored.categories.set entry.key entry.category })
      ⟨registry.strings ++ [entry]⟩ := by
  have new : entry.key ∉ stored.categories.keys := by
    rw [h.keys_eq, ← LocalizationRegistry.hasKey_iff, free]
    exact Bool.false_ne_true
  let noted : StoredStrings :=
    { stored with categories := stored.categories.set entry.key entry.category }
  have met : Notes (registry.strings.flatMap fun known => known.texts.map (·.1)) noted :=
    ⟨h.languages, h.noted⟩
  have notes : Notes _ (entry.texts.foldl (addText entry.key) noted) :=
    met.foldl_addText entry.texts
  have added : registry.insert? entry = some ⟨registry.strings ++ [entry]⟩ := by
    rw [LocalizationRegistry.insert?, free]
    rfl
  refine ⟨?_, ?_, notes.noted, fun language key => ?_⟩
  · rw [categories_foldl_addText, KeyTable.set, dif_neg new, List.map_append]
    exact congrArg (· ++ [(entry.key, entry.category)]) h.categories
  · rw [notes.languages, LocalizationRegistry.languages, List.flatMap_append,
      List.flatMap_singleton]
  · rw [text?_foldl_addText, LocalizationRegistry.text?,
      LocalizationRegistry.find?_insert? added]
    have before : noted.text? language key = registry.text? language key := h.texts language key
    rw [before]
    by_cases same : key = entry.key
    · have none : registry.find? key = none := by
        rw [same, ← Option.isNone_iff_eq_none, ← Option.not_isSome, ← LocalizationRegistry.hasKey,
          free]
        rfl
      rw [if_pos same, if_pos same, LocalizationRegistry.text?, none]
      exact Option.or_none
    · rw [if_neg same, if_neg same]
      rfl

/-- A call is refused by both, or both are in step after it. -/
theorem insert? (h : stored.InStep registry) (entry : LocalizedString) :
    Option.Rel InStep (stored.insert? entry) (registry.insert? entry) := by
  rw [StoredStrings.insert?, LocalizationRegistry.insert?, h.isSome_category]
  cases free : registry.hasKey entry.key with
  | true => exact .none
  | false => exact .some (h.insert free)

end InStep

end StoredStrings

/-- The registry after a call that may be refused. -/
def LocalizationRegistry.call (registry : LocalizationRegistry) (entry : LocalizedString) :
    LocalizationRegistry :=
  (registry.insert? entry).getD registry

/-- The strings of a sheet in the order of its rows. -/
def LocalizationRegistry.callsOf (schema : Schema) (rows : List TableRow) : List LocalizedString :=
  (schema.key.map fun slot => rows.map (rowOf schema slot)).getD []

/-- The rows of a sheet are registered by one call each. -/
theorem LocalizationRegistry.registerSheet_eq (registry : LocalizationRegistry) (schema : Schema)
    (rows : List TableRow) :
    (registry.registerSheet schema rows).1 = (callsOf schema rows).foldl call registry := by
  rw [registerSheet, callsOf]
  cases schema.key with
  | none => rfl
  | some slot =>
    have each (state : LocalizationRegistry × List Diagnostic) (row : TableRow) :
        (takeRow schema slot state row).1 = state.1.call (rowOf schema slot row) := by
      rw [takeRow, call]
      cases state.1.insert? (rowOf schema slot row) <;> rfl
    have all (state : LocalizationRegistry × List Diagnostic) :
        (rows.foldl (takeRow schema slot) state).1 =
          (rows.map (rowOf schema slot)).foldl call state.1 := by
      induction rows generalizing state with
      | nil => rfl
      | cons row rows ih => rw [List.foldl_cons, ih, each, List.map_cons, List.foldl_cons]
    exact all (registry, [])

namespace StoredStrings

namespace InStep

variable {stored : StoredStrings} {registry : LocalizationRegistry}

theorem call (h : stored.InStep registry) (entry : LocalizedString) :
    (stored.call entry).InStep (registry.call entry) := by
  have step := h.insert? entry
  rw [StoredStrings.call, LocalizationRegistry.call]
  generalize stored.insert? entry = next at step ⊢
  generalize registry.insert? entry = after at step ⊢
  cases step with
  | none => exact h
  | some kept => exact kept

/-- Whatever is called, what is stored stays in step. -/
theorem calls (h : stored.InStep registry) (entries : List LocalizedString) :
    (entries.foldl StoredStrings.call stored).InStep
      (entries.foldl LocalizationRegistry.call registry) := by
  induction entries generalizing stored registry with
  | nil => exact h
  | cons entry entries ih => exact ih (h.call entry)

/-- A sheet whose rows are called one by one leaves both in step. -/
theorem registerSheet (h : stored.InStep registry) (schema : Schema) (rows : List TableRow) :
    ((LocalizationRegistry.callsOf schema rows).foldl StoredStrings.call stored).InStep
      (registry.registerSheet schema rows).1 := by
  rw [LocalizationRegistry.registerSheet_eq]
  exact h.calls _

theorem size_eq (h : stored.InStep registry) : stored.categories.size = registry.size := by
  rw [KeyTable.size, h.categories, List.length_map]
  rfl

/-- For each language the same strings are listed. -/
theorem listed_eq (h : stored.InStep registry) (language : String) :
    stored.listed language = registry.listed language := by
  have sorted : stored.sorted = registry.sorted.map fun entry => (entry.key, entry.category) := by
    rw [StoredStrings.sorted, h.categories]
    have view : ∀ a ∈ registry.strings, ∀ b ∈ registry.strings,
        decide (a.key ≤ b.key) = decide ((a.key, a.category).1 ≤ (b.key, b.category).1) :=
      fun _ _ _ _ => rfl
    exact (List.map_mergeSort view).symm
  rw [StoredStrings.listed, LocalizationRegistry.listed, sorted, List.map_map]
  refine List.map_congr_left fun entry mem => ?_
  have known : registry.find? entry.key = some entry :=
    (find?_key_iff h.nodup).2 ⟨LocalizationRegistry.mem_sorted.1 mem, rfl⟩
  have text : stored.text? language entry.key = entry.text? language := by
    rw [h.texts, LocalizationRegistry.text?, known, Option.bind_some]
  rw [Function.comp_apply]
  dsimp only
  rw [text]

end InStep

end StoredStrings

end DesignTables
