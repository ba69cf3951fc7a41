/-!
Localized strings: for each key its category and its text in some languages.

All languages share one set of keys, and the first sheet that defines a key keeps it.
-/
namespace DesignTables

/-- One key with its texts. -/
structure LocalizedString where
  key : String
  /-- The sheet that defines the key. -/
  category : String
  /-- Languages with their texts. -/
  texts : List (String × String)
deriving DecidableEq, Repr

/-- The text in a language; a language that occurs twice has its later text. -/
def LocalizedString.text? (entry : LocalizedString) (language : String) : Option String :=
  entry.texts.reverse.lookup language

/-- The registered strings in the order of their registration. -/
structure LocalizationRegistry where
  strings : List LocalizedString
deriving DecidableEq, Repr

namespace LocalizationRegistry

/-- The registry without keys. -/
def empty : LocalizationRegistry := ⟨[]⟩

/-- The string under a key. -/
def find? (registry : LocalizationRegistry) (key : String) : Option LocalizedString :=
  registry.strings.find? (·.key == key)

/-- Whether a key is registered. -/
def hasKey (registry : LocalizationRegistry) (key : String) : Bool := (registry.find? key).isSome

/-- The registry with one more string, or nothing when its key is taken. -/
def insert? (registry : LocalizationRegistry) (entry : LocalizedString) :
    Option LocalizationRegistry :=
  if registry.hasKey entry.key then none else some ⟨registry.strings ++ [entry]⟩

/-- The languages in the order in which they were first met. -/
def languages (registry : LocalizationRegistry) : List String :=
  (registry.strings.flatMap fun entry => entry.texts.map (·.1)).eraseDups

/-- The strings in ascending order of their keys, by code points. -/
def sorted (registry : LocalizationRegistry) : List LocalizedString :=
  registry.strings.mergeSort fun a b => decide (a.key ≤ b.key)

/-- The text of a key in a language. -/
def text? (registry : LocalizationRegistry) (language key : String) : Option String :=
  (registry.find? key).bind (·.text? language)

/-- The number of keys. -/
def size (registry : LocalizationRegistry) : Nat := registry.strings.length

theorem find?_insert? {registry next : LocalizationRegistry} {entry : LocalizedString}
    (h : registry.insert? entry = some next) (key : String) :
    next.find? key = if key = entry.key then some entry else registry.find? key := by
  unfold insert? at h
  split at h
  next => cases h
  next absent =>
    cases h
    have free : registry.strings.find? (·.key == entry.key) = none := by
      simpa [hasKey, find?] using absent
    simp only [find?, List.find?_append, List.find?_cons, List.find?_nil]
    by_cases same : key = entry.key
    · simp [same, free]
    · have other : (entry.key == key) = false := by simpa using Ne.symm same
      simp [same, other]

end LocalizationRegistry

end DesignTables
