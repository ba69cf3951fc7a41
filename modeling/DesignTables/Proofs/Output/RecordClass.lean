import DesignTables.Output.SchemaCode
import DesignTables.Proofs.Lists
import DesignTables.Proofs.Text.WhiteSpace
import Mathlib.Data.List.TakeWhile

/-!
# The record class that is read back from companion code

The class stands last in its file, so it is found from the end, whatever is imported and whatever
the namespace is called. Between its braces every declaration ends in a semicolon and has three
words: the access, the type, with brackets for a sequence, and the name. So a class can be read back
exactly when its names and types are words.
-/
namespace DesignTables

/-- The type of a field as it is declared. -/
def CodeField.declared (field : CodeField) : String :=
  field.type ++ (if field.isArray then "[]" else "")

namespace SchemaCode

/-- Whether a character opens or closes a class. -/
def isBrace (c : Char) : Bool := c == '\x7b' || c == '\x7d'

/-- Whether a character can stand in a declaration: a semicolon ends it, and a brace its class. -/
def isInside (c : Char) : Bool := c != ';' && !isBrace c

/-- Whether a character can stand in a word of a declaration. -/
def isPlain (c : Char) : Bool := !Text.isBlank c && isInside c

/-- A text that can stand as a name or a type. -/
structure IsWord (text : String) : Prop where
  some : text ≠ ""
  plain : text.toList.all isPlain = true

/-- The type of the elements, and whether brackets behind it make it a sequence. -/
def readType? (declared : String) : Option (String × Bool) :=
  match Text.dropSuffix? "[]" declared with
  | some element => if element.isEmpty then none else some (element, true)
  | none => some (declared, false)

/-- The field that a declaration declares. -/
def readField? (declaration : List Char) : Option CodeField :=
  match (Text.words declaration).map String.ofList with
  | ["public", type, name] => (readType? type).map fun (type, isArray) => ⟨type, isArray, name⟩
  | _ => none

/-- Whether a character can stand behind the last declaration of a file. -/
def isClosing (c : Char) : Bool := Text.isBlank c || c == '\x7d'

/-- What stands between the braces of the last class, up to its last declaration. -/
def lastBody (text : List Char) : List Char :=
  ((text.reverse.dropWhile isClosing).takeWhile (!isBrace ·)).reverse

/-- The fields of the last class of a file, where each declaration is ended. -/
def readRecord? (file : String) : Option (List CodeField) :=
  let parts := Text.pieces (· == ';') (lastBody file.toList)
  if parts.getLast? = some [] then parts.dropLast.mapM readField? else none

theorem isInside_iff {c : Char} : isInside c = true ↔ c ≠ ';' ∧ isBrace c = false := by
  simp [isInside]

theorem isPlain_iff {c : Char} : isPlain c = true ↔ Text.isBlank c = false ∧ isInside c = true := by
  simp [isPlain]

/-- White space does not end a declaration. -/
theorem isInside_of_isBlank {c : Char} (blank : Text.isBlank c = true) : isInside c = true := by
  rw [isInside_iff, ← Bool.not_eq_true, isBrace, Bool.or_eq_true, beq_iff_eq, beq_iff_eq]
  refine ⟨?_, ?_⟩
  · rintro rfl
    exact absurd blank (by decide)
  · rintro (rfl | rfl) <;> exact absurd blank (by decide)

theorem words_of_isWord {text : String} (h : IsWord text) :
    Text.words text.toList = [text.toList] :=
  Text.words_of_free (fun none => h.some (String.toList_eq_nil_iff.1 none))
    fun c mem => (isPlain_iff.1 (List.all_eq_true.1 h.plain c mem)).1

theorem IsWord.inside {text : String} (h : IsWord text) : ∀ c ∈ text.toList, isInside c = true :=
  fun c mem => (isPlain_iff.1 (List.all_eq_true.1 h.plain c mem)).2

/-- What can be declared as the type and the name of a field. -/
structure IsDeclarable (field : CodeField) : Prop where
  name : IsWord field.name
  type : IsWord field.type
  /-- Brackets behind a type stand for a sequence only. -/
  scalar : field.isArray = false → Text.dropSuffix? "[]" field.type = none

theorem readType?_declared {field : CodeField} (h : IsDeclarable field) :
    readType? field.declared = some (field.type, field.isArray) := by
  rw [readType?, CodeField.declared]
  cases shape : field.isArray with
  | false =>
    rw [if_neg Bool.false_ne_true, String.append_empty, h.scalar shape]
  | true =>
    rw [if_pos rfl, Text.dropSuffix?_eq_some_iff.2 rfl]
    dsimp only
    rw [if_neg (by rw [String.isEmpty_iff]; exact h.type.some)]

theorem isWord_declared {field : CodeField} (h : IsDeclarable field) : IsWord field.declared := by
  refine ⟨fun none => h.type.some ?_, ?_⟩
  · have nothing := congrArg String.toList none
    rw [CodeField.declared, String.toList_append] at nothing
    exact String.toList_eq_nil_iff.1 (List.append_eq_nil_iff.1 nothing).1
  · rw [CodeField.declared, String.toList_append, List.all_append, h.type.plain, Bool.true_and]
    cases field.isArray <;> decide

/-- The line of a field without its semicolon, behind the end of the line before. -/
def declaration (pad : String) (field : CodeField) : List Char :=
  '\n' :: (pad ++ "\tpublic " ++ field.declared ++ " " ++ field.name).toList

section

variable {pad : String} (blank : ∀ c ∈ pad.toList, Text.isBlank c = true)

include blank

/-- A declaration has the access, the type and the name for its words. -/
theorem words_declaration {field : CodeField} (h : IsDeclarable field) :
    Text.words (declaration pad field) =
      ["public".toList, field.declared.toList, field.name.toList] := by
  have shape : declaration pad field = ('\n' :: (pad.toList ++ ['\t'])) ++
      ("public".toList ++ ' ' :: (field.declared.toList ++ ' ' :: field.name.toList)) := by
    simp [declaration]
  have front : ∀ c ∈ '\n' :: (pad.toList ++ ['\t']), Text.isBlank c = true := by
    intro c mem
    rcases List.mem_cons.1 mem with rfl | mem
    · decide
    · rcases List.mem_append.1 mem with inside | tab
      · exact blank c inside
      · obtain rfl := List.mem_singleton.1 tab
        decide
  have access : IsWord "public" := ⟨by decide, by decide⟩
  rw [shape, Text.words_blank_append front, Text.words_append_blank (by decide),
    Text.words_append_blank (by decide), words_of_isWord access,
    words_of_isWord (isWord_declared h), words_of_isWord h.name]
  rfl

theorem readField?_declaration {field : CodeField} (h : IsDeclarable field) :
    readField? (declaration pad field) = some field := by
  rw [readField?, words_declaration blank h, List.map_cons, List.map_cons, List.map_cons,
    List.map_nil, String.ofList_toList, String.ofList_toList, String.ofList_toList]
  simp [readType?_declared h]

theorem inside_declaration {field : CodeField} (h : IsDeclarable field) :
    ∀ c ∈ declaration pad field, isInside c = true := by
  have access : "\tpublic ".toList.all isInside = true := by decide
  have shape : declaration pad field = '\n' :: (pad.toList ++ ("\tpublic ".toList ++
      (field.declared.toList ++ ' ' :: field.name.toList))) := by
    simp [declaration]
  intro c mem
  rw [shape, List.mem_cons, List.mem_append, List.mem_append, List.mem_append, List.mem_cons] at mem
  rcases mem with rfl | before | word | type | rfl | name
  · decide
  · exact isInside_of_isBlank (blank c before)
  · exact List.all_eq_true.1 access c word
  · exact (isWord_declared h).inside c type
  · decide
  · exact h.name.inside c name

end

theorem endLines_nil : endLines [] = "" := rfl

theorem endLines_cons (line : String) (lines : List String) :
    endLines (line :: lines) = line ++ "\n" ++ endLines lines := by
  rw [endLines, List.map_cons, String.join_cons]
  rfl

theorem endLines_append (lines more : List String) :
    endLines (lines ++ more) = endLines lines ++ endLines more := by
  rw [endLines, List.map_append, String.join_append]
  rfl

theorem fieldLine_eq (field : CodeField) :
    fieldLine field = "\tpublic " ++ field.declared ++ " " ++ field.name ++ ";" := by
  simp [fieldLine, CodeField.declared, String.append_assoc]

/-- The declarations of a class, each ended, and the end of the last line. -/
theorem toList_endLines_fields (pad : String) (fields : List CodeField) :
    '\n' :: (endLines (fields.map fun field => pad ++ fieldLine field)).toList =
      (fields.map (declaration pad)).flatMap (· ++ [';']) ++ ['\n'] := by
  induction fields with
  | nil => rfl
  | cons field fields ih =>
    rw [List.map_cons, endLines_cons, List.map_cons, List.flatMap_cons, List.append_assoc, ← ih,
      fieldLine_eq]
    simp [declaration]

/-- With a namespace the classes of a file stand indented between its lines. -/
theorem exists_render_eq_endLines (code : SchemaCode) (options : Options) :
    ∃ (pad : String) (opening ending : List String), (∀ c ∈ pad.toList, Text.isBlank c = true) ∧
      (∀ c ∈ (endLines ending).toList, isClosing c = true) ∧
      code.render options =
        endLines (options.codeImports.map fun name => "using " ++ name ++ ";") ++ "\n" ++
        endLines (opening ++ ("[PreferBinarySerialization]" :: code.containerLines).map (pad ++ ·) ++
          [""] ++ code.recordLines.map (pad ++ ·) ++ ending) := by
  by_cases plain : (Text.trim options.codeNamespace).isEmpty = true
  · refine ⟨"", [], [], List.all_eq_true.1 rfl, List.all_eq_true.1 rfl, ?_⟩
    simp [render, plain]
  · refine ⟨"\t", ["namespace " ++ Text.trim options.codeNamespace, "\x7b"], ["\x7d"],
      List.all_eq_true.1 (by decide), List.all_eq_true.1 (by decide), ?_⟩
    simp [render, plain]

/-- A file of companion code ends with the fields of its record class, but for what closes it. -/
theorem exists_render_eq (code : SchemaCode) (options : Options) : ∃ front pad closing : String,
    (∀ c ∈ pad.toList, Text.isBlank c = true) ∧ (∀ c ∈ closing.toList, isClosing c = true) ∧
    code.render options =
      front ++ "\x7b\n" ++ endLines (code.fields.map fun field => pad ++ fieldLine field) ++
        closing := by
  obtain ⟨pad, opening, ending, blank, closes, same⟩ := exists_render_eq_endLines code options
  refine ⟨endLines (options.codeImports.map fun name => "using " ++ name ++ ";") ++ "\n" ++
    endLines (opening ++ ("[PreferBinarySerialization]" :: code.containerLines).map (pad ++ ·) ++
      [""] ++ ["[Serializable]", "public partial class " ++ code.recordName].map (pad ++ ·)) ++ pad,
    pad, pad ++ "\x7d\n" ++ endLines ending, blank, fun c mem => ?_, ?_⟩
  · rw [String.toList_append, String.toList_append, List.mem_append, List.mem_append] at mem
    rcases mem with (inside | brace) | behind
    · rw [isClosing, blank c inside, Bool.true_or]
    · exact List.all_eq_true.1 (by decide : "\x7d\n".toList.all isClosing = true) c brace
    · exact closes c behind
  · rw [same, recordLines]
    simp [endLines_append, endLines_cons, endLines_nil, String.append_assoc, Function.comp_def]

/-- What stands between the last brace that opens a class and what closes it. -/
theorem lastBody_append {front body closing : List Char} (closes : ∀ c ∈ closing, isClosing c = true)
    (ends : ∀ c ∈ body.getLast?, isClosing c = false) (some : body ≠ [])
    (free : ∀ c ∈ body, isBrace c = false) :
    lastBody (front ++ '\x7b' :: body ++ closing) = body := by
  have reversed : (front ++ '\x7b' :: body ++ closing).reverse =
      closing.reverse ++ (body.reverse ++ '\x7b' :: front.reverse) := by
    simp
  have behind : ∀ c ∈ closing.reverse, isClosing c = true := fun c mem =>
    closes c (List.mem_reverse.1 mem)
  have inside : ∀ c ∈ body.reverse, (!isBrace c) = true := fun c mem => by
    rw [free c (List.mem_reverse.1 mem)]
    rfl
  have stop : (body.reverse ++ '\x7b' :: front.reverse).dropWhile isClosing =
      body.reverse ++ '\x7b' :: front.reverse := by
    obtain ⟨init, last, rfl⟩ : ∃ init last, body = init ++ [last] :=
      ⟨_, _, (List.dropLast_append_getLast some).symm⟩
    have other : isClosing last = false := ends last (by simp)
    simp [other]
  rw [lastBody, reversed, List.dropWhile_append_of_pos behind, stop,
    List.takeWhile_append_of_pos inside, List.takeWhile_cons_of_neg (by decide), List.append_nil,
    List.reverse_reverse]

/-- A record class whose names and types are words is read back from its file, whatever the
options. -/
theorem readRecord?_render {code : SchemaCode} (options : Options) (filled : code.fields ≠ [])
    (declarable : ∀ field ∈ code.fields, IsDeclarable field) :
    readRecord? (code.render options) = some code.fields := by
  obtain ⟨front, pad, closing, blank, closes, file⟩ := exists_render_eq code options
  have ended : ∀ part ∈ code.fields.map (declaration pad), ∀ c ∈ part,
      c ≠ ';' ∧ isBrace c = false := by
    intro part mem c inside
    obtain ⟨field, own, rfl⟩ := List.mem_map.1 mem
    exact isInside_iff.1 (inside_declaration blank (declarable field own) c inside)
  have whole : (code.render options).toList = front.toList ++ '\x7b' ::
      (code.fields.map (declaration pad)).flatMap (· ++ [';']) ++ ('\n' :: closing.toList) := by
    have lines : (code.render options).toList = front.toList ++ '\x7b' ::
        ('\n' :: (endLines (code.fields.map fun field => pad ++ fieldLine field)).toList) ++
          closing.toList := by
      rw [file]
      simp
    rw [lines, toList_endLines_fields]
    simp
  have body : lastBody (code.render options).toList =
      (code.fields.map (declaration pad)).flatMap (· ++ [';']) := by
    rw [whole]
    refine lastBody_append (List.forall_mem_cons.2 ⟨by decide, closes⟩) ?_ ?_ ?_
    · obtain ⟨init, last, split⟩ : ∃ init last, code.fields = init ++ [last] :=
        ⟨_, _, (List.dropLast_append_getLast filled).symm⟩
      rw [split]
      simp [isClosing, Text.isBlank, Text.blankRanges]
    · simpa using List.exists_mem_of_ne_nil _ filled
    · intro c mem
      obtain ⟨part, own, inside⟩ := List.mem_flatMap.1 mem
      rcases List.mem_append.1 inside with inside | mark
      · exact (ended part own c inside).2
      · obtain rfl := List.mem_singleton.1 mark
        decide
  have cut : Text.pieces (· == ';') ((code.fields.map (declaration pad)).flatMap (· ++ [';'])) =
      code.fields.map (declaration pad) ++ [[]] :=
    Text.pieces_flatMap_append (by decide) fun part mem c inside => by
      simpa using (ended part mem c inside).1
  rw [readRecord?, body, cut, List.getLast?_concat, if_pos rfl, List.dropLast_concat,
    mapM_eq_some_iff, List.map_map]
  exact List.map_congr_left fun field mem => readField?_declaration blank (declarable field mem)

theorem isDeclarable_of_readField? {cs : List Char} {field : CodeField}
    (inside : ∀ c ∈ cs, isInside c = true) (read : readField? cs = some field) :
    IsDeclarable field := by
  have word {text : String} (mem : text ∈ (Text.words cs).map String.ofList) : IsWord text := by
    obtain ⟨own, found, rfl⟩ := List.mem_map.1 mem
    obtain ⟨filled, free⟩ := Text.free_of_mem_words found
    refine ⟨by simpa using filled, List.all_eq_true.2 fun c mem => ?_⟩
    rw [String.toList_ofList] at mem
    obtain ⟨unbroken, held⟩ := free c mem
    exact isPlain_iff.2 ⟨unbroken, inside c held⟩
  rw [readField?] at read
  split at read
  next type name three =>
    have named : IsWord name := word (three ▸ by simp)
    have typed : IsWord type := word (three ▸ by simp)
    obtain ⟨⟨element, isArray⟩, known, rfl⟩ := Option.map_eq_some_iff.1 read
    rw [readType?] at known
    split at known
    next shorter brackets =>
      split at known
      · cases known
      next filled =>
        obtain ⟨rfl, rfl⟩ := Prod.mk.inj (Option.some.inj known)
        rw [Text.dropSuffix?_eq_some_iff] at brackets
        have word := typed.plain
        rw [brackets, String.toList_append, List.all_append, Bool.and_eq_true] at word
        rw [String.isEmpty_iff] at filled
        exact ⟨named, ⟨filled, word.1⟩, fun scalar => by cases scalar⟩
    next none =>
      obtain ⟨rfl, rfl⟩ := Prod.mk.inj (Option.some.inj known)
      exact ⟨named, typed, fun _ => none⟩
  · cases read

/-- What is read as the fields of a class could be declared as such. -/
theorem isDeclarable_of_readRecord? {file : String} {fields : List CodeField}
    (read : readRecord? file = some fields) : ∀ field ∈ fields, IsDeclarable field := by
  intro field mem
  rw [readRecord?] at read
  split at read
  · rw [mapM_eq_some_iff] at read
    have found : some field ∈ fields.map some := List.mem_map_of_mem mem
    rw [← read] at found
    obtain ⟨part, inside, declares⟩ := List.mem_map.1 found
    refine isDeclarable_of_readField? (fun c held => ?_) declares
    obtain ⟨other, body⟩ := Text.free_of_mem_pieces (List.dropLast_subset _ inside) c held
    refine isInside_iff.2 ⟨by simpa using other, ?_⟩
    rw [lastBody, List.mem_reverse] at body
    simpa using List.mem_takeWhile_imp body
  · cases read

/-- A record class with fields is read back from its file exactly if its names and types are words,
whatever the options. -/
theorem readRecord?_render_iff {code : SchemaCode} (options : Options) (filled : code.fields ≠ []) :
    readRecord? (code.render options) = some code.fields ↔
      ∀ field ∈ code.fields, IsDeclarable field :=
  ⟨isDeclarable_of_readRecord?, readRecord?_render options filled⟩

end SchemaCode

end DesignTables
