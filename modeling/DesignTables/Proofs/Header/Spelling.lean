import DesignTables.Header.Directive
import DesignTables.Proofs.Text.Brackets
import DesignTables.Proofs.Text.WhiteSpace

/-!
# How directives are written, and that they are read as they were written

A directive is written as a word, or as a word with an argument in brackets. The case of its letters
does not matter, nor does white space around a token or a token with nothing else. A comma in an
argument stands in brackets, so it does not end the token.
-/
namespace DesignTables

namespace Text

/-- Without a closing bracket a text that starts in brackets has all its commas in them. -/
theorem covered_of_free {cs : List Char} (free : '>' ∉ cs) :
    openCommas true cs = 0 ∧ endsInside true cs = true := by
  induction cs with
  | nil => exact ⟨rfl, rfl⟩
  | cons c cs ih =>
    rw [List.mem_cons, not_or] at free
    have inside : insideAfter true c = true := by simp [insideAfter, Ne.symm free.1]
    obtain ⟨none, still⟩ := ih free.2
    refine ⟨?_, ?_⟩
    · rw [openCommas, inside, none]
      simp
    · change endsInside (insideAfter true c) cs = true
      rw [inside]
      exact still

/-- A text that a cut leaves whole, and that ends outside brackets. -/
structure IsPart (cs : List Char) : Prop where
  whole : openCommas false cs = 0
  closed : endsInside false cs = false

theorem isPart_of_free {cs : List Char} (bracket : '<' ∉ cs) (comma : ',' ∉ cs) : IsPart cs where
  whole := by rw [openCommas_of_free bracket, List.count_eq_zero.2 comma]
  closed := endsInside_of_free bracket

theorem IsPart.append {cs ds : List Char} (h : IsPart cs) (h' : IsPart ds) : IsPart (cs ++ ds) where
  whole := by rw [openCommas_append, h.whole, h.closed, h'.whole]
  closed := by rw [endsInside_append, h.closed, h'.closed]

theorem isPart_of_blank {cs : List Char} (blank : ∀ c ∈ cs, isBlank c = true) : IsPart cs :=
  isPart_of_free (fun mem => absurd (blank _ mem) (by decide))
    fun mem => absurd (blank _ mem) (by decide)

theorem isPart_of_letters {cs : List Char} (letters : ∀ c ∈ cs, isLetter c = true) : IsPart cs :=
  isPart_of_free (fun mem => absurd (letters _ mem) (by decide))
    fun mem => absurd (letters _ mem) (by decide)

theorem isPart_of_brackets {cs : List Char} (free : '>' ∉ cs) : IsPart ('<' :: cs ++ ['>']) := by
  obtain ⟨none, still⟩ := covered_of_free free
  refine ⟨?_, ?_⟩
  · have opened : openCommas false ('<' :: cs ++ ['>']) = 0 + openCommas true (cs ++ ['>']) := rfl
    rw [opened, openCommas_append, none, still]
    rfl
  · have opened : endsInside false ('<' :: cs ++ ['>']) = endsInside true (cs ++ ['>']) := rfl
    rw [opened, endsInside_append, still]
    rfl

/-- Texts that are parts are what a cut makes of them once they are joined. -/
theorem splitProtected_joinWith_parts {pieces : List String} (some : pieces ≠ [])
    (parts : ∀ piece ∈ pieces, IsPart piece.toList) :
    splitProtected ',' (joinWith "," pieces) = pieces := by
  have cut : protectedPieces ',' false (joinPieces ',' (pieces.map String.toList)) =
      pieces.map String.toList := by
    refine protectedPieces_joinPieces (by decide) (by simpa using some) ?_ ?_
    · intro cs mem
      obtain ⟨piece, known, rfl⟩ := List.mem_map.1 mem
      exact protectedPieces_of_openCommas (parts piece known).whole
    · intro cs mem
      obtain ⟨piece, known, rfl⟩ := List.mem_map.1 (List.dropLast_subset _ mem)
      exact (parts piece known).closed
  rw [splitProtected, toList_joinWith, cut, List.map_map]
  simp

end Text

namespace Directive

/-- The word that a directive is written with. -/
def word : Directive → String
  | key => "key"
  | origin => "origin"
  | unique => "unique"
  | null => "null"
  | dataType type => type.name
  | enumGroup _ => "type"
  | enumRef _ => "typeref"
  | check _ => "check"
  | change _ => "change"
  | before _ => "prefix"
  | after _ => "suffix"
  | arraySize _ => "arraysize"
  | arraySizeRef _ => "arraysizeref"
  | arraySizeCount _ => "arraysizecnt"
  | commaStandIn _ => "replacecomma"
  | unknown token => token

/-- The argument that a directive is written with, if it has one. -/
def argument? : Directive → Option String
  | enumGroup argument | enumRef argument | check argument | change argument | before argument
  | after argument | arraySize argument | arraySizeRef argument | arraySizeCount argument
  | commaStandIn argument => some argument
  | key | origin | unique | null | dataType _ | unknown _ => none

/-- Whether a directive is one that a token can declare: a type has a keyword of its own, a group is
in capitals, the target of a look-up in small letters. -/
def IsKnown : Directive → Prop
  | dataType type => type ∈ DataType.keyworded
  | enumGroup group => Text.upper group = group
  | check target => Text.lower target = target
  | unknown _ => False
  | _ => True

/-- A directive that can be written: it is known, and its argument is not empty and has no
brackets. -/
structure IsWritable (directive : Directive) : Prop where
  known : directive.IsKnown
  filled : ∀ argument ∈ directive.argument?, argument ≠ ""
  unopened : ∀ argument ∈ directive.argument?, '<' ∉ argument.toList
  unclosed : ∀ argument ∈ directive.argument?, '>' ∉ argument.toList

/-- A token that a directive is written as: its word in any case, with the argument in brackets. -/
inductive Spells (directive : Directive) : String → Prop
  | bare {name : String} (word : Text.asciiLower name = directive.word)
      (none : directive.argument? = none) : Spells directive name
  | argued {name argument : String} (word : Text.asciiLower name = directive.word)
      (given : directive.argument? = some argument) :
      Spells directive (name ++ "<" ++ argument ++ ">")

/-- What stands between the commas of a cell with directives: tokens that spell them, with white
space around them, and tokens of nothing but white space. -/
inductive SpellsAll : List Directive → List String → Prop
  | nil : SpellsAll [] []
  | empty {directives : List Directive} {piece : String} {pieces : List String}
      (blank : ∀ c ∈ piece.toList, Text.isBlank c = true) (rest : SpellsAll directives pieces) :
      SpellsAll directives (piece :: pieces)
  | token {directive : Directive} {directives : List Directive} {token front behind : String}
      {pieces : List String} (spelled : directive.Spells token)
      (front_blank : ∀ c ∈ front.toList, Text.isBlank c = true)
      (behind_blank : ∀ c ∈ behind.toList, Text.isBlank c = true)
      (rest : SpellsAll directives pieces) :
      SpellsAll (directive :: directives) ((front ++ (token ++ behind)) :: pieces)

variable {directive : Directive} {directives : List Directive} {token : String}
  {pieces : List String}

theorem IsKnown.isWritable (known : directive.IsKnown) (bare : directive.argument? = none) :
    directive.IsWritable := by
  refine ⟨known, ?_, ?_, ?_⟩
  all_goals
    intro argument mem
    rw [bare] at mem
    cases mem

theorem IsKnown.isWritable_of_argument (known : directive.IsKnown) {argument : String}
    (given : directive.argument? = some argument) (filled : argument ≠ "")
    (unopened : '<' ∉ argument.toList) (unclosed : '>' ∉ argument.toList) :
    directive.IsWritable := by
  have own {other : String} (mem : other ∈ directive.argument?) : argument = other :=
    Option.some.inj (given.symm.trans mem)
  exact ⟨known, fun other mem => own mem ▸ filled, fun other mem => own mem ▸ unopened,
    fun other mem => own mem ▸ unclosed⟩

/-- The word of a directive is made of small letters. -/
theorem IsKnown.word (known : directive.IsKnown) :
    directive.word.toList ≠ [] ∧ ∀ c ∈ directive.word.toList, c.isLower = true := by
  cases directive
  case dataType type => cases type <;> exact ⟨by decide, List.all_eq_true.1 (by decide)⟩
  case unknown token => exact known.elim
  all_goals
    dsimp only [Directive.word]
    exact ⟨by decide, List.all_eq_true.1 (by decide)⟩

/-- The letters of a directive's word, in whatever case it is written. -/
theorem IsKnown.letters (known : directive.IsKnown) {name : String}
    (word : Text.asciiLower name = directive.word) :
    name.toList ≠ [] ∧ ∀ c ∈ name.toList, Text.isLetter c = true := by
  refine ⟨fun none => known.word.1 ?_, Text.isLetter_of_asciiLower word known.word.2⟩
  rw [← word, Text.asciiLower, String.toList_ofList, none]
  rfl

theorem ofKeyword?_word (known : directive.IsKnown) (bare : directive.argument? = none) :
    ofKeyword? directive.word = some directive := by
  cases directive
  case dataType type =>
    cases type
    case enumText =>
      have keyworded : DataType.enumText ∈ DataType.keyworded := known
      exact absurd keyworded (by decide)
    all_goals rfl
  case unknown token => exact known.elim
  all_goals first | rfl | cases bare

/-- No keyword has a bracket. -/
theorem ofKeyword?_of_bracket {word : String} (bracket : '<' ∈ word.toList) :
    ofKeyword? word = none := by
  have other : ∀ type ∈ DataType.keyworded, ¬ (type.name == word) = true := by
    intro type _ same
    rw [← eq_of_beq same] at bracket
    revert bracket
    cases type <;> decide
  unfold ofKeyword?
  split
  case h_5 =>
    rw [DataType.ofKeyword?, List.find?_eq_none.2 other]
    rfl
  all_goals exact absurd bracket (by decide)

/-- A name and an argument are found again when neither is empty or has an opening bracket. -/
theorem splitBracketed?_append {name argument : String} (named : name.toList ≠ [])
    (plain : '<' ∉ name.toList) (filled : argument ≠ "") (unopened : '<' ∉ argument.toList) :
    splitBracketed? (name ++ "<" ++ argument ++ ">") = some (name, argument) := by
  have letters : ∀ c ∈ name.toList, decide (c ≠ '<') = true := fun c mem =>
    decide_eq_true fun bracket => plain (bracket ▸ mem)
  have chars : (name ++ "<" ++ argument ++ ">").toList =
      name.toList ++ '<' :: (argument.toList ++ ['>']) := by simp
  have front : (name ++ "<" ++ argument ++ ">").toList.takeWhile (· ≠ '<') = name.toList := by
    rw [chars, List.takeWhile_append_of_pos letters]
    simp
  have rest : (name ++ "<" ++ argument ++ ">").toList.dropWhile (· ≠ '<') =
      '<' :: (argument.toList ++ ['>']) := by
    rw [chars, List.dropWhile_append_of_pos letters]
    simp
  rw [splitBracketed?, front, rest]
  simp [named, unopened, filled]

theorem ofBracketed?_word {name argument : String} (known : directive.IsKnown)
    (word : Text.asciiLower name = directive.word)
    (given : directive.argument? = some argument) :
    ofBracketed? name argument = some directive := by
  rw [ofBracketed?, word]
  cases directive <;> cases given
  case enumGroup.refl => exact congrArg (some ∘ enumGroup) known
  case check.refl => exact congrArg (some ∘ check) known
  all_goals rfl

/-- A token is read as the directive that it spells. -/
theorem Spells.parse_eq (spelled : directive.Spells token) (writable : directive.IsWritable) :
    parse token = directive := by
  cases spelled with
  | bare word none => rw [parse, word, ofKeyword?_word writable.known none]
  | @argued name argument word given =>
    obtain ⟨named, letters⟩ := writable.known.letters word
    have bracket : '<' ∈ (Text.asciiLower (name ++ "<" ++ argument ++ ">")).toList := by
      rw [Text.asciiLower, String.toList_ofList]
      exact List.mem_map.2 ⟨'<', by simp, rfl⟩
    have split := splitBracketed?_append named (fun mem => absurd (letters _ mem) (by decide))
      (writable.filled argument given) (writable.unopened argument given)
    rw [parse, ofKeyword?_of_bracket bracket, split]
    dsimp only [Option.bind_some]
    rw [ofBracketed?_word writable.known word given]
    rfl

/-- A token that spells a directive is a part of a cell that trimming leaves as it is. -/
theorem Spells.shape (spelled : directive.Spells token) (writable : directive.IsWritable) :
    token.toList ≠ [] ∧ Text.IsPart token.toList ∧
      (∀ c ∈ token.toList.head?, Text.isBlank c = false) ∧
      ∀ c ∈ token.toList.getLast?, Text.isBlank c = false := by
  cases spelled with
  | bare word none =>
    obtain ⟨named, letters⟩ := writable.known.letters word
    exact ⟨named, Text.isPart_of_letters letters,
      fun c mem => Text.isBlank_of_isLetter (letters c (List.mem_of_mem_head? mem)),
      fun c mem => Text.isBlank_of_isLetter (letters c (List.mem_of_mem_getLast? mem))⟩
  | @argued name argument word given =>
    obtain ⟨named, letters⟩ := writable.known.letters word
    have chars : (name ++ "<" ++ argument ++ ">").toList =
      name.toList ++ ('<' :: argument.toList ++ ['>']) := by simp
    rw [chars]
    refine ⟨by simp, (Text.isPart_of_letters letters).append
      (Text.isPart_of_brackets (writable.unclosed argument given)), fun c mem => ?_, fun c mem => ?_⟩
    · rw [List.head?_append_of_ne_nil _ named] at mem
      exact Text.isBlank_of_isLetter (letters c (List.mem_of_mem_head? mem))
    · rw [← List.append_assoc, List.getLast?_concat] at mem
      obtain rfl := Option.some.inj mem
      decide

/-- What stands between the commas of a cell with directives are parts of it. -/
theorem SpellsAll.isPart (spelled : SpellsAll directives pieces)
    (writable : ∀ directive ∈ directives, directive.IsWritable) :
    ∀ piece ∈ pieces, Text.IsPart piece.toList := by
  induction spelled with
  | nil => simp
  | empty blank rest ih => exact List.forall_mem_cons.2 ⟨Text.isPart_of_blank blank, ih writable⟩
  | token spelled front behind rest ih =>
    obtain ⟨first, others⟩ := List.forall_mem_cons.1 writable
    refine List.forall_mem_cons.2 ⟨?_, ih others⟩
    rw [String.toList_append, String.toList_append]
    exact (Text.isPart_of_blank front).append
      ((spelled.shape first).2.1.append (Text.isPart_of_blank behind))

/-- Of what stands between the commas, trimmed, the tokens are read as the directives. -/
theorem SpellsAll.parse_eq (spelled : SpellsAll directives pieces)
    (writable : ∀ directive ∈ directives, directive.IsWritable) :
    ((pieces.map Text.trim).filter (!·.isEmpty)).map parse = directives := by
  induction spelled with
  | nil => rfl
  | @empty directives piece pieces blank rest ih =>
    have trimmed : Text.trim piece = "" := by
      rw [Text.trim, Text.trimChars_of_blank blank]
    rw [List.map_cons, trimmed]
    exact ih writable
  | @token directive directives token front behind pieces spelled blank blank' rest ih =>
    obtain ⟨first, others⟩ := List.forall_mem_cons.1 writable
    obtain ⟨filled, -, start, last⟩ := spelled.shape first
    have trimmed : Text.trim (front ++ (token ++ behind)) = token := by
      rw [Text.trim, String.toList_append, String.toList_append,
        Text.trimChars_between filled blank blank' start last, String.ofList_toList]
    have kept : (!token.isEmpty) = true := by
      rw [Bool.not_eq_true', ← Bool.not_eq_true, String.isEmpty_iff]
      rintro rfl
      exact filled rfl
    rw [List.map_cons, trimmed,
      List.filter_cons_of_pos (p := fun given : String => !given.isEmpty) kept, List.map_cons,
      spelled.parse_eq first, ih others]

/-- A cell with directives is read as these directives, however it is written. -/
theorem parse_tokenize_spelled (spelled : SpellsAll directives pieces)
    (writable : ∀ directive ∈ directives, directive.IsWritable) :
    (tokenize (Text.joinWith "," pieces)).map parse = directives := by
  by_cases none : pieces = []
  · subst none
    cases spelled
    rfl
  · rw [tokenize, Text.splitProtected_joinWith_parts none (spelled.isPart writable)]
    exact spelled.parse_eq writable

/-- A key with texts of a group whose name has a comma, looked up in a table, with a text in front
that reads like directives: written in mixed case, with white space and empty tokens. -/
theorem parse_tokenize_spelled_mixed :
    (tokenize " KEY\t,,Type<A,B>,\u3000,check<item/id>,LocalText ,preFix< key, int>,").map parse =
      [key, enumGroup "A,B", check "item/id", dataType .localText, before " key, int"] := by
  -- Decided over the list: a statement of every character would be decided over all there are.
  have blank (text : String) (all : text.toList.all Text.isBlank = true) :
      ∀ c ∈ text.toList, Text.isBlank c = true := List.all_eq_true.1 all
  have spelled : SpellsAll
      [key, enumGroup "A,B", check "item/id", dataType .localText, before " key, int"]
      [" KEY\t", "", "Type<A,B>", "\u3000", "check<item/id>", "LocalText ", "preFix< key, int>", ""] :=
    @SpellsAll.token key _ "KEY" " " "\t" _ (.bare (by decide) rfl)
      (blank " " (by decide)) (blank "\t" (by decide)) <|
    .empty (blank "" rfl) <|
    @SpellsAll.token (enumGroup "A,B") _ _ "" "" _ (@Spells.argued _ "Type" "A,B" rfl rfl)
      (blank "" rfl) (blank "" rfl) <|
    .empty (blank "\u3000" (by decide)) <|
    @SpellsAll.token (check "item/id") _ _ "" "" _ (@Spells.argued _ "check" "item/id" rfl rfl)
      (blank "" rfl) (blank "" rfl) <|
    @SpellsAll.token (dataType .localText) _ "LocalText" "" " " _ (.bare rfl rfl)
      (blank "" rfl) (blank " " (by decide)) <|
    @SpellsAll.token (before " key, int") _ _ "" "" _
      (@Spells.argued _ "preFix" " key, int" rfl rfl) (blank "" rfl) (blank "" rfl) <|
    .empty (blank "" rfl) .nil
  refine parse_tokenize_spelled spelled ?_
  simp only [List.forall_mem_cons]
  refine ⟨?_, ?_, ?_, ?_, ?_, by simp⟩
  · exact IsKnown.isWritable trivial rfl
  · exact IsKnown.isWritable_of_argument (by decide : Text.upper "A,B" = "A,B") rfl
      (by decide) (by decide) (by decide)
  · exact IsKnown.isWritable_of_argument (by decide : Text.lower "item/id" = "item/id") rfl
      (by decide) (by decide) (by decide)
  · exact IsKnown.isWritable (by decide : DataType.localText ∈ DataType.keyworded) rfl
  · exact IsKnown.isWritable_of_argument trivial rfl (by decide) (by decide) (by decide)

end Directive

end DesignTables
