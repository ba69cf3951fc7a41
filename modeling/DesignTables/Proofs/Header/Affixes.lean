import DesignTables.Proofs.Header.Columns
import DesignTables.Proofs.Text.Brackets
import Mathlib.Data.List.TakeWhile

/-!
# The texts that a header puts around elements

Such a text is the argument of a directive. It stood between brackets in a token, so it has no
opening bracket, and it can hold commas as the token was not cut at them; but behind its first
closing bracket, where the token's own brackets are closed, it has none.
-/
namespace DesignTables

namespace Directive

/-- A text that can stand between the brackets of a token. -/
structure IsArgument (text : String) : Prop where
  free : '<' ∉ text.toList
  covered : Text.openCommas true text.toList = 0

/-- A text without its white space is what stands behind a part that is all white space. -/
theorem exists_trimChars (cs : List Char) :
    ∃ before after, cs = before ++ Text.trimChars cs ++ after ∧
      ∀ c ∈ before, Text.isBlank c = true := by
  have front := List.takeWhile_append_dropWhile (p := Text.isBlank) (l := cs)
  have back := List.takeWhile_append_dropWhile (p := Text.isBlank)
    (l := (cs.dropWhile Text.isBlank).reverse)
  refine ⟨cs.takeWhile Text.isBlank,
    ((cs.dropWhile Text.isBlank).reverse.takeWhile Text.isBlank).reverse, ?_, ?_⟩
  · rw [Text.trimChars, List.append_assoc, ← List.reverse_append, back, List.reverse_reverse, front]
  · exact fun c mem => List.mem_takeWhile_imp mem

/-- A token has no comma outside its brackets. -/
theorem openCommas_of_mem_tokenize {cell token : String} (mem : token ∈ tokenize cell) :
    Text.openCommas false token.toList = 0 := by
  rw [tokenize, List.mem_filter, List.mem_map] at mem
  obtain ⟨⟨piece, mem, rfl⟩, -⟩ := mem
  have whole := Text.openCommas_of_mem_splitProtected mem
  obtain ⟨before, after, parts, blank⟩ := exists_trimChars piece.toList
  have free : '<' ∉ before := by
    intro opening
    have refused : Text.isBlank '<' = false := by decide +kernel
    rw [blank _ opening] at refused
    cases refused
  rw [parts, List.append_assoc, Text.openCommas_append, Text.endsInside_of_free free,
    Text.openCommas_append] at whole
  rw [Text.trim, String.toList_ofList]
  omega

theorem isArgument_of_splitBracketed? {token name argument : String}
    (whole : Text.openCommas false token.toList = 0)
    (h : splitBracketed? token = some (name, argument)) : IsArgument argument := by
  have parts := List.takeWhile_append_dropWhile (p := (· ≠ '<')) (l := token.toList)
  rw [splitBracketed?] at h
  cases found : token.toList.dropWhile (· ≠ '<') with
  | nil =>
    rw [found] at h
    cases h
  | cons opening rest =>
    rw [found] at h
    dsimp only at h
    split at h
    · cases h
    next formed =>
      simp only [not_or, not_not] at formed
      obtain ⟨-, free, closing, -⟩ := formed
      obtain ⟨-, rfl⟩ := Prod.mk.inj (Option.some.inj h)
      have same : rest.dropLast ++ ['>'] = rest := by
        rw [List.dropLast_append_getLast?]
        exact closing
      rw [← same] at free
      constructor
      · rw [String.toList_ofList]
        exact fun inner => free (List.mem_append_left _ inner)
      · have bracket : opening = '<' := by
          have head := List.head?_dropWhile_not (fun c : Char => decide (c ≠ '<')) token.toList
          rw [found] at head
          simpa using head
        have outside : '<' ∉ token.toList.takeWhile (· ≠ '<') := by
          intro inner
          have other := List.mem_takeWhile_imp inner
          simp at other
        have inside : Text.insideAfter false '<' = true := rfl
        rw [← parts, found, bracket, Text.openCommas_append, Text.endsInside_of_free outside,
          Text.openCommas, inside, ← same, Text.openCommas_append] at whole
        rw [String.toList_ofList]
        omega

/-- What a directive puts around elements is the argument of its token. -/
theorem isArgument_of_parse {token text : String}
    (whole : Text.openCommas false token.toList = 0)
    (h : parse token = .before text ∨ parse token = .after text) : IsArgument text := by
  have keyword : ∀ word directive, ofKeyword? word = some directive →
      directive ≠ .before text ∧ directive ≠ .after text := by
    intro word directive found
    unfold ofKeyword? at found
    split at found
    case h_5 =>
      obtain ⟨type, -, rfl⟩ := Option.map_eq_some_iff.1 found
      exact ⟨Directive.noConfusion, Directive.noConfusion⟩
    all_goals
      obtain rfl := Option.some.inj found
      exact ⟨Directive.noConfusion, Directive.noConfusion⟩
  have argued : ∀ name argument directive, ofBracketed? name argument = some directive →
      directive = .before text ∨ directive = .after text → argument = text := by
    intro name argument directive found kind
    rw [ofBracketed?] at found
    split at found <;> cases found <;> rcases kind with kind | kind <;> cases kind <;> rfl
  rw [parse] at h
  split at h
  next directive found =>
    obtain ⟨notBefore, notAfter⟩ := keyword _ _ found
    rcases h with h | h
    · exact absurd h notBefore
    · exact absurd h notAfter
  · cases split : splitBracketed? token with
    | none =>
      rw [split] at h
      rcases h with h | h <;> cases h
    | some parts =>
      obtain ⟨name, argument⟩ := parts
      have formed := isArgument_of_splitBracketed? whole split
      rw [split, Option.bind_some] at h
      dsimp only at h
      cases found : ofBracketed? name argument with
      | none =>
        rw [found] at h
        rcases h with h | h <;> cases h
      | some directive =>
        rw [found, Option.getD_some] at h
        exact argued name argument directive found h ▸ formed

end Directive

/-- The texts around elements, if there are any, are arguments of directives. -/
def Column.HasArguments (column : Column) : Prop :=
  ∀ text, column.before = some text ∨ column.after = some text → Directive.IsArgument text

namespace Header

variable {mergeGroups : List String} {column : Column} {slot : Nat} {schema after : Schema}
  {directive : Directive} {name : String} {change : Column → Column} {add : TableNeeds → TableNeeds}

/-- The texts that a change puts around elements are those of its directive. -/
theorem Changes.hasArguments (own : Changes mergeGroups schema name directive change add)
    (formed : ∀ text, directive = .before text ∨ directive = .after text →
      Directive.IsArgument text) (c : Column) (h : c.HasArguments) : (change c).HasArguments := by
  cases own
  case before text =>
    rintro other (same | same)
    · exact Option.some.inj same ▸ formed text (.inl rfl)
    · exact h other (.inr same)
  case after text =>
    rintro other (same | same)
    · exact h other (.inl same)
    · exact Option.some.inj same ▸ formed text (.inr rfl)
  all_goals exact h

theorem Step.hasArguments (step : Step mergeGroups column slot schema directive after)
    (formed : ∀ text, directive = .before text ∨ directive = .after text →
      Directive.IsArgument text) (h : ∀ c ∈ schema.columns, c.HasArguments) :
    ∀ c ∈ after.columns, c.HasArguments := by
  cases step with
  | refused code => exact h
  | passed token => exact h
  | key free => exact Schema.forall_modifyColumn h (by exact fun _ own => own) slot
  | changed own => exact Schema.forall_modifyColumn h (own.hasArguments formed) slot
  | compared lengths source found asks =>
    refine Schema.forall_modifyColumn (Schema.forall_modifyColumn h ?_ slot) (fun c own => ?_) source
    · exact fun _ own => own
    · cases lengths <;> exact own

theorem hasArguments_linkEnumSources (h : ∀ c ∈ schema.columns, c.HasArguments) :
    ∀ c ∈ (linkEnumSources schema).columns, c.HasArguments :=
  linkEnumSources_induction (P := fun now => ∀ c ∈ now.columns, c.HasArguments) h
    (fun _ own _ slot _ _ _ _ _ => Schema.forall_modifyColumn own (by exact fun _ own => own) slot)
    fun _ own _ _ => own

/-- The directives of a column are read from the tokens of a cell. -/
theorem openCommas_of_readColumn? {grid : Grid} {col : Nat}
    (h : readColumn? grid col = some column) :
    ∀ token ∈ column.directives, Text.openCommas false token.toList = 0 := by
  obtain ⟨title, _, h⟩ := Option.bind_eq_some_iff.1 h
  obtain ⟨cell, _, h⟩ := Option.bind_eq_some_iff.1 h
  obtain ⟨flag, _, h⟩ := Option.bind_eq_some_iff.1 h
  obtain ⟨mode, _, h⟩ := Option.bind_eq_some_iff.1 h
  cases h
  exact fun token mem => Directive.openCommas_of_mem_tokenize mem

/-- The texts around the elements of a sheet's columns are arguments of directives. -/
theorem hasArguments_of_compile? {sheet : Sheet} {origin : SheetOrigin}
    (h : compile? sheet origin mergeGroups = some schema) :
    ∀ c ∈ schema.columns, c.HasArguments := by
  rw [compile?_eq] at h
  obtain ⟨kind, -, rfl⟩ := Option.map_eq_some_iff.1 h
  have blank : ∀ c ∈ (start sheet origin kind).columns, c.HasArguments := by
    intro c mem
    obtain ⟨col, title, mode, isArray, directives, rfl⟩ := eq_plain_of_mem_start mem
    rintro text (none | none) <;> cases none
  refine hasArguments_linkEnumSources ?_
  change ∀ c ∈ (applyDirectives mergeGroups (start sheet origin kind)).columns, c.HasArguments
  refine applyDirectives_induction (P := fun now => ∀ c ∈ now.columns, c.HasArguments) blank ?_
  intro now own column slot mem directive known
  obtain ⟨col, -, read⟩ :=
    List.mem_filterMap.1 (List.mem_of_getElem? (column?_of_mem_slots mem))
  obtain ⟨token, given, rfl⟩ := List.mem_map.1 known
  refine (step_applyDirective _).hasArguments (fun text => ?_) own
  exact Directive.isArgument_of_parse (openCommas_of_readColumn? read token given)

end Header

end DesignTables
