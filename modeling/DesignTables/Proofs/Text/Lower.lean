import DesignTables.Text.Case
import Mathlib.Logic.Basic

/-!
# Small letters stay as they are

Every character that the small forms consist of is its own small form, and none is the capital
sigma. So a text in small letters is not changed by writing it in small letters once more. A slash
stays as well and ends a word, so the texts around it are written in small letters one by one.
-/
namespace DesignTables.Text

/-- Whether a character is its own small form wherever it stands. -/
def isSmall (c : Char) : Bool := lowerChar c == [c] && c != 'Σ'

theorem isSmall_iff {c : Char} : isSmall c = true ↔ lowerChar c = [c] ∧ c ≠ 'Σ' := by
  simp [isSmall]

/-- The code points that a run of the case tables covers, counted through. -/
theorem eq_of_covers {run : CaseRun} {code : Nat} (h : run.covers code = true) :
    ∃ i < run.count, code = run.first + run.step * i := by
  rw [CaseRun.covers, Bool.and_eq_true, Bool.and_eq_true, decide_eq_true_eq, beq_iff_eq,
    decide_eq_true_eq] at h
  obtain ⟨⟨first, multiple⟩, count⟩ := h
  refine ⟨(code - run.first) / run.step, count, ?_⟩
  have whole := Nat.mul_div_cancel' (Nat.dvd_of_mod_eq_zero multiple)
  omega

namespace CaseRun

/-- What the first code point of a run is mapped to. -/
def image (run : CaseRun) : Nat := ((run.first : Int) + run.offset).toNat

/-- What the last code point of a run is mapped to. -/
def lastImage (run : CaseRun) : Nat := run.image + run.step * (run.count - 1)

/-- Whether the images of one run lie beside another run, or between its code points. -/
def isApart (moved run : CaseRun) : Bool :=
  moved.lastImage < run.first || run.first + run.step * (run.count - 1) < moved.image ||
    (run.step == 2 && (moved.step == 2 || moved.count == 1) &&
      (moved.image + run.first) % 2 == 1)

/-- Whether the images of a run are characters, and no run or sequence maps them once more. -/
def settles (moved : CaseRun) : Bool :=
  0 ≤ (moved.first : Int) + moved.offset &&
    (moved.lastImage < 0xD800 || (0xDFFF < moved.image && moved.lastImage < 0x110000)) &&
    (moved.lastImage < 0x130 || 0x130 < moved.image) && lowerRuns.all moved.isApart

theorem not_covers_of_isApart {moved run : CaseRun} (h : moved.isApart run = true) {i : Nat}
    (count : i < moved.count) : run.covers (moved.image + moved.step * i) = false := by
  rw [← Bool.not_eq_true]
  intro covered
  obtain ⟨j, place, same⟩ := eq_of_covers covered
  have low : moved.step * i ≤ moved.step * (moved.count - 1) := Nat.mul_le_mul_left _ (by omega)
  have high : run.step * j ≤ run.step * (run.count - 1) := Nat.mul_le_mul_left _ (by omega)
  rw [isApart, Bool.or_eq_true, Bool.or_eq_true, Bool.and_eq_true, Bool.and_eq_true,
    Bool.or_eq_true, beq_iff_eq, beq_iff_eq, beq_iff_eq, beq_iff_eq] at h
  rcases h with (before | after) | ⟨⟨double, single | once⟩, odd⟩
  · have before := of_decide_eq_true before
    rw [lastImage] at before
    omega
  · have after := of_decide_eq_true after
    omega
  · rw [double, single] at same
    omega
  · have first : i = 0 := by omega
    rw [double, first] at same
    omega

end CaseRun

/-- Among the ASCII characters only the capital letters change. -/
theorem small_or_capital : ∀ code < 128,
    (Char.ofNat code).toLower = Char.ofNat code ∨ (65 ≤ code ∧ code ≤ 90) := by
  decide

set_option maxRecDepth 100000 in
theorem settles_lowerRuns : lowerRuns.all CaseRun.settles = true := by decide +kernel

/-- A character that no run covers and no sequence maps is small. -/
theorem isSmall_of_uncovered {code : Nat} (isChar : code.isValidChar) (sequence : code ≠ 0x130)
    (free : ∀ run ∈ lowerRuns, run.covers code = false) : isSmall (Char.ofNat code) = true := by
  have same : (Char.ofNat code).toNat = code := by
    rw [Char.ofNat, dif_pos isChar]
    rfl
  have noRun : lowerRuns.find? (·.covers code) = none :=
    List.find?_eq_none.2 fun other mem => by rw [free other mem]; exact Bool.false_ne_true
  have noSequence : lowerSequences.lookup code = none := by
    rw [List.lookup_eq_none_iff]
    intro entry mem
    rw [lowerSequences, List.mem_singleton] at mem
    rw [mem, bne_iff_ne]
    exact sequence
  refine isSmall_iff.2 ⟨?_, fun sigma => ?_⟩
  · rw [lowerChar, same]
    split
    next ascii =>
      rcases small_or_capital code ascii with small | capital
      · rw [small]
      · have letter := free ⟨0x41, 26, 1, 32⟩ (by decide)
        rw [CaseRun.covers] at letter
        simp at letter
        omega
    next => rw [mapCase, same, noSequence, noRun]
  · have place : code = 'Σ'.toNat := by rw [← same, sigma]
    have covered : (CaseRun.mk 0x3A3 9 1 32).covers code = true := by rw [place]; decide
    rw [free _ (by decide)] at covered
    cases covered

/-- What the runs of the table give is small. -/
theorem isSmall_of_mem_lowerRuns {run : CaseRun} (mem : run ∈ lowerRuns) {i : Nat}
    (count : i < run.count) :
    isSmall (Char.ofNat (((run.first + run.step * i : Nat) : Int) + run.offset).toNat) = true := by
  have settled := List.all_eq_true.1 settles_lowerRuns run mem
  rw [CaseRun.settles, Bool.and_eq_true, Bool.and_eq_true, Bool.and_eq_true, Bool.or_eq_true,
    Bool.or_eq_true, Bool.and_eq_true, decide_eq_true_eq, decide_eq_true_eq, decide_eq_true_eq,
    decide_eq_true_eq, decide_eq_true_eq, decide_eq_true_eq, List.all_eq_true] at settled
  obtain ⟨⟨⟨whole, valid⟩, sequence⟩, apart⟩ := settled
  have place : (((run.first + run.step * i : Nat) : Int) + run.offset).toNat =
      run.image + run.step * i := by
    rw [CaseRun.image]
    omega
  have last : run.image + run.step * i ≤ run.lastImage :=
    Nat.add_le_add_left (Nat.mul_le_mul_left _ (by omega)) _
  have start : run.image ≤ run.image + run.step * i := Nat.le_add_right _ _
  have isChar : (run.image + run.step * i).isValidChar := by
    simp only [Nat.isValidChar]
    omega
  rw [place]
  exact isSmall_of_uncovered isChar (by omega) fun other mem =>
    CaseRun.not_covers_of_isApart (apart other mem) count

theorem isSmall_ascii : ∀ code < 128, isSmall (Char.ofNat code).toLower = true := by
  decide

/-- The small form of a character consists of small characters. -/
theorem isSmall_of_mem_lowerChar {c d : Char} (h : d ∈ lowerChar c) : isSmall d = true := by
  have whole := h
  rw [lowerChar] at h
  split at h
  next ascii =>
    rw [List.mem_singleton] at h
    have small := isSmall_ascii c.toNat ascii
    rwa [Char.ofNat_toNat, ← h] at small
  next wide =>
    rw [mapCase] at h
    split at h
    next codes found =>
      have only : ∀ entry ∈ lowerSequences, ∀ code ∈ entry.2, isSmall (Char.ofNat code) = true := by
        decide
      obtain ⟨code, mem, rfl⟩ := List.mem_map.1 h
      obtain ⟨before, after, entries, -⟩ := List.lookup_eq_some_iff.1 found
      exact only (c.toNat, codes) (by rw [entries]; simp) code mem
    next absent =>
      split at h
      next run found =>
        have covered : run.covers c.toNat = true := by simpa using List.find?_some found
        obtain ⟨i, count, place⟩ := eq_of_covers covered
        rw [List.mem_singleton, place] at h
        rw [h]
        exact isSmall_of_mem_lowerRuns (List.mem_of_find?_eq_some found) count
      next noRun =>
        rw [List.mem_singleton] at h
        subst h
        refine isSmall_iff.2 ⟨?_, ?_⟩
        · rw [lowerChar, if_neg wide, mapCase, absent, noRun]
        · rintro rfl
          exact absurd noRun (by decide)

theorem isSmall_of_mem_lowerAfter {before cs : List Char} {d : Char}
    (h : d ∈ lowerAfter before cs) : isSmall d = true := by
  induction cs generalizing before with
  | nil => exact absurd h List.not_mem_nil
  | cons c cs ih =>
    rw [lowerAfter] at h
    rcases List.mem_append.1 h with h | h
    · split at h
      · split at h <;> rw [List.mem_singleton.1 h] <;> decide
      · exact isSmall_of_mem_lowerChar h
    · exact ih h

/-- A text of small characters is its own small form. -/
theorem lowerAfter_of_small {before cs : List Char} (h : ∀ c ∈ cs, isSmall c = true) :
    lowerAfter before cs = cs := by
  induction cs generalizing before with
  | nil => rfl
  | cons c cs ih =>
    obtain ⟨small, sigma⟩ := isSmall_iff.1 (h c List.mem_cons_self)
    rw [lowerAfter, if_neg sigma, small, ih fun d mem => h d (List.mem_cons_of_mem _ mem)]
    rfl

/-- Writing in small letters twice is writing so once. -/
theorem lower_lower (s : String) : lower (lower s) = lower s := by
  have small : ∀ c ∈ (lower s).toList, isSmall c = true := by
    intro c mem
    rw [lower, String.toList_ofList] at mem
    exact isSmall_of_mem_lowerAfter mem
  rw [lower, lowerAfter_of_small small, String.ofList_toList]

set_option maxRecDepth 10000 in
/-- A slash is no letter and ends a word. -/
theorem startsCased_append_slash (cs ds : List Char) :
    startsCased (cs ++ '/' :: ds) = startsCased cs := by
  have notIgnored : inRanges caseIgnorableRanges '/'.toNat = false := by decide
  have notCased : inRanges casedRanges '/'.toNat = false := by decide
  rw [startsCased, startsCased]
  induction cs with
  | nil =>
    rw [List.nil_append, List.dropWhile_cons, notIgnored]
    exact notCased
  | cons c cs ih =>
    rw [List.cons_append, List.dropWhile_cons, List.dropWhile_cons]
    cases inRanges caseIgnorableRanges c.toNat with
    | true => exact ih
    | false => rfl

/-- What stands before a slash does not change small forms behind it. -/
theorem lowerAfter_behind_slash (near far cs : List Char) :
    lowerAfter (near ++ '/' :: far) cs = lowerAfter near cs := by
  induction cs generalizing near with
  | nil => rfl
  | cons c cs ih =>
    rw [lowerAfter, lowerAfter, startsCased_append_slash, ← List.cons_append, ih]

theorem lowerAfter_append_slash (before cs ds : List Char) :
    lowerAfter before (cs ++ '/' :: ds) = lowerAfter before cs ++ '/' :: lowerAfter [] ds := by
  induction cs generalizing before with
  | nil =>
    have behind : lowerAfter ('/' :: before) ds = lowerAfter [] ds :=
      lowerAfter_behind_slash [] before ds
    exact congrArg ('/' :: ·) behind
  | cons c cs ih =>
    rw [List.cons_append, lowerAfter, lowerAfter, startsCased_append_slash, ih, List.append_assoc]

/-- The small forms of texts around a slash are those of each text. -/
theorem lower_append_slash (s t : String) : lower (s ++ "/" ++ t) = lower s ++ "/" ++ lower t := by
  have slash : (s ++ "/" ++ t).toList = s.toList ++ '/' :: t.toList := by
    rw [String.toList_append, String.toList_append, List.append_assoc]
    rfl
  have apart : '/' :: lowerAfter [] t.toList = "/".toList ++ lowerAfter [] t.toList := rfl
  rw [lower, slash, lowerAfter_append_slash, lower, lower, apart, String.ofList_append,
    String.ofList_append, String.ofList_toList, String.append_assoc]

end DesignTables.Text
