import Mathlib.Tactic.SplitIfs
import Zettel.Text.Blank
import Zettel.Text.Lowercase

/-!
# Small letters of words

The small letters of a text are those of its words, since nothing that decides about a letter is
looked for beyond a blank. They are those of its characters, one by one, unless a capital sigma ends
a word.

Main statements: `StandsApart.isInfix_lowerL`, the small letters of a word stand in those of the
text, and `lowerFrom_eq_flatMap_iff`, where the small letters are those of the characters.
-/

namespace Zettel.Text

open Lowercase

variable {b c : Char} {before cs ds word text : List Char}

/-! ## Blanks -/

theorem not_cased_of_isBlank (hb : isBlank b = true) :
    caseIgnorable.contains b = false ∧ cased.contains b = false := by
  have htable : ∀ r ∈ blanks, ∀ n ∈ List.range' r.1 (r.2 - r.1 + 1),
      caseIgnorable.has n = false ∧ cased.has n = false := by decide +kernel
  obtain ⟨r, hr, hn⟩ := List.any_eq_true.1 hb
  rw [Bool.and_eq_true, decide_eq_true_eq, decide_eq_true_eq] at hn
  exact htable r hr b.toNat (List.mem_range'_1.2 ⟨hn.1, by omega⟩)

/-- Nothing beyond a blank is met. -/
theorem meetsCased_append (hb : isBlank b = true) (cs ds : List Char) :
    meetsCased (cs ++ b :: ds) = meetsCased cs := by
  obtain ⟨hignored, hcased⟩ := not_cased_of_isBlank hb
  rw [meetsCased, meetsCased, List.dropWhile_append]
  cases cs.dropWhile caseIgnorable.contains with
  | nil =>
    rw [List.isEmpty_nil, if_pos rfl, List.dropWhile_cons_of_neg (by simp [hignored])]
    exact hcased
  | cons c rest => rfl

theorem lowerFrom_append_blank (hb : isBlank b = true) (before cs ds : List Char) :
    lowerFrom before (cs ++ b :: ds) =
      lowerFrom before cs ++ lowerFrom (cs.reverse ++ before) (b :: ds) := by
  induction cs generalizing before with
  | nil => rfl
  | cons c cs ih =>
    rw [List.cons_append, lowerFrom, lowerFrom, ih, endsWord, endsWord, meetsCased_append hb,
      List.reverse_cons, List.append_assoc, List.append_assoc, List.singleton_append]

theorem lowerFrom_behind_blank (hb : isBlank b = true) (cs before ds : List Char) :
    lowerFrom (cs ++ b :: before) ds = lowerFrom cs ds := by
  induction ds generalizing cs with
  | nil => rfl
  | cons d ds ih =>
    rw [lowerFrom, lowerFrom, endsWord, endsWord, meetsCased_append hb, ← List.cons_append, ih]

/-- The word stands in the text between blanks or the ends of the text. -/
def StandsApart (word text : List Char) : Prop :=
  ∃ front back, text = front ++ word ++ back ∧ front.getLast?.all isBlank = true ∧
    back.head?.all isBlank = true

/-- **The small letters of a word stand in those of the text.** -/
theorem StandsApart.isInfix_lowerL (h : StandsApart word text) : lowerL word <:+: lowerL text := by
  obtain ⟨front, back, rfl, hfront, hback⟩ := h
  have hprefix : lowerL (front ++ word) <+: lowerL (front ++ word ++ back) := by
    cases back with
    | nil => simp
    | cons b back =>
      rw [lowerL, lowerL, lowerFrom_append_blank (by simpa using hback)]
      exact List.prefix_append _ _
  have hsuffix : lowerL word <:+ lowerL (front ++ word) := by
    rcases List.eq_nil_or_concat front with rfl | ⟨front, b, rfl⟩
    · exact List.suffix_refl _
    · have hb : isBlank b = true := by simpa using hfront
      rw [List.concat_eq_append, List.append_assoc, List.singleton_append, lowerL, lowerL,
        lowerFrom_append_blank hb, lowerFrom, ← List.append_assoc]
      have hbehind := lowerFrom_behind_blank hb [] (front.reverse ++ []) word
      rw [List.nil_append] at hbehind
      rw [hbehind]
      exact List.suffix_append _ _
  exact hsuffix.isInfix.trans hprefix.isInfix

/-! ## Final sigmas -/

/-- A capital sigma among the characters ends a word, where `before` stands on their left, nearest
first. -/
def finalSigmaFrom (before : List Char) : List Char → Bool
  | [] => false
  | c :: rest => (c = capitalSigma && endsWord before rest) || finalSigmaFrom (c :: before) rest

/-- A capital sigma ends a word of the text. -/
def hasFinalSigma (s : String) : Bool := finalSigmaFrom [] s.toList

/-- **The small letters of a text are those of its characters, unless a capital sigma ends a
word.** -/
theorem lowerFrom_eq_flatMap_iff (before cs : List Char) :
    lowerFrom before cs = cs.flatMap lowerChar ↔ finalSigmaFrom before cs = false := by
  induction cs generalizing before with
  | nil => exact iff_of_true rfl rfl
  | cons c cs ih =>
    rw [lowerFrom, List.flatMap_cons, finalSigmaFrom, Bool.or_eq_false_iff, ← ih]
    by_cases hc : c = capitalSigma
    · have hsigma : lowerChar capitalSigma = ['σ'] := by decide +kernel
      rw [if_pos hc, hc, hsigma, List.singleton_append, List.singleton_append, List.cons.injEq]
      refine and_congr_left fun _ => ?_
      cases endsWord before cs with
      | true => exact iff_of_false (by decide) (by decide)
      | false => exact iff_of_true rfl rfl
    · rw [if_neg hc, List.append_cancel_left_eq]
      exact (and_iff_right (by simp [hc])).symm

/-- A word whose sigma stands at the end, and one whose sigma stands before another letter. -/
example : hasFinalSigma "ΟΔΟΣ" = true ∧ hasFinalSigma "ΟΔΟΣΑ" = false := by decide +kernel

end Zettel.Text
