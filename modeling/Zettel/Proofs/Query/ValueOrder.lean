import Mathlib.Data.Set.Basic
import Mathlib.Data.String.Basic
import Zettel.Proofs.Rounding
import Zettel.Query.ValueOrder

/-!
# How far the order of values is one

Any two values can be compared, and exchanging them reverses their order. But numbers are compared
as numbers and everything else as text, so the order goes round in circles where a text lies between
two numbers, as texts, that are not in order as numbers: `9`, `10`, `1a` and `9` again. This is the
only way in which it can fail to be transitive.

Main statements: `isLE_compareValues_of_isDecimal`, numbers have the order of the decimals that
they are, and `transitiveOn_compareValues_iff`, the values among which the order is transitive.
-/

namespace Zettel

universe u

/-- Of three elements of `s` the first does not come after the last, if neither of them is out of
order with the second. -/
def TransitiveOn {α : Type u} (cmp : α → α → Ordering) (s : Set α) : Prop :=
  ∀ a ∈ s, ∀ b ∈ s, ∀ c ∈ s, (cmp a b).isLE → (cmp b c).isLE → (cmp a c).isLE

/-- Among these elements the comparison is that of a linear preorder. -/
theorem TransitiveOn.transCmp {α : Type u} {cmp : α → α → Ordering} {s : Set α}
    (h : TransitiveOn cmp s) (swap : ∀ a b, (cmp a b).swap = cmp b a) :
    Std.TransCmp fun a b : s => cmp a b where
  eq_swap := (swap _ _).symm
  isLE_trans {a b c} := h a a.2 b b.2 c c.2

namespace Query

/-- If a text is no number, numbers around it, in the order of texts, are in order as numbers. -/
def NumbersRise (texts : Set String) : Prop :=
  ∀ s ∈ texts, ∀ t ∈ texts, ∀ u ∈ texts, ∀ x y : Int,
    Number.ofText? s = some x → Number.ofText? t = none → Number.ofText? u = some y →
      s < t → t < u → x < y

/-- The values that are there, as texts in small letters. -/
def textsOf (values : Set (Option String)) : Set String :=
  {t | ∃ s, some s ∈ values ∧ Text.lowercase s = t}

/-! ## Comparing two texts -/

section Text

variable {s t u : String} {x y : Int}

theorem isLE_compareText_of_numbers (hs : Number.ofText? s = some x)
    (ht : Number.ofText? t = some y) : (compareText s t).isLE ↔ x ≤ y := by
  rw [compareText, hs, ht]
  exact Int.isLE_compare

/-- Unless both are numbers, they are compared as texts. -/
theorem isLE_compareText_of_text (h : Number.ofText? s = none ∨ Number.ofText? t = none) :
    (compareText s t).isLE ↔ s ≤ t := by
  have htexts : compareText s t = compare s t := by
    rw [compareText]
    rcases h with h | h <;> rw [h]
    cases Number.ofText? s <;> rfl
  rw [htexts]
  exact Std.LawfulBCmp.isLE_iff_le

/-- A number and a text that is none are different texts. -/
theorem lt_of_number_of_text (hs : Number.ofText? s = some x) (ht : Number.ofText? t = none)
    (h : (compareText s t).isLE) : s < t := by
  refine lt_of_le_of_ne ((isLE_compareText_of_text (.inr ht)).1 h) ?_
  rintro rfl
  rw [hs] at ht
  cases ht

theorem lt_of_text_of_number (hs : Number.ofText? s = none) (ht : Number.ofText? t = some x)
    (h : (compareText s t).isLE) : s < t := by
  refine lt_of_le_of_ne ((isLE_compareText_of_text (.inl hs)).1 h) ?_
  rintro rfl
  rw [hs] at ht
  cases ht

end Text

/-! ## Three texts -/

section Triple

variable {texts : Set String}

/-- Where numbers fall although a text lies between them, the order goes round in a circle. -/
theorem numbersRise_of_transitiveOn (h : TransitiveOn compareText texts) : NumbersRise texts := by
  intro s hs t ht u hu x y hx hnone hy hst htu
  by_contra hfall
  have hus : (compareText u s).isLE := (isLE_compareText_of_numbers hy hx).2 (not_lt.1 hfall)
  have hst' : (compareText s t).isLE := (isLE_compareText_of_text (.inr hnone)).2 hst.le
  have hut := h u hu s hs t ht hus hst'
  exact htu.not_ge ((isLE_compareText_of_text (.inr hnone)).1 hut)

theorem transitiveOn_of_numbersRise (h : NumbersRise texts) : TransitiveOn compareText texts := by
  intro a ha b hb c hc hab hbc
  -- the texts decide unless two of the three are numbers
  cases hx : Number.ofText? a with
  | none =>
    refine (isLE_compareText_of_text (.inl hx)).2 ?_
    cases hy : Number.ofText? b with
    | none =>
      exact ((isLE_compareText_of_text (.inl hx)).1 hab).trans
        ((isLE_compareText_of_text (.inl hy)).1 hbc)
    | some y =>
      cases hz : Number.ofText? c with
      | none =>
        exact ((isLE_compareText_of_text (.inl hx)).1 hab).trans
          ((isLE_compareText_of_text (.inr hz)).1 hbc)
      | some z =>
        by_contra hca
        have hzy := h c hc a ha b hb z y hz hx hy (not_le.1 hca) (lt_of_text_of_number hx hy hab)
        exact hzy.not_ge ((isLE_compareText_of_numbers hy hz).1 hbc)
  | some x =>
    cases hz : Number.ofText? c with
    | none =>
      refine (isLE_compareText_of_text (.inr hz)).2 ?_
      cases hy : Number.ofText? b with
      | none =>
        exact ((isLE_compareText_of_text (.inr hy)).1 hab).trans
          ((isLE_compareText_of_text (.inr hz)).1 hbc)
      | some y =>
        by_contra hca
        have hyx := h b hb c hc a ha y x hy hz hx (lt_of_number_of_text hy hz hbc) (not_le.1 hca)
        exact hyx.not_ge ((isLE_compareText_of_numbers hx hy).1 hab)
    | some z =>
      refine (isLE_compareText_of_numbers hx hz).2 ?_
      cases hy : Number.ofText? b with
      | none =>
        exact (h a ha b hb c hc x z hx hy hz (lt_of_number_of_text hx hy hab)
          (lt_of_text_of_number hy hz hbc)).le
      | some y =>
        exact ((isLE_compareText_of_numbers hx hy).1 hab).trans
          ((isLE_compareText_of_numbers hy hz).1 hbc)

end Triple

/-! ## Values -/

/-- The value is the decimal `d`, and not too large for a number. -/
def IsDecimal (a : String) (d : Decimal) : Prop :=
  Decimal.ofChars? (Text.trimL (Text.lowercase a).toList) = some d ∧ d.units?.isSome

/-- A decimal does not come after one that is as great or greater, even if both are rounded. -/
theorem isLE_compareValues_of_isDecimal {a b : String} {d e : Decimal} (ha : IsDecimal a d)
    (hb : IsDecimal b e) (h : d.value ≤ e.value) : (compareValues (some a) (some b)).isLE := by
  obtain ⟨x, hx⟩ := Option.isSome_iff_exists.1 ha.2
  obtain ⟨y, hy⟩ := Option.isSome_iff_exists.1 hb.2
  have hax : Number.ofText? (Text.lowercase a) = some x := by
    rw [Number.ofText?, ha.1, Option.bind_some, hx]
  have hby : Number.ofText? (Text.lowercase b) = some y := by
    rw [Number.ofText?, hb.1, Option.bind_some, hy]
  rw [compareValues]
  exact (isLE_compareText_of_numbers hax hby).2 (Decimal.units?_le hx hy h)

/-- Of two values at least one does not come after the other. -/
theorem isLE_compareValues_total (a b : Option String) :
    (compareValues a b).isLE ∨ (compareValues b a).isLE := by
  rw [← compareValues_swap a b]
  cases compareValues a b <;> decide

/-- **The order is transitive exactly among values whose numbers rise around every text.** -/
theorem transitiveOn_compareValues_iff (values : Set (Option String)) :
    TransitiveOn compareValues values ↔ NumbersRise (textsOf values) := by
  have htexts : ∀ a b : String, compareValues (some a) (some b) =
      compareText (Text.lowercase a) (Text.lowercase b) := fun _ _ => rfl
  constructor
  · intro h
    refine numbersRise_of_transitiveOn ?_
    rintro _ ⟨a, ha, rfl⟩ _ ⟨b, hb, rfl⟩ _ ⟨c, hc, rfl⟩
    simp only [← htexts]
    exact h (some a) ha (some b) hb (some c) hc
  · intro h a ha b hb c hc hab hbc
    cases a with
    | none => cases c <;> rfl
    | some a =>
      cases b with
      | none => exact absurd hab Bool.false_ne_true
      | some b =>
        cases c with
        | none => exact absurd hbc Bool.false_ne_true
        | some c =>
          rw [htexts] at *
          exact transitiveOn_of_numbersRise h _ ⟨a, ha, rfl⟩ _ ⟨b, hb, rfl⟩ _ ⟨c, hc, rfl⟩ hab hbc

end Query

end Zettel
