import Zettel.Pattern.CharClass

/-!
# Patterns

A pattern describes a piece of text. Only whether some piece of a text fits is ever asked, so the
search keeps the set of places that a match could have come to, as the bits of a number: bit `i`
stands for the place before character `i`. A pattern takes the places where a piece may begin to
those where it may end.

What the classes and conditions of a pattern mean for a text is worked out once, in a chart.

Main statements: `reach_zero`, nothing comes from nowhere, `testBit_maskOf`, what a mask holds, and
`occursIn_eq`, the chart makes no difference.
-/

namespace Zettel

/-! ## The form of patterns -/

/-- A place that is told by the parts of words around it. -/
inductive WordPlace
  | boundary
  | start
  | finish
  | startHalf
  | finishHalf
  deriving DecidableEq, Repr

/-- A condition on a place in a text. -/
inductive Place
  | textStart
  | textEnd
  | lineStart
  | lineEnd
  /-- The condition counts only ASCII characters as parts of words if `ascii` is set. -/
  | word (ascii : Bool) (place : WordPlace)
  deriving DecidableEq, Repr

/-- A regular expression. -/
inductive Pattern
  | empty
  | one (c : Pattern.CharClass)
  | place (p : Place)
  | seq (p q : Pattern)
  | alt (p q : Pattern)
  /-- The pattern from `least` to `most` times, or any number of times from `least` on. Whether more
  times are tried before fewer does not matter to what fits. -/
  | times (p : Pattern) (least : Nat) (most : Option Nat) (greedy : Bool)
  /-- What stands in parentheses, with its number if what it fits can be asked for. -/
  | group (number : Option Nat) (p : Pattern)

namespace Place

/-- The condition holds between two characters; `none` stands for an end of the text. -/
def holds (p : Place) (before after : Option Char) : Bool :=
  match p with
  | textStart => before.isNone
  | textEnd => after.isNone
  | lineStart => before.isNone || before = some '\n'
  | lineEnd => after.isNone || after = some '\n'
  | word ascii place =>
    let isWord (c : Option Char) : Bool := c.any fun c =>
      if ascii then c.isAlphanum || c = '_' else Text.isWordChar c
    match place with
    | .boundary => isWord before != isWord after
    | .start => !isWord before && isWord after
    | .finish => isWord before && !isWord after
    | .startHalf => !isWord before
    | .finishHalf => !isWord after

end Place

namespace Pattern

/-! ## Sets of places -/

/-- The places at which the list holds `true`. -/
def maskOf : List Bool → Nat
  | [] => 0
  | b :: bs => 2 * maskOf bs + b.toNat

theorem testBit_maskOf (bs : List Bool) (i : Nat) : (maskOf bs).testBit i = bs.getD i false := by
  induction bs generalizing i with
  | nil => simp [maskOf]
  | cons b bs ih =>
    cases i with
    | zero => cases b <;> simp [maskOf, Nat.testBit_zero]
    | succ i =>
      rw [maskOf, Nat.testBit_succ]
      have hbit := b.toNat_lt
      have : (2 * maskOf bs + b.toNat) / 2 = maskOf bs := by omega
      rw [this, ih]
      simp

/-- The places before the characters of `text` that the class admits. -/
def classMask (text : List Char) (c : CharClass) : Nat := maskOf (text.map c.has)

/-- Whether the condition holds at the places of `text`, the last character before which is
`before`. -/
def holdsAt (p : Place) (before : Option Char) : List Char → List Bool
  | [] => [p.holds before none]
  | c :: rest => p.holds before (some c) :: holdsAt p (some c) rest

/-- The places of `text` where the condition holds. -/
def placeMask (text : List Char) (p : Place) : Nat := maskOf (holdsAt p none text)

/-- Every place of a text of `length` characters. -/
def allPlaces (length : Nat) : Nat := (1 <<< (length + 1)) - 1

/-! ## Steps -/

/-- Takes a step `n` times, and stops early where that changes nothing. -/
def iterate (step : Nat → Nat) : Nat → Nat → Nat
  | 0, s => s
  | n + 1, s => let t := step s; if t = s then s else iterate step n t

/-- Takes a step at most `n` times, and stops early where that adds nothing. -/
def upTo (step : Nat → Nat) : Nat → Nat → Nat
  | 0, s => s
  | n + 1, s => let t := s ||| step s; if t = s then s else upTo step n t

/-- A text, with what is known of its classes and conditions. -/
structure Chart where
  text : List Char
  classes : List (CharClass × Nat) := []
  places : List (Place × Nat) := []

namespace Chart

/-- The places before the characters that the class admits. -/
def classMask (t : Chart) (c : CharClass) : Nat :=
  match t.classes.lookup c with
  | some mask => mask
  | none => Pattern.classMask t.text c

/-- The places where the condition holds. -/
def placeMask (t : Chart) (p : Place) : Nat :=
  match t.places.lookup p with
  | some mask => mask
  | none => Pattern.placeMask t.text p

/-- Enters what the pattern asks for. -/
def enter (t : Chart) : Pattern → Chart
  | .empty => t
  | .one c => { t with classes := learn (Pattern.classMask t.text) c t.classes }
  | .place p => { t with places := learn (Pattern.placeMask t.text) p t.places }
  | .seq p q => (t.enter p).enter q
  | .alt p q => (t.enter p).enter q
  | .times p _ _ _ => t.enter p
  | .group _ p => t.enter p
where
  /-- Enters a value that is not known yet. -/
  learn {α : Type} [BEq α] (f : α → Nat) (a : α) (known : List (α × Nat)) : List (α × Nat) :=
    if (known.lookup a).isSome then known else (a, f a) :: known

end Chart

/-- The places where a piece may end that begins at one of the places `s`. -/
def reach (t : Chart) : Pattern → Nat → Nat
  | empty, s => s
  | one c, s => if s = 0 then 0 else (s &&& t.classMask c) <<< 1
  | place p, s => if s = 0 then 0 else s &&& t.placeMask p
  | seq p q, s => reach t q (reach t p s)
  | alt p q, s => reach t p s ||| reach t q s
  | times p least most _, s =>
    let extra := match most with
      | some most => most - least
      | none => t.text.length + 1
    upTo (reach t p) extra (iterate (reach t p) least s)
  | group _ p, s => reach t p s

/-- Some piece of the text fits the pattern. -/
def occursIn (p : Pattern) (text : String) : Bool :=
  let t := Chart.enter { text := text.toList } p
  reach t p (allPlaces t.text.length) ≠ 0

/-! ## What is entered is right -/

namespace Chart

/-- What the chart knows is right. -/
def IsRight (t : Chart) : Prop :=
  (∀ e ∈ t.classes, e.2 = Pattern.classMask t.text e.1) ∧
    ∀ e ∈ t.places, e.2 = Pattern.placeMask t.text e.1

/-- What is learned is the value of the function or was known. -/
private theorem mem_learn {α : Type} [BEq α] {f : α → Nat} {a : α} {known : List (α × Nat)}
    {e : α × Nat} (h : e ∈ enter.learn f a known) : e = (a, f a) ∨ e ∈ known := by
  rw [enter.learn] at h
  split at h
  · exact .inr h
  · exact List.mem_cons.1 h

private theorem mem_of_lookup {α : Type} [BEq α] [LawfulBEq α] {a : α} {n : Nat}
    {known : List (α × Nat)} (h : known.lookup a = some n) : (a, n) ∈ known := by
  induction known with
  | nil => cases h
  | cons e known ih =>
    rw [List.lookup_cons] at h
    split at h
    · next ha =>
      cases h
      rw [eq_of_beq ha]
      exact List.mem_cons_self
    · exact List.mem_cons_of_mem _ (ih h)

/-- With a right chart the places of a class are the same, looked up or computed. -/
theorem classMask_eq {t : Chart} (h : t.IsRight) (c : CharClass) :
    t.classMask c = Pattern.classMask t.text c := by
  rw [classMask]
  split
  · next hc => exact h.1 _ (mem_of_lookup hc)
  · rfl

/-- So are the places that a condition holds at. -/
theorem placeMask_eq {t : Chart} (h : t.IsRight) (p : Place) :
    t.placeMask p = Pattern.placeMask t.text p := by
  rw [placeMask]
  split
  · next hp => exact h.2 _ (mem_of_lookup hp)
  · rfl

@[simp]
theorem text_enter (t : Chart) (p : Pattern) : (t.enter p).text = t.text := by
  induction p generalizing t with
  | empty | one | place => rfl
  | seq p q hp hq | alt p q hp hq => rw [enter, hq, hp]
  | times p _ _ _ hp | group _ p hp => rw [enter, hp]

/-- A chart stays right when it learns what a pattern needs. -/
theorem isRight_enter {t : Chart} (h : t.IsRight) (p : Pattern) : (t.enter p).IsRight := by
  induction p generalizing t with
  | empty => exact h
  | one c => exact ⟨fun e he => (mem_learn he).elim (fun he => he ▸ rfl) (h.1 e), h.2⟩
  | place p => exact ⟨h.1, fun e he => (mem_learn he).elim (fun he => he ▸ rfl) (h.2 e)⟩
  | seq p q hp hq | alt p q hp hq => exact hq (hp h)
  | times p _ _ _ hp | group _ p hp => exact hp h

end Chart

/-- What is known beforehand makes no difference. -/
theorem reach_eq {t u : Chart} (ht : t.IsRight) (hu : u.IsRight) (h : t.text = u.text)
    (p : Pattern) : reach t p = reach u p := by
  induction p with
  | empty => rfl
  | one c => funext s; rw [reach, reach, t.classMask_eq ht, u.classMask_eq hu, h]
  | place p => funext s; rw [reach, reach, t.placeMask_eq ht, u.placeMask_eq hu, h]
  | seq p q hp hq => funext s; rw [reach, reach, hp, hq]
  | alt p q hp hq => funext s; rw [reach, reach, hp, hq]
  | times p least most greedy hp => funext s; simp only [reach, hp, h]
  | group number p hp => funext s; rw [reach, reach, hp]

/-- The search with a filled chart finds what it finds with an empty one. -/
theorem occursIn_eq (p : Pattern) (text : String) :
    p.occursIn text =
      decide (reach { text := text.toList } p (allPlaces text.toList.length) ≠ 0) := by
  have right : Chart.IsRight { text := text.toList } := ⟨by simp, by simp⟩
  simp only [occursIn, Chart.text_enter]
  rw [reach_eq (Chart.isRight_enter right p) right (Chart.text_enter _ p)]

/-! ## Nothing comes from nowhere -/

theorem iterate_zero {step : Nat → Nat} (h : step 0 = 0) (n : Nat) : iterate step n 0 = 0 := by
  cases n <;> simp [iterate, h]

/-- From no place a step leads nowhere, however often it is taken. -/
theorem upTo_zero {step : Nat → Nat} (h : step 0 = 0) (n : Nat) : upTo step n 0 = 0 := by
  cases n <;> simp [upTo, h]

/-- Nothing comes from nowhere. -/
theorem reach_zero (t : Chart) (p : Pattern) : reach t p 0 = 0 := by
  induction p with
  | empty => rfl
  | one c => rfl
  | place p => rfl
  | seq p q hp hq => rw [reach, hp, hq]
  | alt p q hp hq => rw [reach, hp, hq]; rfl
  | times p least most greedy hp => simp only [reach, iterate_zero hp, upTo_zero hp]
  | group number p hp => rw [reach, hp]

end Pattern

end Zettel
