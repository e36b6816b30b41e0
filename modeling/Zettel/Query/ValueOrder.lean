import Zettel.Number
import Zettel.Text.Lowercase

/-!
# The order of values

Two values that both read as numbers are ordered as numbers, any others as texts, by code points.
A missing value comes before every other.

Main statements: `compareText_swap` and `compareValues_swap`, exchanging the values reverses their
order.
-/

namespace Zettel.Query

/-- The order of two texts in small letters. -/
def compareText (a b : String) : Ordering :=
  match Number.ofText? a, Number.ofText? b with
  | some x, some y => compare x y
  | _, _ => compare a b

/-- The order of two values, of which either may be missing; case does not count. -/
def compareValues : Option String → Option String → Ordering
  | none, none => .eq
  | none, some _ => .lt
  | some _, none => .gt
  | some a, some b => compareText (Text.lowercase a) (Text.lowercase b)

/-! ## Exchange -/

theorem compareText_swap (a b : String) : (compareText a b).swap = compareText b a := by
  have texts : (compare a b).swap = compare b a := Std.OrientedCmp.eq_swap.symm
  unfold compareText
  cases Number.ofText? a with
  | none => cases Number.ofText? b <;> exact texts
  | some x =>
    cases Number.ofText? b with
    | none => exact texts
    | some y => exact (Std.OrientedCmp.eq_swap : compare y x = (compare x y).swap).symm

theorem compareValues_swap : (a b : Option String) →
    (compareValues a b).swap = compareValues b a
  | none, none => rfl
  | none, some _ => rfl
  | some _, none => rfl
  | some _, some _ => by simp only [compareValues]; exact compareText_swap _ _

/-- A number and a text are compared as texts. -/
example : compareText "10" "9" = .gt ∧ compareText "10" "9a" = .lt := by decide +kernel

end Zettel.Query
