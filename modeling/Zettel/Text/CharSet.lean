import Zettel.Text.Ranges

/-!
# Descriptions of sets of characters

The Unicode standard gives sets of characters by tables, and derives others from these. A
description says how a set is made; its ranges are worked out where they are needed.

The sets have names. A name is looked up in small letters and without blanks, dashes and low lines,
so that `Uppercase_Letter` and `uppercase letter` are one name.

Main statements: `has_union` and `has_sdiff`, what derived sets have.
-/

namespace Zettel.Text

/-- How a set of characters is made. -/
inductive CharSet
  /-- The ranges in the text of a table. -/
  | listed (table : String)
  /-- Every `step`-th code point from `first` to `last`. -/
  | spaced (first last step : Nat)
  | both (s t : CharSet)
  | without (s t : CharSet)

namespace CharSet

instance : Union CharSet := ⟨both⟩

instance : SDiff CharSet := ⟨without⟩

/-- The ranges of the set. -/
def ranges : CharSet → Ranges
  | listed table => .ofText table
  | spaced first last step =>
    (List.range ((last - first) / step + 1)).map fun i => (first + step * i, first + step * i)
  | both s t => s.ranges.union t.ranges
  | without s t => s.ranges.minus t.ranges

/-- A union has what one of its parts has. -/
theorem has_union (s t : CharSet) (n : Nat) :
    (s ∪ t).ranges.has n = (s.ranges.has n || t.ranges.has n) :=
  Ranges.has_union s.ranges t.ranges n

/-- A difference has what its first part has and its second has not. -/
theorem has_sdiff (s t : CharSet) (c : Char) :
    (s \ t).ranges.contains c = (s.ranges.contains c && !t.ranges.contains c) :=
  Ranges.has_minus s.ranges t.ranges c

end CharSet

/-- A set of characters with the names that it goes by. -/
structure NamedSet where
  names : List String
  chars : CharSet

namespace NamedSet

/-- The ranges of the set. -/
def ranges (s : NamedSet) : Ranges := s.chars.ranges

/-- The ranges of the first set that goes by `name`. -/
def find? (sets : List NamedSet) (name : String) : Option Ranges :=
  (sets.find? (·.names.contains name)).map ranges

end NamedSet

end Zettel.Text
