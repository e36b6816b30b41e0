import Zettel.Text.Ranges

/-!
# Blank characters

The characters with the property `White_Space`, and text stripped of them at both ends.
-/

namespace Zettel.Text

/-- The code points with the property `White_Space`. -/
def blanks : Ranges :=
  [(0x9, 0xD), (0x20, 0x20), (0x85, 0x85), (0xA0, 0xA0), (0x1680, 0x1680), (0x2000, 0x200A),
    (0x2028, 0x2029), (0x202F, 0x202F), (0x205F, 0x205F), (0x3000, 0x3000)]

/-- The character `c` separates words. -/
def isBlank (c : Char) : Bool := blanks.contains c

/-- Every character that the core library calls white space is blank. -/
theorem isBlank_of_isWhitespace {c : Char} (h : c.isWhitespace) : isBlank c := by
  simp only [Char.isWhitespace, Bool.or_eq_true, decide_eq_true_eq] at h
  rcases h with ((rfl | rfl) | rfl) | rfl <;> decide

/-- `cs` without the blanks at its ends. -/
def trimL (cs : List Char) : List Char :=
  ((cs.dropWhile isBlank).reverse.dropWhile isBlank).reverse

/-- `s` without the blanks at its ends. -/
def trim (s : String) : String := String.ofList (trimL s.toList)

/-- `s` holds nothing but blanks. -/
def isBlankText (s : String) : Bool := s.toList.all isBlank

end Zettel.Text
