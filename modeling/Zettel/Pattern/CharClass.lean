import Zettel.Text.Blank
import Zettel.Text.CaseVariants
import Zettel.Text.Property

/-!
# Classes of characters

What one place of a pattern admits: a set of characters, which may have been put together in the
small alphabet of ASCII.
-/

namespace Zettel.Pattern

open Zettel.Text

/-- A class of characters. -/
structure CharClass where
  ranges : Ranges
  /-- The class was read without the Unicode flag. -/
  isAscii : Bool := false
  deriving DecidableEq, Repr

namespace CharClass

/-- The class admits the character `x`. -/
def has (c : CharClass) (x : Char) : Bool := c.ranges.contains x

end CharClass

/-- The set of one character. -/
def single (c : Char) : Ranges := [(c.toNat, c.toNat)]

/-- The set has ASCII characters only. -/
def isAscii (rs : Ranges) : Bool := rs.all (·.2 < 0x80)

/-! ## Sets with names of their own -/

/-- Decimal digits. -/
def digits : Ranges := Category.decimalNumber.ranges

/-- ASCII digits. -/
def asciiDigits : Ranges := [(0x30, 0x39)]

/-- ASCII blanks, the vertical tabulator included. -/
def asciiBlanks : Ranges := [(9, 13), (0x20, 0x20)]

/-- ASCII letters. -/
def asciiLetters : Ranges := [(0x41, 0x5A), (0x61, 0x7A)]

/-- ASCII letters and digits. -/
def asciiAlphanumerics : Ranges := [(0x30, 0x39), (0x41, 0x5A), (0x61, 0x7A)]

/-- ASCII characters that words are made of. -/
def asciiWordChars : Ranges := [(0x30, 0x39), (0x41, 0x5A), (0x5F, 0x5F), (0x61, 0x7A)]

/-- The sets that may be named between `[:` and `:]`. -/
def posixSets : List (String × Ranges) :=
  [("alnum", asciiAlphanumerics), ("alpha", asciiLetters), ("ascii", [(0, 0x7F)]),
    ("blank", [(9, 9), (0x20, 0x20)]), ("cntrl", [(0, 0x1F), (0x7F, 0x7F)]),
    ("digit", asciiDigits), ("graph", [(0x21, 0x7E)]), ("lower", [(0x61, 0x7A)]),
    ("print", [(0x20, 0x7E)]),
    ("punct", [(0x21, 0x2F), (0x3A, 0x40), (0x5B, 0x60), (0x7B, 0x7E)]), ("space", asciiBlanks),
    ("upper", [(0x41, 0x5A)]), ("word", asciiWordChars),
    ("xdigit", [(0x30, 0x39), (0x41, 0x46), (0x61, 0x66)])]

end Zettel.Pattern
