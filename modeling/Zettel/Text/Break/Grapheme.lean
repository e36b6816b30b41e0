import Zettel.Text.Property.Derived

/-!
# Grapheme breaks

The parts that characters play in finding the ends of graphemes. The data is that of Unicode 16.
-/

namespace Zettel.Text.GraphemeBreak

open Category Property

/-! ## Parts -/

/-- Controls. -/
def control : CharSet :=
  (lineSeparator ∪ paragraphSeparator ∪ Category.control ∪ format
    ∪ .listed "2065 FFF0-FFF8 E0000 E0002-E001F E0080-E00FF E01F0-E0FFF")
    \ (prependedConcatenationMark ∪ .listed "A D 200C-200D E0020-E007F")

/-- What belongs to the character before it. -/
def extend : CharSet := (graphemeExtend ∪ emojiModifier) \ .listed "200D"

/-- What belongs to the character after it. -/
def prepend : CharSet :=
  prependedConcatenationMark
    ∪ .listed "D4E 111C2-111C3 113D1 1193F 11941 11A3A 11A84-11A89 11D46 11F02"

/-- Marks with a width. -/
def spacingMark : CharSet :=
  (Category.spacingMark ∪ .listed "E33 EB3")
    \ (graphemeExtend
      ∪ .listed
        "102B-102C 1038 1062-1064 1067-106D 1083 1087-108C 108F 109A-109C 1A61 1A63-1A64 AA7B AA7D
         11720-11721")

/-- Letters that begin a Hangul syllable. -/
def l : CharSet := .listed "1100-115F A960-A97C"

/-- Vowels of Hangul and of scripts that compose like it. -/
def v : CharSet := .listed "1160-11A7 D7B0-D7C6 16D63 16D67-16D6A"

/-- Letters that end a Hangul syllable. -/
def t : CharSet := .listed "11A8-11FF D7CB-D7FB"

/-- Hangul syllables of two letters. -/
def lv : CharSet := .spaced 0xAC00 0xD7A3 28

/-- Hangul syllables of three letters. -/
def lvt : CharSet := .listed "AC00-D7A3" \ lv

/-! ## Names -/

/-- The parts with their names. -/
def sets : List NamedSet := [
  ⟨["control", "cn"], control⟩, ⟨["extend", "ex"], extend⟩, ⟨["l"], l⟩, ⟨["lv"], lv⟩,
  ⟨["lvt"], lvt⟩, ⟨["prepend", "pp"], prepend⟩, ⟨["spacingmark", "sm"], spacingMark⟩, ⟨["t"], t⟩,
  ⟨["v"], v⟩, ⟨["cr"], .listed "D"⟩, ⟨["lf"], .listed "A"⟩,
  ⟨["regionalindicator", "ri"], regionalIndicator⟩, ⟨["zwj"], .listed "200D"⟩]

end Zettel.Text.GraphemeBreak
