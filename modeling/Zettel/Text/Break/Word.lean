import Zettel.Text.Category.Table
import Zettel.Text.Property.Table

/-!
# Word breaks

The parts that characters play in finding the ends of words. The data is that of Unicode 16.
-/

namespace Zettel.Text.WordBreak

open Category Property

/-! ## Parts -/

/-- What stands between letters. -/
def midLetter : CharSet := .listed "3A B7 387 55F 5F4 2027 FE13 FE55 FF1A"

/-- What stands between digits. -/
def midNum : CharSet := .listed "2C 3B 37E 589 60C-60D 66C 7F8 2044 FE50 FE54 FF0C FF1B"

/-- What stands between letters or digits. -/
def midNumLet : CharSet := .listed "2E 2018-2019 2024 FE52 FF07 FF0E"

/-- The apostrophe of typewriters. -/
def singleQuote : CharSet := .listed "27"

/-- The quotation mark of typewriters. -/
def doubleQuote : CharSet := .listed "22"

/-- Digits. -/
def numeric : CharSet :=
  decimalNumber ∪ .listed "600-605 66B 6DD 890-891 8E2 19DA 110BD 110CD"

/-- What connects words. -/
def extendNumLet : CharSet := connectorPunctuation ∪ .listed "202F"

/-- What belongs to the character before it. -/
def extend : CharSet :=
  (enclosingMark ∪ nonspacingMark ∪ otherGraphemeExtend ∪ spacingMark ∪ emojiModifier)
    \ .listed "200D"

/-- Controls of the format. -/
def format : CharSet :=
  Category.format \ (.listed "200B-200D E0020-E007F" ∪ prependedConcatenationMark)

/-- Hebrew letters. -/
def hebrewLetter : CharSet :=
  .listed "5D0-5EA 5EF-5F2 FB1D FB1F-FB28 FB2A-FB36 FB38-FB3C FB3E FB40-FB41 FB43-FB44 FB46-FB4F"

/-- Katakana. -/
def katakana : CharSet :=
  .listed
    "3031-3035 309B-309C 30A0-30FA 30FC-30FF 31F0-31FF 32D0-32FE 3300-3357 FF66-FF9D 1AFF0-1AFF3
     1AFF5-1AFFB 1AFFD-1AFFE 1B000 1B120-1B122 1B155 1B164-1B167"

/-- Letters of the scripts that part words by blanks. -/
def aLetter : CharSet :=
  (lowercaseLetter ∪ otherLowercase ∪ uppercaseLetter ∪ otherUppercase ∪ titlecaseLetter
    ∪ modifierLetter ∪ otherLetter ∪ letterNumber ∪ otherAlphabetic
    ∪ .listed
      "2C2-2C5 2D2-2D7 2DE-2DF 2E5-2EB 2ED 2EF-2FF 55A-55C 55E 58A 5F3 70F A708-A716 A720-A721
       A789-A78A AB5B")
    \ (ideographic ∪ katakana ∪ hebrewLetter ∪ extend
      ∪ .listed
        "E01-E30 E32-E33 E40-E46 E81-E82 E84 E86-E8A E8C-EA3 EA5 EA7-EB0 EB2-EB3 EBD EC0-EC4 EC6
         EDC-EDF 1000-102A 103F 1050-1055 105A-105D 1061 1065-1066 106E-1070 1075-1081 108E
         1780-17B3 17D7 17DC 1950-196D 1970-1974 1980-19AB 19B0-19C9 1A20-1A54 1AA7 3041-3096
         309D-309F A9E0-A9E4 A9E6-A9EF A9FA-A9FE AA60-AA76 AA7A AA7E-AAAF AAB1 AAB5-AAB6 AAB9-AABD
         AAC0 AAC2 AADB-AADD 11700-1171A 11740-11746 1B001-1B11F 1B132 1B150-1B152")

/-- Blanks of which several make one part. -/
def wSegSpace : CharSet := .listed "20 1680 2000-2006 2008-200A 205F 3000"

/-! ## Names -/

/-- The parts with their names. -/
def sets : List NamedSet := [
  ⟨["aletter", "le"], aLetter⟩, ⟨["doublequote", "dq"], doubleQuote⟩, ⟨["extend"], extend⟩,
  ⟨["extendnumlet", "ex"], extendNumLet⟩, ⟨["format", "fo"], format⟩,
  ⟨["hebrewletter", "hl"], hebrewLetter⟩, ⟨["katakana", "ka"], katakana⟩,
  ⟨["midletter", "ml"], midLetter⟩, ⟨["midnum", "mn"], midNum⟩, ⟨["midnumlet", "mb"], midNumLet⟩,
  ⟨["numeric", "nu"], numeric⟩, ⟨["singlequote", "sq"], singleQuote⟩, ⟨["wsegspace"], wSegSpace⟩,
  ⟨["cr"], .listed "D"⟩, ⟨["lf"], .listed "A"⟩, ⟨["newline", "nl"], .listed "B-C 85 2028-2029"⟩,
  ⟨["regionalindicator", "ri"], regionalIndicator⟩, ⟨["zwj"], .listed "200D"⟩]

end Zettel.Text.WordBreak
