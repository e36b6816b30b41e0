import Zettel.Text.Property.Derived

/-!
# Sentence breaks

The parts that characters play in finding the ends of sentences. The data is that of Unicode 16.
-/

namespace Zettel.Text.SentenceBreak

open Category Property

/-! ## Parts -/

/-- What belongs to the character before it. -/
def extend : CharSet := graphemeExtend ∪ spacingMark ∪ .listed "200D"

/-- What ends a paragraph. -/
def sep : CharSet := .listed "85 2028-2029"

/-- Blanks within a paragraph. -/
def sp : CharSet := whiteSpace \ .listed "A D 85 2028-2029"

/-- Controls of the format. -/
def format : CharSet :=
  (Category.format \ (prependedConcatenationMark ∪ .listed "200C-200D E0020-E007F"))
    ∪ .listed "70F"

/-- Small letters. -/
def lower : CharSet := Property.lowercase \ (graphemeExtend ∪ .listed "10D0-10FA 10FD-10FF")

/-- Capitals. -/
def upper : CharSet := (titlecaseLetter ∪ Property.uppercase) \ .listed "1C90-1CBA 1CBD-1CBF"

/-- Letters without case. -/
def oLetter : CharSet := (alphabetic ∪ .listed "5F3") \ (lower ∪ upper ∪ extend)

/-- Digits. -/
def numeric : CharSet := WordBreak.numeric ∪ .listed "66C"

/-- Full stops, which may end a sentence. -/
def aTerm : CharSet := .listed "2E 2024 FE52 FF0E"

/-- What ends a sentence. -/
def sTerm : CharSet := sentenceTerminal \ aTerm

/-- What closes a sentence after its end. -/
def close : CharSet :=
  (openPunctuation ∪ closePunctuation ∪ initialPunctuation ∪ finalPunctuation ∪ quotationMark
    ∪ .listed "275B-2760 2E00-2E01 2E06-2E08 2E0B 1F676-1F678")
    \ .listed "FF02 FF07"

/-- What does not end a sentence. -/
def sContinue : CharSet :=
  .listed
    "2C-2D 3A-3B 37E 55D 60C-60D 7F8 1802 1808 2013-2014 3001 FE10-FE11 FE13-FE14 FE31-FE32
     FE50-FE51 FE54-FE55 FE58 FE63 FF0C-FF0D FF1A-FF1B FF64"

/-! ## Names -/

/-- The parts with their names. -/
def sets : List NamedSet := [
  ⟨["aterm", "at"], aTerm⟩, ⟨["close", "cl"], close⟩, ⟨["extend", "ex"], extend⟩,
  ⟨["format", "fo"], format⟩, ⟨["lower", "lo"], lower⟩, ⟨["numeric", "nu"], numeric⟩,
  ⟨["oletter", "le"], oLetter⟩, ⟨["scontinue", "sc"], sContinue⟩, ⟨["sterm", "st"], sTerm⟩,
  ⟨["sep", "se"], sep⟩, ⟨["sp"], sp⟩, ⟨["upper", "up"], upper⟩, ⟨["cr"], .listed "D"⟩,
  ⟨["lf"], .listed "A"⟩]

end Zettel.Text.SentenceBreak
