import Zettel.Text.Property.Derived

/-!
# Letters and numbers

What counts as a letter or a number of any language. The data is that of Unicode 17; it says what
has been added since Unicode 16.
-/

namespace Zettel.Text

namespace Letter

/-- The characters with the property `Alphabetic`. -/
def letters : Ranges :=
  (Property.alphabetic
    ∪ .listed
      "88F C5C CDC A7CE-A7CF A7D2 A7D4 A7F1 10940-10959 10EC5-10EC7 10EFA-10EFB 11B60-11B67
       11DB0-11DDB 16EA0-16EB8 16EBB-16ED3 16FF2-16FF6 187F8-187FF 18D09-18D1E 18D80-18DF2
       1E6C0-1E6DE 1E6E0-1E6F5 1E6FE-1E6FF 2B73A-2B73F 2CEA2-2CEAD 323B0-33479").ranges

/-- Numbers of every kind. -/
def numbers : Ranges := (Category.number ∪ .listed "11DE0-11DE9 16FF4-16FF6").ranges

end Letter

/-- The character `c` is a letter. -/
def isLetter (c : Char) : Bool :=
  if c.toNat < 0x80 then c.isAlpha else Letter.letters.contains c

/-- The character `c` is a letter or a number. -/
def isLetterOrNumber (c : Char) : Bool :=
  if c.toNat < 0x80 then c.isAlphanum
  else Letter.letters.contains c || Letter.numbers.contains c

end Zettel.Text
