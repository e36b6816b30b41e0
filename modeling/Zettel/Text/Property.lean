import Zettel.Text.Age
import Zettel.Text.Break.Grapheme
import Zettel.Text.Break.Sentence
import Zettel.Text.Property.Derived
import Zettel.Text.Script.Extension

/-!
# Sets of characters by name

Looks up sets by the names that the Unicode standard gives them: binary properties, general
categories and scripts have names of their own, and other sets are told by a property and its value.
-/

namespace Zettel.Text.Property

/-! ## Names -/

/-- A name in small letters, without blanks, dashes, low lines and a leading `is`. The one name that
is hidden by this, `isc`, keeps its first letters. -/
def plainName (name : String) : String :=
  let cs := name.toList.map Char.toLower
  let rest := match cs with
    | 'i' :: 's' :: rest => rest
    | rest => rest
  let kept := rest.filter fun c => c ≠ ' ' ∧ c ≠ '_' ∧ c ≠ '-' ∧ c.toNat < 0x80
  if kept = ['c'] ∧ cs.take 2 = ['i', 's'] then "isc" else String.ofList kept

/-! ## Look-up -/

/-- The set with a name of its own: a binary property, a general category or a script. -/
def named? (name : String) : Option Ranges :=
  let name := plainName name
  NamedSet.find? sets name <|> NamedSet.find? Category.sets name <|> NamedSet.find? Script.sets name

/-- The properties with values, by their names. -/
def valued : List (List String × (String → Option Ranges)) :=
  [(["generalcategory", "gc"], NamedSet.find? Category.sets),
    (["script", "sc"], NamedSet.find? Script.sets),
    (["scriptextensions", "scx"], Script.usedWith?), (["age"], Age.upTo?),
    (["graphemeclusterbreak", "gcb"], NamedSet.find? GraphemeBreak.sets),
    (["wordbreak", "wb"], NamedSet.find? WordBreak.sets),
    (["sentencebreak", "sb"], NamedSet.find? SentenceBreak.sets)]

/-- The set on which a property has the given value. -/
def valued? (property value : String) : Option Ranges :=
  match valued.find? (·.1.contains (plainName property)) with
  | some (_, find?) => find? (plainName value)
  | none => none

end Zettel.Text.Property

namespace Zettel.Text

/-! ## Words -/

/-- The characters that words are made of: what is alphabetic, marks, decimal digits, connectors and
the two joiners. -/
def wordChars : Ranges :=
  (Property.alphabetic ∪ Category.mark ∪ Category.decimalNumber ∪ Category.connectorPunctuation
    ∪ Property.joinControl).ranges

/-- The character `c` is part of a word. -/
def isWordChar (c : Char) : Bool :=
  if c.toNat < 0x80 then c.isAlphanum || c = '_' else wordChars.contains c

end Zettel.Text
