/-!
# Why a text is no pattern
-/

namespace Zettel.Pattern

/-- The causes for which a text is refused as a pattern. -/
inductive Error
  | unclosedGroup
  | unopenedGroup
  | lookAround
  | backreference
  | badGroupName
  | repeatedGroupName
  | badFlag
  | nothingToRepeat
  | unclosedCount
  | badCount
  | unclosedClass
  | badRange
  | badClassItem
  | unfinishedEscape
  | badEscape
  | badCodePoint
  | unknownProperty
  | notUnicode
  | tooDeep
  | tooLarge
  deriving DecidableEq, Repr

/-- The wording of a cause. -/
def Error.message : Error → String
  | unclosedGroup => "unclosed group"
  | unopenedGroup => "unopened group"
  | lookAround => "look-around is not supported"
  | backreference => "backreferences are not supported"
  | badGroupName => "invalid name of a group"
  | repeatedGroupName => "two groups of one name"
  | badFlag => "invalid flags"
  | nothingToRepeat => "repetition without anything to repeat"
  | unclosedCount => "unclosed counted repetition"
  | badCount => "invalid count of repetitions"
  | unclosedClass => "unclosed character class"
  | badRange => "invalid range in a character class"
  | badClassItem => "invalid item in a character class"
  | unfinishedEscape => "incomplete escape sequence"
  | badEscape => "unrecognized escape sequence"
  | badCodePoint => "invalid hexadecimal code point"
  | unknownProperty => "unknown character property"
  | notUnicode => "the pattern can match invalid text"
  | tooDeep => "the pattern is nested too deeply"
  | tooLarge => "the pattern is too large"

end Zettel.Pattern
