import Zettel.Text.Break.Word
import Zettel.Text.Category.Table
import Zettel.Text.Property.Table

/-!
# Binary properties

The binary properties that are derived from general categories and from basic properties, and the
names of all. The data is that of Unicode 16.
-/

namespace Zettel.Text.Property

open Category

/-! ## Case -/

/-- Small letters and what counts as such. -/
def lowercase : CharSet := lowercaseLetter ∪ otherLowercase

/-- Capitals and what counts as such. -/
def uppercase : CharSet := uppercaseLetter ∪ otherUppercase

/-- What has a case. -/
def cased : CharSet := lowercase ∪ uppercase ∪ titlecaseLetter

/-- What the case of a word does not look at. -/
def caseIgnorable : CharSet :=
  nonspacingMark ∪ enclosingMark ∪ format ∪ modifierLetter ∪ modifierSymbol ∪ WordBreak.midLetter
    ∪ WordBreak.midNumLet ∪ WordBreak.singleQuote

/-- What is another character in small letters. -/
def changesWhenLowercased : CharSet := (uppercase ∪ titlecaseLetter) \ lowerInvariant

/-- What is another character in capitals. -/
def changesWhenUppercased : CharSet := (lowercase ∪ titlecaseLetter) \ upperInvariant

/-- What is another character at the beginning of a title. -/
def changesWhenTitlecased : CharSet :=
  (changesWhenUppercased ∪ .listed "1C4 1C7 1CA 1F1")
    \ .listed
      "1C5 1C8 1CB 1F2 10D0-10FA 10FD-10FF 1F88-1F8F 1F98-1F9F 1FA8-1FAF 1FBC 1FCC 1FFC"

/-- What is another character when case is folded. -/
def changesWhenCasefolded : CharSet :=
  (changesWhenLowercased ∪
    .listed
      "B5 DF 149 17F 345 3C2 3D0-3D1 3D5-3D6 3F0-3F1 3F5 587 13F8-13FD 1C80-1C88 1E9A-1E9B
       1F80-1F87 1F90-1F97 1FA0-1FA7 1FB2-1FB4 1FB7 1FC2-1FC4 1FC7 1FF2-1FF4 1FF7 AB70-ABBF
       FB00-FB06 FB13-FB17")
    \ .listed "13A0-13F5"

/-- What is another character in another case. -/
def changesWhenCasemapped : CharSet :=
  changesWhenLowercased ∪ changesWhenUppercased ∪ changesWhenTitlecased

/-! ## Words and identifiers -/

/-- What words of a language are made of. -/
def alphabetic : CharSet :=
  lowercase ∪ uppercase ∪ titlecaseLetter ∪ modifierLetter ∪ otherLetter ∪ letterNumber
    ∪ otherAlphabetic

/-- What is used in mathematics. -/
def math : CharSet := mathSymbol ∪ otherMath

/-- What may begin an identifier. -/
def idStart : CharSet :=
  (letter ∪ letterNumber ∪ otherIdStart) \ (patternSyntax ∪ patternWhiteSpace)

/-- What may follow in an identifier. -/
def idContinue : CharSet :=
  (idStart ∪ nonspacingMark ∪ spacingMark ∪ decimalNumber ∪ connectorPunctuation ∪ otherIdContinue)
    \ (patternSyntax ∪ patternWhiteSpace)

/-- What may begin an identifier in every normal form. -/
def xidStart : CharSet :=
  idStart \ .listed
    "37A E33 EB3 309B-309C FC5E-FC63 FDFA-FDFB FE70 FE72 FE74 FE76 FE78 FE7A FE7C FE7E FF9E-FF9F"

/-- What may follow in an identifier in every normal form. -/
def xidContinue : CharSet :=
  idContinue \
    .listed
      "37A 309B-309C FC5E-FC63 FDFA-FDFB FE70 FE72 FE74 FE76 FE78 FE7A FE7C FE7E"

/-! ## Graphemes -/

/-- What extends the grapheme before it. -/
def graphemeExtend : CharSet := enclosingMark ∪ nonspacingMark ∪ otherGraphemeExtend

/-- What may begin a grapheme. -/
def graphemeBase : CharSet :=
  any \ (control ∪ format ∪ privateUse ∪ unassigned ∪ lineSeparator ∪ paragraphSeparator
    ∪ graphemeExtend)

/-- What is not shown where it is not known. -/
def defaultIgnorableCodePoint : CharSet :=
  (otherDefaultIgnorableCodePoint ∪ format ∪ variationSelector)
    \ (whiteSpace ∪ .listed "FFF9-FFFB 13430-1343F" ∪ prependedConcatenationMark)

/-! ## Names -/

/-- The binary properties with their names. -/
def sets : List NamedSet := [
  ⟨["asciihexdigit", "ahex"], asciiHexDigit⟩, ⟨["alphabetic", "alpha"], alphabetic⟩,
  ⟨["bidicontrol", "bidic"], bidiControl⟩, ⟨["bidimirrored", "bidim"], bidiMirrored⟩,
  ⟨["caseignorable", "ci"], caseIgnorable⟩, ⟨["cased"], cased⟩,
  ⟨["changeswhencasefolded", "cwcf"], changesWhenCasefolded⟩,
  ⟨["changeswhencasemapped", "cwcm"], changesWhenCasemapped⟩,
  ⟨["changeswhenlowercased", "cwl"], changesWhenLowercased⟩,
  ⟨["changeswhentitlecased", "cwt"], changesWhenTitlecased⟩,
  ⟨["changeswhenuppercased", "cwu"], changesWhenUppercased⟩, ⟨["dash"], dash⟩,
  ⟨["defaultignorablecodepoint", "di"], defaultIgnorableCodePoint⟩,
  ⟨["deprecated", "dep"], deprecated⟩, ⟨["diacritic", "dia"], diacritic⟩, ⟨["emoji"], emoji⟩,
  ⟨["emojicomponent", "ecomp"], emojiComponent⟩, ⟨["emojimodifier", "emod"], emojiModifier⟩,
  ⟨["emojimodifierbase", "ebase"], emojiModifierBase⟩,
  ⟨["emojipresentation", "epres"], emojiPresentation⟩,
  ⟨["extendedpictographic", "extpict"], extendedPictographic⟩, ⟨["extender", "ext"], extender⟩,
  ⟨["graphemebase", "grbase"], graphemeBase⟩, ⟨["graphemeextend", "grext"], graphemeExtend⟩,
  ⟨["graphemelink", "grlink"], graphemeLink⟩, ⟨["hexdigit", "hex"], hexDigit⟩,
  ⟨["hyphen"], hyphen⟩, ⟨["idsbinaryoperator", "idsb"], idsBinaryOperator⟩,
  ⟨["idstrinaryoperator", "idst"], idsTrinaryOperator⟩,
  ⟨["idsunaryoperator", "idsu"], idsUnaryOperator⟩,
  ⟨["idcompatmathcontinue"], idCompatMathContinue⟩, ⟨["idcompatmathstart"], idCompatMathStart⟩,
  ⟨["idcontinue", "idc"], idContinue⟩, ⟨["idstart", "ids"], idStart⟩,
  ⟨["ideographic", "ideo"], ideographic⟩, ⟨["joincontrol", "joinc"], joinControl⟩,
  ⟨["logicalorderexception", "loe"], logicalOrderException⟩, ⟨["lowercase", "lower"], lowercase⟩,
  ⟨["math"], math⟩, ⟨["modifiercombiningmark", "mcm"], modifierCombiningMark⟩,
  ⟨["noncharactercodepoint", "nchar"], noncharacterCodePoint⟩,
  ⟨["otheralphabetic", "oalpha"], otherAlphabetic⟩,
  ⟨["otherdefaultignorablecodepoint", "odi"], otherDefaultIgnorableCodePoint⟩,
  ⟨["othergraphemeextend", "ogrext"], otherGraphemeExtend⟩,
  ⟨["otheridcontinue", "oidc"], otherIdContinue⟩, ⟨["otheridstart", "oids"], otherIdStart⟩,
  ⟨["otherlowercase", "olower"], otherLowercase⟩, ⟨["othermath", "omath"], otherMath⟩,
  ⟨["otheruppercase", "oupper"], otherUppercase⟩, ⟨["patternsyntax", "patsyn"], patternSyntax⟩,
  ⟨["patternwhitespace", "patws"], patternWhiteSpace⟩,
  ⟨["prependedconcatenationmark", "pcm"], prependedConcatenationMark⟩,
  ⟨["quotationmark", "qmark"], quotationMark⟩, ⟨["radical"], radical⟩,
  ⟨["regionalindicator", "ri"], regionalIndicator⟩,
  ⟨["sentenceterminal", "sterm"], sentenceTerminal⟩, ⟨["softdotted", "sd"], softDotted⟩,
  ⟨["terminalpunctuation", "term"], terminalPunctuation⟩,
  ⟨["unifiedideograph", "uideo"], unifiedIdeograph⟩, ⟨["uppercase", "upper"], uppercase⟩,
  ⟨["variationselector", "vs"], variationSelector⟩,
  ⟨["whitespace", "space", "wspace"], whiteSpace⟩, ⟨["xidcontinue", "xidc"], xidContinue⟩,
  ⟨["xidstart", "xids"], xidStart⟩]

end Zettel.Text.Property
