import Zettel.Proofs.Query.Lexing
import Zettel.Query.Read

/-!
# Written queries

The conditions that can be written without marked names: paths from a note, and sentences that join
or negate them. Names and values stand in quotes, operands in parentheses. `text` writes a
condition, `lexemes` are the texts of its tokens, and `expression` is what it asks for.

Main statements: `PathForm.lexes` and `Sentence.lexes`, what is written is read as these tokens.
-/

namespace Zettel.Query

/-! ## Paths -/

/-- An operator and a value that can be compared with: if the operator takes a pattern, it is
one. -/
structure Comparison where
  operator : Operator
  value : SmallText
  comparator : Comparator
  built : Comparator.new operator value.1 = .ok comparator

namespace Comparison

def text (c : Comparison) : List Char := c.operator.text.toList ++ [' '] ++ quote c.value.1

def lexemes (c : Comparison) : List (String × Bool) := [(c.operator.text, false), (c.value.1, true)]

end Comparison

/-- The word in a path for the attributes of a kind. -/
def attributesWord : AttributeKind → String
  | .label => "labels"
  | .relation => "relations"

/-- The attributes with a name, as they are written. -/
def attributesText (kind : AttributeKind) (name : SmallText) : List Char :=
  (attributesWord kind).toList ++ ['.'] ++ quote name.1

def attributesLexemes (kind : AttributeKind) (name : SmallText) : List (String × Bool) :=
  [(attributesWord kind, false), (".", false)] ++ [(name.1, true)]

/-- The word in a path for relatives. -/
def Relative.word : Relative → String
  | parent => "parents"
  | child => "children"
  | ancestor => "ancestors"

/-- A path from a note to what is asked of it. -/
inductive PathForm
  /-- There is an attribute with the name, and perhaps its value passes the comparison. -/
  | named (kind : AttributeKind) (name : SmallText) (comparison : Option Comparison)
  /-- The target of a relation is asked further. -/
  | target (name : SmallText) (further : PathForm)
  /-- Relatives are asked further. -/
  | relatives (r : Relative) (further : PathForm)
  | property (p : Property) (comparison : Comparison)
  | content (comparison : Comparison)

namespace PathForm

/-- What the path asks for. -/
def expression : PathForm → Expression
  | named kind name none => .attributeExists kind name.1 false
  | named kind name (some c) => .attributeCompare kind name.1 c.comparator
  | target name further => .relationWhere name.1 further.expression
  | relatives r further => r.satisfies further.expression
  | property p c => .propertyComparison p c.comparator
  | content c => contentCondition c.comparator

def text : PathForm → List Char
  | named kind name none => attributesText kind name
  | named kind name (some c) => attributesText kind name ++ [' '] ++ c.text
  | target name further => attributesText .relation name ++ ['.'] ++ further.text
  | relatives r further => r.word.toList ++ ['.'] ++ further.text
  | property p c => p.name.toList ++ [' '] ++ c.text
  | content c => "content".toList ++ [' '] ++ c.text

def lexemes : PathForm → List (String × Bool)
  | named kind name none => attributesLexemes kind name
  | named kind name (some c) => attributesLexemes kind name ++ c.lexemes
  | target name further => attributesLexemes .relation name ++ [(".", false)] ++ further.lexemes
  | relatives r further => [(r.word, false), (".", false)] ++ further.lexemes
  | property p c => [(p.name, false)] ++ c.lexemes
  | content c => [("content", false)] ++ c.lexemes

end PathForm

/-! ## Sentences -/

/-- What stands between operands. -/
inductive Connective
  | and
  | or
  deriving DecidableEq, Repr

namespace Connective

def join : Connective → List Expression → Expression
  | and => .allOf
  | or => .anyOf

def text : Connective → List Char
  | and => [' ']
  | or => [' '] ++ ("or".toList ++ [' '])

def lexemes : Connective → List (String × Bool)
  | and => []
  | or => [("or", false)]

end Connective

/-- A condition that is written with paths: at least two operands are joined. -/
inductive Sentence
  | note (path : PathForm)
  | joined (c : Connective) (first second : Sentence) (others : List Sentence)
  | not (operand : Sentence)

namespace Sentence

mutual

/-- What the sentence asks for. -/
def expression : Sentence → Expression
  | note path => path.expression
  | joined c first second others =>
    c.join (first.expression :: second.expression :: expressions others)
  | not operand => .not operand.expression

/-- What several sentences ask for. -/
def expressions : List Sentence → List Expression
  | [] => []
  | s :: ss => s.expression :: expressions ss

end

mutual

def text : Sentence → List Char
  | note path => "note".toList ++ ['.'] ++ path.text
  | joined c first second others =>
    (['('] ++ first.text ++ [')']) ++ (c.text ++ (['('] ++ second.text ++ [')'])) ++
      textOfOthers c others
  | not operand => "not".toList ++ ['('] ++ operand.text ++ [')']

/-- The text of further operands. -/
def textOfOthers (c : Connective) : List Sentence → List Char
  | [] => []
  | s :: ss => (c.text ++ (['('] ++ s.text ++ [')'])) ++ textOfOthers c ss

end

mutual

def lexemes : Sentence → List (String × Bool)
  | note path => [("note", false), (".", false)] ++ path.lexemes
  | joined c first second others =>
    ([("(", false)] ++ first.lexemes ++ [(")", false)]) ++
      (c.lexemes ++ ([("(", false)] ++ second.lexemes ++ [(")", false)])) ++
        lexemesOfOthers c others
  | not operand => [("not", false), ("(", false)] ++ operand.lexemes ++ [(")", false)]

/-- The lexemes of further operands. -/
def lexemesOfOthers (c : Connective) : List Sentence → List (String × Bool)
  | [] => []
  | s :: ss =>
    (c.lexemes ++ ([("(", false)] ++ s.lexemes ++ [(")", false)])) ++ lexemesOfOthers c ss

end

end Sentence

/-! ## Reading what is written -/

/-- A quoted text is one token, and what it says is the text. -/
theorem SmallText.lexes {b : Bool} (s : SmallText) : Lexes b (quote s.1) [(s.1, true)] := by
  have h := lexes_quote (b := b) s.1
  rwa [smallLetters_eq_self s.2] at h

/-- An operator and a quoted value are two tokens. -/
theorem Comparison.lexes (c : Comparison) : Lexes true c.text c.lexemes :=
  (lexes_operator (isOperatorText_text c.operator)).append c.value.lexes

theorem isWordText_attributesWord (kind : AttributeKind) :
    isWordText (attributesWord kind) = true := by
  cases kind <;> decide +kernel

theorem Relative.isWordText_word (r : Relative) : isWordText r.word = true := by
  cases r <;> decide +kernel

theorem Property.isWordText_name (p : Property) : isWordText p.name = true := by
  cases p <;> decide +kernel

/-- A condition on attributes begins with its word, and the name follows. -/
theorem lexes_attributes (kind : AttributeKind) (name : SmallText) :
    Lexes true (attributesText kind name) (attributesLexemes kind name) :=
  (lexes_word_structural (isWordText_attributesWord kind) (by decide)).append name.lexes

namespace PathForm

theorem lexes (p : PathForm) : Lexes true p.text p.lexemes := by
  induction p with
  | named kind name comparison =>
    cases comparison with
    | none => exact lexes_attributes kind name
    | some c =>
      have h := ((lexes_attributes kind name).append lexes_blank).append c.lexes
      rwa [List.append_nil] at h
  | target name further ih =>
    exact ((lexes_attributes .relation name).append (lexes_structural (by decide))).append ih
  | relatives r further ih =>
    exact (lexes_word_structural r.isWordText_word (by decide)).append ih
  | property p c => exact (lexes_word p.isWordText_name).append c.lexes
  | content c => exact (lexes_word (by decide +kernel)).append c.lexes

end PathForm

theorem Connective.lexes (c : Connective) : Lexes true c.text c.lexemes := by
  cases c with
  | and => exact lexes_blank
  | or => exact lexes_blank.append (lexes_word (by decide +kernel))

/-- Parentheses around a part. -/
theorem Lexes.grouped {cs : List Char} {ls : List (String × Bool)} (h : Lexes true cs ls) :
    Lexes true (['('] ++ cs ++ [')']) ([("(", false)] ++ ls ++ [(")", false)]) :=
  ((lexes_structural (by decide)).append h).append (lexes_structural (by decide))

namespace Sentence

mutual

theorem lexes : ∀ s : Sentence, Lexes true s.text s.lexemes
  | note path =>
    (lexes_word_structural (by decide +kernel) (by decide)).append path.lexes
  | joined c first second others =>
    (first.lexes.grouped.append (c.lexes.append second.lexes.grouped)).append
      (lexes_others c others)
  | not operand =>
    ((lexes_word_structural (by decide +kernel) (by decide)).append
      operand.lexes).append (lexes_structural (by decide))

/-- Further operands stand in parentheses, each behind the connective. -/
theorem lexes_others (c : Connective) : ∀ ss : List Sentence,
    Lexes true (textOfOthers c ss) (lexemesOfOthers c ss)
  | [] => .nil
  | s :: ss => (c.lexes.append s.lexes.grouped).append (lexes_others c ss)

end

end Sentence

end Zettel.Query
