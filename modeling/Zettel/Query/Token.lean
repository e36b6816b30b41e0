import Zettel.Query.Operator
import Zettel.Text.Blank
import Zettel.Text.Lowercase

/-!
# Tokens of a query

A query is a sequence of words to look for, followed by an expression that starts at the first `#`
or `~` at the beginning of a word. Quotes keep a text together, and a backslash takes the meaning
from the character after it. Every text has tokens: an open quote ends with the query.

Token texts are in small letters. Positions count characters, and both ends belong to the token.
-/

namespace Zettel.Query

/-- A word, an operator or a quoted text, with its place in the query. -/
structure Token where
  text : String
  inQuotes : Bool
  start : Nat
  finish : Nat
  deriving DecidableEq, Repr

/-- The part of the query, given as its characters, that the token was read from. -/
def Token.sourceIn (t : Token) (query : Array Char) : String :=
  String.ofList (query.extract t.start (t.finish + 1)).toList

/-- The part of the query that the token was read from. -/
def Token.source (t : Token) (query : String) : String := t.sourceIn query.toList.toArray

/-- The tokens of a query: the words to look for, and the expression. -/
structure Lexed where
  fulltext : List Token
  expression : List Token
  deriving DecidableEq, Repr

/-! ## Characters with a meaning -/

/-- The characters that open a quoted text. -/
def quoteChars : List Char := ['\'', '"', Char.ofNat 0x60]

/-- The characters that are tokens by themselves in an expression. -/
def structuralChars : List Char := ['(', ')', '.']

/-- The characters that begin an attribute's name. -/
def markerChars : List Char := ['#', '~']

/-! ## The word being read -/

/-- The state of reading: the word so far, and what it is part of. -/
structure Word where
  inExpression : Bool := false
  /-- The quote that the word stands in. -/
  quote : Option Char := none
  isOperator : Bool := false
  text : String := ""
  start : Nat := 0
  finish : Nat := 0

namespace Word

/-- Adds the character `c`, found at `i`, to the word; an unquoted word starts at `from_`. -/
def pushFrom (w : Word) (from_ : Nat) (c : Char) (i : Nat) : Word :=
  { w with
    text := w.text ++ String.ofList (Text.lowerChar c)
    start := if w.text.isEmpty && w.quote.isNone then from_ else w.start
    finish := i }

/-- Adds the character `c`, found at `i`, to the word. -/
def push (w : Word) (c : Char) (i : Nat) : Word := w.pushFrom i c i

/-- The token that ends here: an unquoted word, if it has any text. -/
def token? (w : Word) : List Token :=
  if w.text.isEmpty then [] else [⟨w.text, false, w.start, w.finish⟩]

/-- The token of a quoted text whose closing quote is at `i`. -/
def quotedToken (w : Word) (i : Nat) : Token := ⟨w.text, true, w.start, i - 1⟩

/-- Nothing, after the word has ended. -/
def cleared (w : Word) : Word := { w with text := "", isOperator := false, quote := none }

/-- Nothing, after an opening quote at `i`. -/
def opened (w : Word) (q : Char) (i : Nat) : Word :=
  { w.cleared with quote := some q, start := i + 1, finish := i }

/-- A quote may open here: between words or, in an expression, after an operator. -/
def atQuoteBoundary (w : Word) : Bool := w.text.isEmpty || (w.inExpression && w.isOperator)

/-- The word is a marker that an exclamation mark may negate. -/
def isMarker (w : Word) : Bool := w.text = "#" || w.text = "~"

end Word

/-! ## Reading -/

/-- A token that ends at a step, with the word that follows it. -/
structure Step where
  ended : List Token := []
  word : Word

namespace Step

/-- An ordinary character ends an operator and continues any other word; the word starts at
`from_`. -/
def plain (w : Word) (from_ : Nat) (c : Char) (i : Nat) : Step :=
  if w.isOperator then ⟨w.token?, w.cleared.pushFrom from_ c i⟩ else ⟨[], w.pushFrom from_ c i⟩

/-- A marker begins an expression if it stands at the beginning of a word; inside a word, before
any expression, it is an ordinary character. -/
def marker (w : Word) (c : Char) (i : Nat) : Step :=
  if w.inExpression then ⟨w.token?, w.cleared.push c i⟩
  else if w.text.isEmpty then ⟨[], { w with inExpression := true }.push c i⟩
  else ⟨[], w.push c i⟩

/-- An operator character continues an operator; after a bare marker, an exclamation mark belongs
to the marker. -/
def operator (w : Word) (c : Char) (i : Nat) : Step :=
  if c = '!' && w.isMarker then ⟨[], w.push c i⟩
  else if w.isOperator then ⟨[], w.push c i⟩
  else ⟨w.token?, { w.cleared with isOperator := true }.push c i⟩

/-- The step for the character `c` at `i` outside quotes. -/
def unquoted (w : Word) (c : Char) (i : Nat) : Step :=
  if quoteChars.contains c then
    if w.atQuoteBoundary then ⟨w.token?, w.opened c i⟩ else plain w i c i
  else if Text.isBlank c then ⟨w.token?, w.cleared⟩
  else if markerChars.contains c then marker w c i
  else if w.inExpression && structuralChars.contains c then
    ⟨w.token? ++ (w.cleared.push c i).token?, w.cleared⟩
  else if w.inExpression && isOperatorChar c then operator w c i
  else plain w i c i

/-- The step for the character `c` at `i`. -/
def next (w : Word) (c : Char) (i : Nat) : Step :=
  match w.quote with
  | some q => if c = q then ⟨[w.quotedToken i], w.cleared⟩ else ⟨[], w.push c i⟩
  | none => unquoted w c i

/-- The step for a backslash at `i` and the character `c` after it. -/
def escaped (w : Word) (c : Char) (i : Nat) : Step :=
  if w.quote.isSome then ⟨[], w.push c (i + 1)⟩ else plain w i c (i + 1)

/-- The step for a backslash at `i` that ends the query. -/
def trailingBackslash (w : Word) (i : Nat) : Step :=
  if w.quote.isSome then ⟨[], w.push '\\' i⟩ else plain w i '\\' i

end Step

namespace Lexed

/-- Puts tokens in front, into the part that is being read. -/
def prepend (inExpression : Bool) (ts : List Token) (l : Lexed) : Lexed :=
  if inExpression then { l with expression := ts ++ l.expression }
  else { l with fulltext := ts ++ l.fulltext }

/-- The tokens of what follows at position `i`, after the word `w`. -/
def scan (w : Word) (i : Nat) : List Char → Lexed
  | [] =>
    let last := if w.quote.isSome then [w.quotedToken i] else w.token?
    prepend w.inExpression last ⟨[], []⟩
  | ['\\'] =>
    let s := Step.trailingBackslash w i
    prepend w.inExpression s.ended (scan s.word (i + 1) [])
  | '\\' :: c :: rest =>
    let s := Step.escaped w c i
    prepend w.inExpression s.ended (scan s.word (i + 2) rest)
  | c :: rest =>
    let s := Step.next w c i
    prepend w.inExpression s.ended (scan s.word (i + 1) rest)

end Lexed

/-- The tokens of a query. -/
def lex (query : String) : Lexed := Lexed.scan {} 0 query.toList

end Zettel.Query
