import Zettel.Number
import Zettel.Text.Ranges

/-!
# Tokens of Json

Texts, words and marks. A text has no control characters, and its escapes stand for characters: half
of a surrogate pair stands only in front of the other half.
-/

namespace Zettel.Json

/-- A token. A word is a run of the characters that literals and numbers are made of. -/
inductive Token
  | mark (c : Char)
  | word (s : String)
  | text (s : String)
  deriving DecidableEq, Repr

/-- What the next character is read as. Texts and words are kept with the last character first. -/
inductive Mode
  | between
  | word (read : List Char)
  /-- In a text, perhaps after the first half of a surrogate pair. -/
  | text (read : List Char) (half : Option Nat)
  /-- After a backslash. -/
  | escape (read : List Char) (half : Option Nat)
  /-- Among the four hexadecimal digits of an escape, of which some were read. -/
  | code (read : List Char) (half : Option Nat) (value count : Nat)

/-- The tokens so far, the last one first, and how to go on. -/
structure Scan where
  tokens : List Token := []
  mode : Mode := .between

namespace Scan

/-- The marks between values. -/
def marks : List Char := ['[', ']', '{', '}', ':', ',']

/-- The characters that part tokens. -/
def blanks : List Char := [' ', '\n', '\r', '\t']

/-- The character `c` can be part of a literal or a number. -/
def isWordChar (c : Char) : Bool := c.isAlphanum || c = '+' || c = '-' || c = '.'

/-- The character that a backslash and `c` stand for. -/
def escaped? : Char → Option Char
  | '"' => some '"'
  | '\\' => some '\\'
  | '/' => some '/'
  | 'b' => some (Char.ofNat 8)
  | 'f' => some (Char.ofNat 12)
  | 'n' => some '\n'
  | 'r' => some '\r'
  | 't' => some '\t'
  | _ => none

/-- The mode after an escape with the code `n`. -/
def afterCode? (read : List Char) (half : Option Nat) (n : Nat) : Option Mode :=
  let isSecond : Bool := 0xDC00 ≤ n && n ≤ 0xDFFF
  match half with
  | some h =>
    if isSecond then
      some (.text (Char.ofNat (0x10000 + (h - 0xD800) * 0x400 + (n - 0xDC00)) :: read) none)
    else none
  | none =>
    if 0xD800 ≤ n && n ≤ 0xDBFF then some (.text read (some n))
    else if isSecond then none
    else some (.text (Char.ofNat n :: read) none)

/-- One character outside texts. -/
def pushOutside (s : Scan) (c : Char) : Option Scan :=
  if c = '"' then some { s with mode := .text [] none }
  else if isWordChar c then some { s with mode := .word [c] }
  else if marks.contains c then some ⟨.mark c :: s.tokens, .between⟩
  else if blanks.contains c then some { s with mode := .between }
  else none

/-- Adds the word that ends here. -/
def endWord (s : Scan) (read : List Char) : Scan :=
  ⟨.word (String.ofList read.reverse) :: s.tokens, .between⟩

/-- One character. -/
def push (s : Scan) (c : Char) : Option Scan :=
  match s.mode with
  | .between => s.pushOutside c
  | .word read =>
    if isWordChar c then some { s with mode := .word (c :: read) }
    else (s.endWord read).pushOutside c
  | .text read half =>
    if c = '\\' then some { s with mode := .escape read half }
    else if half.isSome || c.toNat < 0x20 then none
    else if c = '"' then some ⟨.text (String.ofList read.reverse) :: s.tokens, .between⟩
    else some { s with mode := .text (c :: read) none }
  | .escape read half =>
    if c = 'u' then some { s with mode := .code read half 0 0 }
    else if half.isSome then none
    else (escaped? c).map fun e => { s with mode := .text (e :: read) none }
  | .code read half value count =>
    match Text.Ranges.hexDigit? c with
    | none => none
    | some d =>
      let value := 16 * value + d
      if count < 3 then some { s with mode := .code read half value (count + 1) }
      else (afterCode? read half value).map fun mode => { s with mode := mode }

/-- The tokens, if the text ends here. -/
def finish (s : Scan) : Option (List Token) :=
  match s.mode with
  | .between => some s.tokens.reverse
  | .word read => some (s.endWord read).tokens.reverse
  | _ => none

end Scan

/-- The tokens of a text. -/
def tokens? (s : String) : Option (List Token) :=
  (s.toList.foldlM Scan.push {}).bind Scan.finish

end Zettel.Json
