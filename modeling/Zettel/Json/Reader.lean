import Zettel.Json.Basic
import Zettel.Json.Token

/-!
# Reading Json

A text is read token by token. The arrays and objects that are still open form a stack, of which the
height is limited.
-/

namespace Zettel.Json

/-! ## Numbers -/

/-- Splits off the digits of a whole number, which has no needless zero in front. -/
def splitWhole? (cs : List Char) : Option (List Char × List Char) :=
  let digits := cs.takeWhile Char.isDigit
  if digits = [] ∨ (digits.head? = some '0' ∧ digits ≠ ['0']) then none
  else some (digits, cs.dropWhile Char.isDigit)

/-- Splits off a fraction, if there is one. -/
def skipFraction? : List Char → Option (List Char)
  | '.' :: rest =>
    if rest.takeWhile Char.isDigit = [] then none else some (rest.dropWhile Char.isDigit)
  | rest => some rest

/-- The number written as `s`. One that is too large to be told from infinity is refused. -/
def number? (s : String) : Option Json := do
  let (negative, cs) := match s.toList with
    | '-' :: rest => (true, rest)
    | rest => (false, rest)
  let (whole, rest) ← splitWhole? cs
  let power ← skipFraction? rest
  let _ ← Decimal.exponent? power
  let _ ← Number.ofText? s
  if rest = [] ∧ ¬(negative ∧ whole = ['0']) then
    let n : Int := Decimal.natOfDigits whole
    return integer (if negative then -n else n)
  else return number s

/-- The value of a word: a literal or a number. -/
def word? : String → Option Json
  | "null" => some null
  | "true" => some (bool true)
  | "false" => some (bool false)
  | s => number? s

/-! ## Open arrays and objects -/

/-- An array or object that is still open, with what it holds so far, the last one first. -/
inductive Frame
  | array (items : List Json)
  /-- An object, and the name of the field that is being read. -/
  | object (fields : List (String × Json)) (name : String)

/-- The value of an array or object that ends here. -/
def Frame.close : Frame → Json
  | array items => .array items.reverse
  | object fields _ => .object fields.reverse

/-- What may come next. -/
inductive Expected
  | value
  /-- A value, or the end of the array. -/
  | valueOrEnd
  | name
  /-- The name of a field, or the end of the object. -/
  | nameOrEnd
  | colon
  /-- A comma, or the end of the array or object. -/
  | more
  /-- Nothing, after the outermost value. -/
  | nothing (v : Json)

/-- The frames that are open, the innermost first, and what may come next. -/
structure Reader where
  frames : List Frame := []
  expected : Expected := .value

namespace Reader

/-- Arrays and objects may be nested this deep. -/
def maxDepth : Nat := 127

/-- Puts a value into the innermost of some frames. -/
def put (v : Json) : List Frame → Reader
  | [] => ⟨[], .nothing v⟩
  | .array items :: frames => ⟨.array (v :: items) :: frames, .more⟩
  | .object fields name :: frames => ⟨.object ((name, v) :: fields) "" :: frames, .more⟩

/-- Opens an array or object. -/
def begin? (r : Reader) (f : Frame) (expected : Expected) : Option Reader :=
  if r.frames.length < maxDepth then some ⟨f :: r.frames, expected⟩ else none

/-- The innermost frame ends. -/
def end? (r : Reader) : Option Reader :=
  match r.frames with
  | [] => none
  | f :: frames => some (put f.close frames)

/-- A token where a value is expected. -/
def pushValue (r : Reader) : Token → Option Reader
  | .text s => some (put (text s) r.frames)
  | .word s => (word? s).map (put · r.frames)
  | .mark '[' => r.begin? (.array []) .valueOrEnd
  | .mark '{' => r.begin? (.object [] "") .nameOrEnd
  | .mark _ => none

/-- A token where the name of a field is expected. -/
def pushName (r : Reader) (t : Token) : Option Reader :=
  match t, r.frames with
  | .text s, .object fields _ :: frames => some ⟨.object fields s :: frames, .colon⟩
  | _, _ => none

/-- A token after a value in an array or object. -/
def pushMore (r : Reader) (t : Token) : Option Reader :=
  match t, r.frames with
  | .mark ',', .array _ :: _ => some { r with expected := .value }
  | .mark ',', .object .. :: _ => some { r with expected := .name }
  | .mark ']', .array _ :: _ => r.end?
  | .mark '}', .object .. :: _ => r.end?
  | _, _ => none

/-- One token. -/
def push (r : Reader) (t : Token) : Option Reader :=
  match r.expected with
  | .value => r.pushValue t
  | .valueOrEnd => if t = .mark ']' then r.end? else r.pushValue t
  | .name => r.pushName t
  | .nameOrEnd => if t = .mark '}' then r.end? else r.pushName t
  | .colon => if t = .mark ':' then some { r with expected := .value } else none
  | .more => r.pushMore t
  | .nothing _ => none

/-- The value, if the text ends here. -/
def finish (r : Reader) : Option Json :=
  match r.expected with
  | .nothing v => some v
  | _ => none

end Reader

/-- The value of a text. -/
def ofText? (s : String) : Option Json := do
  let tokens ← tokens? s
  let reader ← tokens.foldlM Reader.push {}
  reader.finish

/-- Minus zero is no integer, and a pair of surrogates is one character. -/
example : ((ofText? "[-0, 10]").bind array?).map (·.map integer?) = some [none, some 10] ∧
    (ofText? "\"\\uD83D\\ude00\"").bind text? = some "😀" := by
  decide +kernel

end Zettel.Json
