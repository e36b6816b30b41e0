import Zettel.Pattern.Basic

/-!
# Simplified patterns

Before a pattern is made into an automaton it is simplified: rows of characters become one text, a
choice between characters becomes a class, and what all alternatives begin with is written once. The
sequences and choices of a shape lean to the right, and no part of a sequence is a sequence.

Main statements: `append_empty`, and `isZeroWidth_repeated`, a repetition of what takes no
characters takes none.
-/

namespace Zettel.Pattern

open Zettel.Text

/-- A simplified pattern. -/
inductive Shape
  | empty
  /-- The characters of a text, one after the other. -/
  | text (cs : List Char)
  | one (c : CharClass)
  | place (p : Place)
  | seq (s t : Shape)
  | alt (s t : Shape)
  | times (s : Shape) (least : Nat) (most : Option Nat) (greedy : Bool)
  | group (number : Nat) (s : Shape)
  deriving DecidableEq

namespace Shape

/-! ## Widths -/

/-- What fits the shape has no characters. -/
def isZeroWidth : Shape → Bool
  | empty => true
  | text _ => false
  | one _ => false
  | place _ => true
  | seq s t => s.isZeroWidth && t.isZeroWidth
  | alt s t => s.isZeroWidth && t.isZeroWidth
  | times s _ _ _ => s.isZeroWidth
  | group _ s => s.isZeroWidth

/-- What fits the shape has a character at least; `none` where a class without characters is part of
the shape, so that there is no least length. -/
def takesChars? : Shape → Option Bool
  | empty => some false
  | text _ => some true
  | one c => if c.ranges.isEmpty then none else some true
  | place _ => some false
  | seq s t => s.takesChars?.bind fun a => t.takesChars?.map fun b => a || b
  | alt s t => s.takesChars?.bind fun a => t.takesChars?.map fun b => a && b
  | times s least _ _ => s.takesChars?.map fun a => a && 0 < least
  | group _ s => s.takesChars?

/-- What fits the shape begins at the place `p`. -/
def beginsAt (p : Place) : Shape → Bool
  | place q => p = q
  | seq s t => s.beginsAt p || (s.isZeroWidth && t.beginsAt p)
  | alt s t => s.beginsAt p && t.beginsAt p
  | times s least _ _ => 0 < least && s.beginsAt p
  | group _ s => s.beginsAt p
  | _ => false

/-! ## Classes -/

/-- The shape that nothing fits. -/
def nothing : Shape := one ⟨[], true⟩

/-- The shape of a class. -/
def ofClass (c : CharClass) : Shape :=
  match c.ranges with
  | [] => nothing
  | [(a, b)] => if a = b then text [Char.ofNat a] else one c
  | _ => one c

/-! ## Sequences -/

/-- A part that is no sequence, before a shape. -/
def cons : Shape → Shape → Shape
  | text cs, text ds => text (cs ++ ds)
  | text cs, seq (text ds) t => seq (text (cs ++ ds)) t
  | s, empty => s
  | s, t => seq s t

/-- One shape after the other. -/
def append : Shape → Shape → Shape
  | empty, t => t
  | seq s r, t => cons s (append r t)
  | s, t => cons s t

/-- Several shapes, one after the other. -/
def concat (ss : List Shape) : Shape := ss.foldr append empty

/-- The parts of a sequence. -/
def parts : Shape → List Shape
  | empty => []
  | seq s t => s :: parts t
  | s => [s]

theorem append_empty (s : Shape) : append empty s = s := rfl

/-! ## Choices -/

/-- The alternatives of a choice. -/
def alternatives : Shape → List Shape
  | alt s t => s :: alternatives t
  | s => [s]

/-- The choice between alternatives. -/
def choice : List Shape → Shape
  | [] => nothing
  | [s] => s
  | s :: ss => alt s (choice ss)

/-- The class that the alternatives make up, if each of them is a single character. -/
def charsClass? (ss : List Shape) : Option Shape :=
  let chars := ss.mapM fun s => match s with
    | text [c] => some (c.toNat, c.toNat)
    | _ => none
  chars.map fun rs => ofClass ⟨Ranges.sorted rs, false⟩

/-- The class that the alternatives make up, if each of them is a class. -/
def unionClass? (ss : List Shape) : Option Shape :=
  let classes := ss.mapM fun s => match s with
    | one c => some c.ranges
    | _ => none
  classes.map fun rss => ofClass ⟨rss.foldl Ranges.union [], false⟩

/-- The parts at the beginning that two sequences share. -/
def sharedParts : List Shape → List Shape → List Shape
  | s :: ss, t :: ts => if s = t then s :: sharedParts ss ts else []
  | _, _ => []

/-- The parts at the beginning that all sequences share; there are none if one alternative is no
sequence. -/
def sharedByAll (ss : List Shape) : List Shape :=
  if ss.all fun s => s matches seq _ _ then
    match ss.map parts with
    | [] => []
    | first :: rest => rest.foldl sharedParts first
  else []

/-- The choice between alternatives without a part at the beginning that they share. -/
def simpleChoice (ss : List Shape) : Shape :=
  match ss.flatMap alternatives with
  | [] => nothing
  | [s] => s
  | ss => (charsClass? ss <|> unionClass? ss).getD (choice ss)

/-- The choice between alternatives, simplified. -/
def ofAlternatives (ss : List Shape) : Shape :=
  let ss := ss.flatMap alternatives
  match if ss.length ≤ 1 then [] else sharedByAll ss with
  | [] => simpleChoice ss
  | shared =>
    let rests := ss.map fun s => concat (s.parts.drop shared.length)
    concat (shared ++ [simpleChoice rests])

/-! ## Repetitions -/

/-- A repetition, simplified: what takes no characters is not repeated. -/
def repeated (s : Shape) (least : Nat) (most : Option Nat) (greedy : Bool) : Shape :=
  let bounds :=
    if s.isZeroWidth then (min least 1, some (min (most.getD 1) 1)) else (least, most)
  if bounds = (0, some 0) then empty
  else if bounds = (1, some 1) then s
  else times s bounds.1 bounds.2 greedy

/-- A repetition of what takes no characters takes none. -/
theorem isZeroWidth_repeated {s : Shape} (h : s.isZeroWidth = true) (least : Nat)
    (most : Option Nat) (greedy : Bool) : (s.repeated least most greedy).isZeroWidth = true := by
  rw [repeated, if_pos h]
  dsimp only
  split
  · rfl
  · split
    · exact h
    · exact h

/-! ## Patterns -/

/-- The alternatives of a pattern, simplified. -/
def alternativesOf : Pattern → List Shape
  | .empty => [empty]
  | .one c => [ofClass c]
  | .place p => [place p]
  | .seq p q => [append (ofAlternatives (alternativesOf p)) (ofAlternatives (alternativesOf q))]
  | .alt p q => ofAlternatives (alternativesOf p) :: alternativesOf q
  | .times p least most greedy => [(ofAlternatives (alternativesOf p)).repeated least most greedy]
  | .group (some number) p => [group number (ofAlternatives (alternativesOf p))]
  | .group none p => [ofAlternatives (alternativesOf p)]

/-- The pattern, simplified. -/
def ofPattern (p : Pattern) : Shape := ofAlternatives (alternativesOf p)

/-! ## Backwards -/

/-- The parts of the shape in opposite order, with `rest` behind them. -/
def reverseBefore (rest : Option Shape) : Shape → Shape
  | seq s t => reverseBefore (some (before (reverseBefore none s) rest)) t
  | alt s t => before (alt (reverseBefore none s) (reverseBefore none t)) rest
  | times s least most greedy => before (times (reverseBefore none s) least most greedy) rest
  | group number s => before (group number (reverseBefore none s)) rest
  | s => before s rest
where
  /-- A part before the rest, if there is one. -/
  before (s : Shape) : Option Shape → Shape
    | none => s
    | some rest => seq s rest

/-- The shape with the parts of every sequence in opposite order. -/
def reverse (s : Shape) : Shape := reverseBefore none s

end Shape

end Zettel.Pattern
