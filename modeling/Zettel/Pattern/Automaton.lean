import Std.Data.HashMap
import Zettel.Pattern.Shape
import Zettel.Text.Utf8

/-!
# Sizes of automata

A pattern is accepted only if its automata are not too large. There are two of them: one reads a
text forwards, byte by byte, and also notes where groups begin and end; the other reads it
backwards. Only their sizes are worked out here, state by state and in the order in which the states
are made, because a class is made of states that it shares as far as a table of recent states
remembers them.

Main statement: `add_bytes_le`, no tally is larger than what is accepted.
-/

namespace Zettel.Pattern.Automaton

open Zettel.Text

/-! ## Tallies -/

/-- The largest number of bytes that an automaton may take, 10 * 2^20. -/
def limit : Nat := 10485760

/-- The states so far, and the bytes that they take. -/
structure Tally where
  states : Nat := 0
  bytes : Nat := 0
  deriving DecidableEq, Repr

namespace Tally

/-- Adds states, each of 32 bytes, with bytes beyond these. -/
def add (t : Tally) (states extra : Nat) : Option Tally :=
  let bytes := t.bytes + 32 * states + extra
  if bytes ≤ limit then some ⟨t.states + states, bytes⟩ else none

/-- No tally is larger than what is accepted. -/
theorem add_bytes_le {t u : Tally} {states extra : Nat} (h : t.add states extra = some u) :
    u.bytes ≤ limit := by
  simp only [add] at h
  split at h
  · next hle => cases h; exact hle
  · cases h

end Tally

/-- A part of an automaton. Another part is put behind it at its last state; if that is a fork, it
gains a branch. -/
structure Part where
  tally : Tally
  endsInFork : Bool := false

namespace Part

/-- Makes a way from the end of the part. A branch takes 4 bytes. -/
def leave (p : Part) : Option Tally := if p.endsInFork then p.tally.add 0 4 else some p.tally

end Part

/-! ## Classes read forwards -/

/-- The ways out of a state that reads a byte: a range of bytes and the next state. -/
abbrev Ways := List (UInt8 × UInt8 × Nat)

/-- One step of a hash. -/
def mix (h n : UInt64) : UInt64 := (h ^^^ n) * 1099511628211

/-- The beginning of a hash. -/
def hashStart : UInt64 := 14695981039346656037

/-- The place of a state in a table of 10000 recent states. -/
def waysSlot (ways : Ways) : Nat :=
  let h := ways.foldl
    (fun h w => mix (mix (mix h w.1.toUInt64) w.2.1.toUInt64) (.ofNat w.2.2)) hashStart
  (h % 10000).toNat

/-- A state that is not finished: its ways so far, and the last range, without a next state yet. -/
structure OpenState where
  ways : Ways := []
  last : Option (UInt8 × UInt8) := none

/-- A class that is being made into states. -/
structure ClassBuild where
  tally : Tally
  recent : Std.HashMap Nat (Ways × Nat) := {}
  /-- The open states, the deepest first. -/
  opened : List OpenState := [{}]

namespace ClassBuild

/-- The state with the given ways, a recent one if there is one. -/
def state (b : ClassBuild) (ways : Ways) : Option (ClassBuild × Nat) :=
  let slot := waysSlot ways
  match b.recent[slot]? with
  | some (old, number) => if old = ways then some (b, number) else make slot
  | none => make slot
where
  /-- Makes a new state. -/
  make (slot : Nat) : Option (ClassBuild × Nat) :=
    (b.tally.add 1 (8 * ways.length)).map fun tally =>
      ({ b with tally := tally, recent := b.recent.insert slot (ways, b.tally.states) },
        b.tally.states)

/-- The ways of an open state, of which the last one leads to the state `next`. -/
def settled (s : OpenState) (next : Nat) : Ways :=
  match s.last with
  | some (first, last) => s.ways ++ [(first, last, next)]
  | none => s.ways

/-- Finishes the deepest `count` of the open states `opened`, and the last way of the next one. -/
def finish (b : ClassBuild) (count next : Nat) (opened : List OpenState) : Option ClassBuild :=
  match count, opened with
  | count + 1, s :: opened =>
    match b.state (settled s next) with
    | some (b, number) => b.finish count number opened
    | none => none
  | _, s :: opened => some { b with opened := { ways := settled s next } :: opened }
  | _, [] => some { b with opened := [] }

/-- How many ranges the open states, the first one first, share with a sequence. -/
def sharedLength : List OpenState → Utf8.ByteRanges → Nat
  | s :: opened, r :: ranges => if s.last = some r then sharedLength opened ranges + 1 else 0
  | _, _ => 0

/-- Adds a sequence of ranges, after which the state `goal` is reached. -/
def add (goal : Nat) (b : ClassBuild) (ranges : Utf8.ByteRanges) : Option ClassBuild := do
  let shared := sharedLength b.opened.reverse ranges
  let b ← b.finish (b.opened.length - 1 - shared) goal b.opened
  match b.opened, ranges.drop shared with
  | s :: opened, r :: rest =>
    let deeper : List OpenState := rest.map fun r => { last := some r }
    return { b with opened := deeper.reverse ++ { s with last := some r } :: opened }
  | _, _ => return b

end ClassBuild

/-- Makes a class of more than ASCII, read forwards. -/
def wideClass (rs : Ranges) (t : Tally) : Option Tally := do
  let goal := t.states
  let b : ClassBuild := { tally := ← t.add 1 0 }
  let b ← (rs.flatMap Utf8.byteRanges).foldlM (ClassBuild.add goal) b
  let b ← b.finish (b.opened.length - 1) goal b.opened
  match b.opened with
  | s :: _ => return (← b.state s.ways).1.tally
  | [] => return b.tally

/-! ## Classes read backwards -/

/-- The place of a state in a table of 1000 recent states. -/
def suffixSlot (next : Nat) (r : UInt8 × UInt8) : Nat :=
  (mix (mix (mix hashStart (.ofNat next)) r.1.toUInt64) r.2.toUInt64 % 1000).toNat

/-- A class that is being made into states that are read backwards. -/
structure BackwardBuild where
  tally : Tally
  recent : Std.HashMap Nat ((Nat × UInt8 × UInt8) × Nat) := {}

namespace BackwardBuild

/-- Adds a sequence of ranges before the state `next`. -/
def add (b : BackwardBuild) (next : Nat) : Utf8.ByteRanges → Option BackwardBuild
  | [] => (b.tally.add 0 4).map fun tally => { b with tally := tally }
  | r :: ranges =>
    let slot := suffixSlot next r
    let known := (b.recent[slot]?).filter (·.1 = (next, r))
    match known with
    | some (_, number) => b.add number ranges
    | none =>
      match b.tally.add 1 0 with
      | none => none
      | some tally =>
        let number := b.tally.states
        { b with tally := tally, recent := b.recent.insert slot ((next, r), number) }.add
          number ranges

end BackwardBuild

/-- Makes a class of more than ASCII, read backwards. -/
def wideClassBackwards (rs : Ranges) (t : Tally) : Option Tally := do
  let b : BackwardBuild := { tally := ← t.add 2 0 }
  let goal := t.states + 1
  return (← (rs.flatMap Utf8.byteRanges).foldlM (fun b ranges => b.add goal ranges) b).tally

/-- Makes a class. -/
def oneOf (backwards : Bool) (rs : Ranges) (t : Tally) : Option Tally :=
  if isAscii rs then t.add 2 (8 * rs.length)
  else if backwards then wideClassBackwards rs t
  else wideClass rs t

/-! ## Texts and choices between texts -/

/-- The bytes of a text, in the order in which they are read. -/
def bytesOf (backwards : Bool) (cs : List Char) : List UInt8 :=
  let bytes := cs.flatMap String.utf8EncodeChar
  if backwards then bytes.reverse else bytes

/-- The texts that go on, cut wherever a text ends here. -/
def stretches : List (List UInt8) → List (List (List UInt8))
  | [] => [[]]
  | [] :: texts => [] :: stretches texts
  | text :: texts =>
    match stretches texts with
    | stretch :: more => (text :: stretch) :: more
    | [] => [[text]]

/-- The texts without those at the beginning that end here, but for one. -/
def withoutRepeats : List (List UInt8) → List (List UInt8)
  | [] :: texts => [] :: texts.dropWhile List.isEmpty
  | texts => texts

/-- The size of the tree of texts that stand for alternatives, of which the first to fit counts: the
number of states and the bytes beyond theirs. No text is longer than `depth`. -/
def textTree : Nat → List (List UInt8) → Nat × Nat
  | 0, _ => (0, 0)
  | depth + 1, texts =>
    if texts.all List.isEmpty then (0, 0)
    else
      let groups := (stretches (withoutRepeats texts)).map fun stretch =>
        (stretch.filterMap List.head?).eraseDups.map fun byte =>
          (stretch.filter (·.head? = some byte)).map (List.drop 1)
      let own := groups.map fun branches => match branches with
        | [] => (0, 0)
        | [_] => (1, 4)
        | branches => (1, 4 + 8 * branches.length)
      let below := groups.flatten.map (textTree depth)
      let sizes := own ++ below
      (1 + (sizes.map Prod.fst).sum, 4 * (groups.length - 1) + (sizes.map Prod.snd).sum)

/-- Makes the choice between texts. -/
def textChoice (backwards : Bool) (texts : List (List Char)) (t : Tally) : Option Tally :=
  let texts := texts.map (bytesOf backwards)
  let (states, extra) := textTree ((texts.map List.length).foldl max 0) texts
  t.add (states + 1) extra

/-! ## Shapes -/

/-- A way to make a part. -/
abbrev Maker := Tally → Option Part

/-- Makes a part `n` times in a row, after `p`. -/
def again (make : Maker) : Nat → Part → Option Part
  | 0, p => some p
  | n + 1, p =>
    match p.leave with
    | none => none
    | some t =>
      match make t with
      | none => none
      | some p => again make n p

/-- Makes a part `n` times in a row. -/
def exactly (make : Maker) (n : Nat) : Maker := fun t =>
  match n with
  | 0 => (t.add 1 0).map fun t => { tally := t }
  | n + 1 => (make t).bind (again make n)

/-- Makes a part at most `n` times in a row, after `p`; each may be passed over. -/
def optionally (make : Maker) : Nat → Part → Option Part
  | 0, p => some p
  | n + 1, p =>
    match p.tally.add 1 (if p.endsInFork then 12 else 8) with
    | none => none
    | some t =>
      match make t with
      | none => none
      | some p => optionally make n p

/-- Makes a part any number of times in a row. -/
def anyTimes (make : Maker) (takesChars : Bool) : Maker := fun t => do
  if takesChars then
    let p ← make (← t.add 1 4)
    return { tally := ← p.leave, endsInFork := true }
  else
    let p ← make t
    return { tally := ← (← p.leave).add 3 16 }

/-- Makes a part `least` times at least. -/
def atLeast (make : Maker) (takesChars : Bool) (least : Nat) : Maker := fun t => do
  match least with
  | 0 => anyTimes make takesChars t
  | 1 =>
    let p ← make t
    return { tally := ← (← p.leave).add 1 4, endsInFork := true }
  | n + 2 =>
    let p ← again make 1 (← exactly make (n + 1) t)
    return { tally := ← (← p.leave).add 1 4, endsInFork := true }

/-- Makes a part from `least` to `most` times. -/
def between (make : Maker) (least most : Nat) : Maker := fun t => do
  if least = 0 ∧ most = 1 then
    let p ← make (← t.add 1 8)
    return { tally := ← (← p.leave).add 1 0 }
  else
    let p ← exactly make least t
    if least = most then return p
    else
      let p ← optionally make (most - least) { p with tally := ← p.tally.add 1 0 }
      return { tally := ← p.leave }

/-- The texts of alternatives, if each of them is a text. -/
def textsOf? (s : Shape) : Option (List (List Char)) :=
  s.alternatives.mapM fun s => match s with
    | .text cs => some cs
    | _ => none

/-- Takes a part as a branch of a choice, with `before` branches before it. The fork and the end of
the choice are made with the second branch. -/
def branch (before : Nat) (p : Part) : Option Part := do
  return { tally := ← (← p.leave).add (if before = 1 then 2 else 0) 4 }

/-- Takes a part as a branch, if there are branches before it. -/
def laterBranch (before : Nat) (p : Part) : Option Part :=
  if before = 0 then some p else branch before p

/-- Makes a shape, which may be the rest of a choice with `before` branches before it. -/
def make (backwards : Bool) : Shape → Nat → Maker
  | .empty, before, t => (t.add 1 0).bind fun t => laterBranch before { tally := t }
  | .text cs, before, t =>
    (t.add (bytesOf backwards cs).length 0).bind fun t => laterBranch before { tally := t }
  | .one c, before, t =>
    (oneOf backwards c.ranges t).bind fun t => laterBranch before { tally := t }
  | .place _, before, t => (t.add 1 0).bind fun t => laterBranch before { tally := t }
  | .seq s r, before, t =>
    match make backwards s 0 t with
    | none => none
    | some p =>
      match p.leave with
      | none => none
      | some t =>
        if r matches .seq _ _ then make backwards r before t
        else (make backwards r 0 t).bind (laterBranch before)
  | .alt s r, before, t =>
    match if before = 0 then textsOf? (.alt s r) else none with
    | some texts => (textChoice backwards texts t).map fun t => { tally := t }
    | none =>
      match (make backwards s 0 t).bind (branch before) with
      | none => none
      | some p => make backwards r (before + 1) p.tally
  | .times s least (some most) _, before, t =>
    (between (make backwards s 0) least most t).bind (laterBranch before)
  | .times s least none _, before, t =>
    (atLeast (make backwards s 0) (s.takesChars? = some true) least t).bind (laterBranch before)
  | .group _ s, before, t =>
    if backwards then (make backwards s 0 t).bind (laterBranch before)
    else do
      let p ← make backwards s 0 (← t.add 1 0)
      laterBranch before { tally := ← (← p.leave).add 1 0 }

/-! ## Whole automata -/

/-- Makes what comes before a pattern. Unless the pattern fits at the place `edge` alone, where
reading begins, bytes before it are passed over. -/
def lead (edge : Place) (s : Shape) : Option Tally :=
  if s.beginsAt edge then Tally.add {} 1 0 else Tally.add {} 3 16

/-- The automaton that reads forwards is not too large. -/
def forwardFits (s : Shape) : Bool := Option.isSome do
  let p ← make false s 0 (← (← lead .textStart s).add 1 0)
  (← p.leave).add 2 0

/-- The automaton that reads backwards is not too large. -/
def backwardFits (s : Shape) : Bool := Option.isSome do
  let p ← make true s.reverse 0 (← lead .textEnd s.reverse)
  (← p.leave).add 1 0

/-- Neither automaton of the pattern is too large. -/
def fits (p : Pattern) : Bool :=
  let s := Shape.ofPattern p
  forwardFits s && backwardFits s

end Zettel.Pattern.Automaton
