import Zettel.Pattern.Automaton
import Zettel.Pattern.Error
import Zettel.Text.Letter

/-!
# Reading patterns

The written form of patterns: alternatives, groups with names and flags, repetitions, classes with
set operations, named sets of characters, and conditions on places. There is no look-around and no
backreference. Case is ignored unless a flag says otherwise.

Groups and classes are read with a stack of what is open. Every step takes at least one character,
so there are no more steps than characters.
-/

namespace Zettel.Pattern

open Zettel.Text

/-- Reading gives a value or the cause of a refusal. -/
abbrev Read := Except Error

/-! ## Flags -/

/-- How what follows is understood. -/
structure Flags where
  ignoreCase : Bool := true
  multiLine : Bool := false
  dotMatchesNewLine : Bool := false
  unicode : Bool := true
  /-- Blanks and comments do not count. -/
  verbose : Bool := false
  /-- Repetitions are greedy if they are marked as lazy, and the other way round. -/
  swapGreed : Bool := false
  deriving DecidableEq, Repr

namespace Flags

/-- Sets the flag with the letter `c`. -/
def set? (f : Flags) (c : Char) (on : Bool) : Option Flags :=
  match c with
  | 'i' => some { f with ignoreCase := on }
  | 'm' => some { f with multiLine := on }
  | 's' => some { f with dotMatchesNewLine := on }
  | 'u' => some { f with unicode := on }
  | 'x' => some { f with verbose := on }
  | 'U' => some { f with swapGreed := on }
  | _ => none

/-- The set, with variants in case unless case matters. -/
def fold (f : Flags) (rs : Ranges) : Ranges :=
  if f.ignoreCase then if f.unicode then ignoringCase rs else ignoringAsciiCase rs else rs

/-- The set, unless it could match a part of a character. -/
def check (f : Flags) (rs : Ranges) : Read Ranges :=
  if f.unicode || isAscii rs then .ok rs else .error .notUnicode

/-- The set or, if `negated`, all characters outside it. -/
def negate (f : Flags) (negated : Bool) (rs : Ranges) : Read Ranges :=
  f.check (if negated then rs.complement else rs)

/-- The pattern of a class with the given set. -/
def one (f : Flags) (rs : Ranges) : Pattern := .one ⟨rs, !f.unicode⟩

/-- The pattern of a character that stands for itself. -/
def literal (f : Flags) (c : Char) : Pattern := f.one (f.fold (single c))

/-- The pattern of a dot. -/
def dot (f : Flags) : Read Pattern :=
  f.one <$> f.negate true (if f.dotMatchesNewLine then [] else single '\n')

end Flags

/-! ## Blanks and comments -/

/-- `cs` after the blanks and comments that do not count, of which a comment runs to the end of the
line. -/
def skipBlanks (inComment : Bool) : List Char → List Char
  | [] => []
  | c :: rest =>
    if inComment then skipBlanks (c ≠ '\n') rest
    else if isBlank c then skipBlanks false rest
    else if c = '#' then skipBlanks true rest
    else c :: rest

/-- `cs` after what does not count. -/
def skip (f : Flags) (cs : List Char) : List Char := if f.verbose then skipBlanks false cs else cs

/-- What follows the first character of `cs`, after what does not count. -/
def after (f : Flags) (cs : List Char) : List Char := skip f (cs.drop 1)

/-! ## Escapes -/

/-- What stands for one thing by itself. -/
inductive Atom
  | literal (c : Char)
  | place (p : Place)
  | inClass (rs : Ranges)

/-- The characters with a meaning outside or inside classes. -/
def metaChars : List Char :=
  ['\\', '.', '+', '*', '?', '(', ')', '|', '[', ']', '\x7b', '\x7d', '^', '$', '#', '&', '-', '~']

/-- A backslash before the character `c` leaves it as it is. -/
def isEscapable (c : Char) : Bool :=
  metaChars.contains c || (c.toNat < 0x80 && !c.isAlphanum && c ≠ '<' && c ≠ '>')

/-- The character of a code point; without the Unicode flag, two hexadecimal digits stand for a
byte. -/
def codePoint (f : Flags) (isByte : Bool) (n : Nat) : Read Char :=
  if n.isValidChar then
    if isByte && !f.unicode && 0x80 ≤ n then .error .notUnicode else .ok (Char.ofNat n)
  else .error .badCodePoint

/-- Reads `count` hexadecimal digits, where `n` has been read. -/
def hexDigits (f : Flags) : Nat → Nat → List Char → Read (Nat × List Char)
  | 0, n, cs => .ok (n, cs)
  | count + 1, n, cs =>
    match cs with
    | [] => .error .unfinishedEscape
    | c :: _ =>
      match Ranges.hexDigit? c with
      | some d => hexDigits f count (16 * n + d) (after f cs)
      | none => .error .badCodePoint

/-- Reads hexadecimal digits up to a closing brace. -/
def hexInBraces (f : Flags) (fuel : Nat) (n : Option Nat) (cs : List Char) :
    Read (Nat × List Char) :=
  match fuel, cs with
  | 0, _ => .error .unfinishedEscape
  | _, [] => .error .unfinishedEscape
  | fuel + 1, c :: _ =>
    if c = '\x7d' then
      match n with
      | some n => .ok (n, after f cs)
      | none => .error .badCodePoint
    else match Ranges.hexDigit? c with
      | some d => hexInBraces f fuel (some (16 * n.getD 0 + d)) (after f cs)
      | none => .error .badCodePoint

/-- Reads a code point after the letter of its escape. -/
def hex (f : Flags) (letter : Char) (cs : List Char) : Read (Char × List Char) := do
  let cs := skip f cs
  match cs with
  | [] => .error .unfinishedEscape
  | '\x7b' :: _ =>
    let (n, rest) ← hexInBraces f (cs.length + 1) none (after f cs)
    return (← codePoint f false n, rest)
  | _ =>
    let count := if letter = 'x' then 2 else if letter = 'u' then 4 else 8
    let (n, rest) ← hexDigits f count 0 cs
    return (← codePoint f (letter = 'x') n, rest)

/-- The place of `needle` in `cs`: what comes before it and what comes after it. -/
def splitAt? (needle : List Char) (cs : List Char) : Option (List Char × List Char) :=
  match cs with
  | [] => none
  | c :: rest =>
    if needle.isPrefixOf cs then some ([], cs.drop needle.length)
    else (splitAt? needle rest).map fun (before, after) => (c :: before, after)

/-- The set that a query between braces asks for, and whether its complement is meant. -/
def queriedSet (query : List Char) : Option (Bool × Ranges) :=
  let valued (negated : Bool) (parts : List Char × List Char) : Option (Bool × Ranges) :=
    (Property.valued? (String.ofList parts.1) (String.ofList parts.2)).map (negated, ·)
  match splitAt? ['!', '='] query with
  | some parts => valued true parts
  | none =>
    match splitAt? [':'] query with
    | some parts => valued false parts
    | none =>
      match splitAt? ['='] query with
      | some parts => valued false parts
      | none => (Property.named? (String.ofList query)).map (false, ·)

/-- Reads up to a closing brace. -/
def untilBrace (f : Flags) : Nat → List Char → Read (List Char × List Char)
  | 0, _ => .error .unfinishedEscape
  | fuel + 1, cs =>
    match cs with
    | [] => .error .unfinishedEscape
    | c :: rest =>
      if c = '\x7d' then .ok ([], rest)
      else do
        let (name, rest) ← untilBrace f fuel (after f cs)
        return (c :: name, rest)

/-- Reads a named set after the letter of its escape. -/
def property (f : Flags) (negated : Bool) (cs : List Char) : Read (Ranges × List Char) := do
  let cs := skip f cs
  let (query, rest) ← match cs with
    | [] => .error .unfinishedEscape
    | '\x7b' :: _ => untilBrace f (cs.length + 1) (after f cs)
    | '\\' :: _ => .error .unknownProperty
    | c :: _ => .ok ([c], after f cs)
  if !f.unicode then .error .notUnicode
  else match queriedSet query with
    | none => .error .unknownProperty
    | some (complement, rs) => return (← f.negate (negated != complement) (f.fold rs), rest)

/-- The set that a letter stands for: digits, blanks or parts of words. -/
def letterSet (f : Flags) (letter : Char) : Ranges :=
  match letter.toLower with
  | 'd' => if f.unicode then digits else asciiDigits
  | 's' => if f.unicode then blanks else asciiBlanks
  | _ => if f.unicode then wordChars else asciiWordChars

/-- The condition that a name in braces stands for. -/
def wordPlace? (name : String) : Option WordPlace :=
  if name = "start" then some .start
  else if name = "end" then some .finish
  else if name = "start-half" then some .startHalf
  else if name = "end-half" then some .finishHalf
  else none

/-- A character of the names that `wordPlace?` knows. -/
def isPlaceNameChar (c : Char) : Bool := c = '-' || (c.toNat < 0x80 && c.isAlpha)

/-- Reads letters and dashes. -/
def placeName (f : Flags) : Nat → List Char → List Char × List Char
  | 0, cs => ([], cs)
  | fuel + 1, cs =>
    match cs with
    | [] => ([], [])
    | c :: _ =>
      if isPlaceNameChar c then
        let (name, rest) := placeName f fuel (after f cs)
        (c :: name, rest)
      else ([], cs)

/-- Reads the condition after `\b`: a name in braces, or else that of any boundary. -/
def boundary (f : Flags) (cs : List Char) : Read (WordPlace × List Char) :=
  match cs with
  | '\x7b' :: _ =>
    match after f cs with
    | [] => .error .badEscape
    | inner@(c :: _) =>
      if isPlaceNameChar c then
        match placeName f inner.length inner with
        | (name, '\x7d' :: rest) =>
          match wordPlace? (String.ofList name) with
          | some w => .ok (w, rest)
          | none => .error .badEscape
        | _ => .error .badEscape
      else .ok (.boundary, cs)
  | _ => .ok (.boundary, cs)

/-- Reads what follows a backslash. -/
def escape (f : Flags) : List Char → Read (Atom × List Char)
  | [] => .error .unfinishedEscape
  | c :: rest =>
    if c.isDigit then .error .backreference
    else if c = 'x' ∨ c = 'u' ∨ c = 'U' then do
      let (c, rest) ← hex f c rest
      return (.literal c, rest)
    else if c = 'p' ∨ c = 'P' then do
      let (set, rest) ← property f (c = 'P') rest
      return (.inClass set, rest)
    else if ['d', 's', 'w', 'D', 'S', 'W'].contains c then do
      return (.inClass (← f.negate c.isUpper (letterSet f c)), rest)
    else if isEscapable c then .ok (.literal c, rest)
    else match c with
      | 'a' => .ok (.literal (Char.ofNat 7), rest)
      | 'f' => .ok (.literal (Char.ofNat 12), rest)
      | 't' => .ok (.literal '\t', rest)
      | 'n' => .ok (.literal '\n', rest)
      | 'r' => .ok (.literal '\r', rest)
      | 'v' => .ok (.literal (Char.ofNat 11), rest)
      | 'A' => .ok (.place .textStart, rest)
      | 'z' => .ok (.place .textEnd, rest)
      | 'b' => do
        let (w, rest) ← boundary f rest
        return (.place (.word (!f.unicode) w), rest)
      | '<' => .ok (.place (.word (!f.unicode) .start), rest)
      | '>' => .ok (.place (.word (!f.unicode) .finish), rest)
      | _ => .error .badEscape

/-! ## Classes -/

/-- The operations between the sets of a class. -/
inductive SetOperation
  | both
  | minus
  | differ

/-- A set with the depth of its written form. -/
structure SetPart where
  set : Ranges
  depth : Nat

/-- A class that is being read. -/
structure OpenClass where
  negated : Bool
  /-- The operation before the items, with what stands on its left. -/
  left : Option (SetOperation × SetPart) := none
  items : Ranges := []
  itemCount : Nat := 0
  itemDepth : Nat := 0

namespace OpenClass

/-- Adds an item. -/
def add (o : OpenClass) (rs : Ranges) (depth : Nat) : OpenClass :=
  { o with
    items := o.items.union rs, itemCount := o.itemCount + 1, itemDepth := max o.itemDepth depth }

/-- The set that has been read: the items, behind the operation before them. -/
def part (o : OpenClass) (f : Flags) : SetPart :=
  let items : SetPart := ⟨o.items, if 1 < o.itemCount then o.itemDepth + 1 else o.itemDepth⟩
  match o.left with
  | none => items
  | some (op, left) =>
    let l := f.fold left.set
    let r := f.fold items.set
    ⟨match op with
      | .both => l.inter r
      | .minus => l.minus r
      | .differ => l.differ r, max left.depth items.depth + 1⟩

/-- An operation, after which other items follow. -/
def operate (o : OpenClass) (f : Flags) (op : SetOperation) : OpenClass :=
  { negated := o.negated, left := some (op, o.part f) }

/-- The class that is closed here. -/
def close (o : OpenClass) (f : Flags) : Read SetPart := do
  let p := o.part f
  return ⟨← f.negate o.negated (f.fold p.set), p.depth + 1⟩

end OpenClass

/-- Dashes at the beginning of a class stand for themselves. -/
def leadingDashes (f : Flags) (fuel : Nat) (o : OpenClass) (cs : List Char) :
    OpenClass × List Char :=
  match fuel, cs with
  | fuel + 1, '-' :: _ => leadingDashes f fuel (o.add (single '-') 0) (after f cs)
  | _, _ => (o, cs)

/-- Reads the beginning of a class, where `cs` begins with the bracket. -/
def openClass (f : Flags) (cs : List Char) : Read (OpenClass × List Char) := do
  let cs := after f cs
  let (negated, cs) := match cs with
    | '^' :: _ => (true, after f cs)
    | _ => (false, cs)
  let (o, cs) := leadingDashes f cs.length { negated := negated } cs
  let (o, cs) := match cs with
    | ']' :: _ => if o.itemCount = 0 then (o.add (single ']') 0, after f cs) else (o, cs)
    | _ => (o, cs)
  if cs.isEmpty then .error .unclosedClass else .ok (o, cs)

/-- Reads a named ASCII set such as `[:alpha:]`, if there is one. -/
def posixSet? (cs : List Char) : Option (Bool × Ranges × List Char) :=
  match cs with
  | '[' :: ':' :: rest =>
    let (negated, rest) := match rest with
      | '^' :: rest => (true, rest)
      | rest => (false, rest)
    let name := rest.takeWhile (· ≠ ':')
    match rest.drop name.length with
    | ':' :: ']' :: rest =>
      (posixSets.find? (·.1 = String.ofList name)).map fun (_, rs) => (negated, rs, rest)
    | _ => none
  | _ => none

/-- Reads a character or an escape in a class. -/
def classAtom (f : Flags) : List Char → Read (Atom × List Char)
  | [] => .error .unclosedClass
  | '\\' :: rest => escape f rest
  | c :: rest => .ok (.literal c, rest)

/-- The set that an item of a class stands for. -/
def Atom.asItem (f : Flags) : Atom → Read Ranges
  | literal c => if f.unicode || c.toNat < 0x80 then .ok (single c) else .error .notUnicode
  | inClass rs => .ok rs
  | place _ => .error .badClassItem

/-- The character that an end of a range stands for. -/
def Atom.asEnd (f : Flags) : Atom → Read Char
  | literal c => if f.unicode || c.toNat < 0x80 then .ok c else .error .notUnicode
  | _ => .error .badRange

/-- The character that tells whether a dash before `cs` stands for itself: the first that is no
blank and, if blanks do not count, is not hidden by a number sign. -/
def afterDash? (f : Flags) (cs : List Char) : Option Char :=
  if f.verbose then
    let rest := match cs.dropWhile isBlank with
      | '#' :: rest => rest.dropWhile isBlank
      | rest => rest
    rest.head? <|> cs.head?
  else cs.head?

/-- Reads an item of a class: a range, or a single character or set. -/
def classItem (f : Flags) (cs : List Char) : Read (Ranges × List Char) := do
  let (first, rest) ← classAtom f cs
  match skip f rest with
  | [] => .error .unclosedClass
  | rest@('-' :: beyond) =>
    if [some ']', some '-'].contains (afterDash? f beyond) then return (← first.asItem f, rest)
    else if (skip f beyond).isEmpty then .error .unclosedClass
    else
      let (last, rest) ← classAtom f (skip f beyond)
      let a ← first.asEnd f
      let b ← last.asEnd f
      if a ≤ b then return ([(a.toNat, b.toNat)], rest) else .error .badRange
  | rest => return (← first.asItem f, rest)

/-- Where the reading of a class stands. -/
inductive ClassState
  /-- Classes are open, the innermost first. -/
  | inside (o : OpenClass) (outer : List OpenClass) (rest : List Char)
  | closed (p : SetPart) (rest : List Char)

/-- One step of reading a class. -/
def classStep (f : Flags) (o : OpenClass) (outer : List OpenClass) (cs : List Char) :
    Read ClassState := do
  match skip f cs with
  | [] => .error .unclosedClass
  | cs@('[' :: _) =>
    match posixSet? cs with
    | some (negated, rs, rest) =>
      return .inside (o.add (← f.negate negated (f.fold rs)) 0) outer rest
    | none =>
      let (inner, rest) ← openClass f cs
      return .inside inner (o :: outer) rest
  | ']' :: rest =>
    let p ← o.close f
    match outer with
    | [] => return .closed p rest
    | o :: outer => return .inside (o.add p.set p.depth) outer rest
  | '&' :: '&' :: rest => return .inside (o.operate f .both) outer rest
  | '-' :: '-' :: rest => return .inside (o.operate f .minus) outer rest
  | '~' :: '~' :: rest => return .inside (o.operate f .differ) outer rest
  | cs =>
    let (rs, rest) ← classItem f cs
    return .inside (o.add rs 0) outer rest

/-- Reads the rest of a class, in at most `fuel` steps. -/
def classRest (f : Flags) : (fuel : Nat) → OpenClass → List OpenClass → List Char →
    Read (SetPart × List Char)
  | 0, _, _, _ => .error .unclosedClass
  | fuel + 1, o, outer, cs =>
    match classStep f o outer cs with
    | .error e => .error e
    | .ok (.closed p rest) => .ok (p, rest)
    | .ok (.inside o outer rest) => classRest f fuel o outer rest

/-! ## Groups -/

/-- A piece of a pattern with the depth of its written form. -/
structure Piece where
  pattern : Pattern
  depth : Nat
  /-- A repetition may follow. -/
  isRepeatable : Bool := true

/-- Several pieces in a row, which are given last first. -/
def Piece.ofSequence : List Piece → Piece
  | [] => ⟨.empty, 0, true⟩
  | [p] => p
  | ps =>
    ⟨ps.foldl (fun q p => .seq p.pattern q) .empty, (ps.map Piece.depth).foldl max 0 + 1, true⟩

/-- The alternatives, which are given last first. -/
def Piece.ofAlternatives : List Piece → Piece
  | [] => ⟨.empty, 0, true⟩
  | [p] => p
  | p :: ps => ⟨ps.foldl (fun q p => .alt p.pattern q) p.pattern,
    ((p :: ps).map Piece.depth).foldl max 0 + 1, true⟩

/-- A group that is being read; the pattern as a whole is one too. -/
structure OpenGroup where
  /-- The flags that hold again after the group. -/
  outerFlags : Flags
  /-- The number of the group, if what it fits can be asked for. -/
  number : Option Nat := none
  /-- The alternatives before this one, last first. -/
  alternatives : List Piece := []
  /-- The pieces of this alternative, last first. -/
  pieces : List Piece := []

namespace OpenGroup

/-- Adds a piece. -/
def add (g : OpenGroup) (p : Piece) : OpenGroup := { g with pieces := p :: g.pieces }

/-- Ends an alternative. -/
def alternate (g : OpenGroup) : OpenGroup :=
  { g with alternatives := .ofSequence g.pieces :: g.alternatives, pieces := [] }

/-- What has been read. -/
def piece (g : OpenGroup) : Piece := .ofAlternatives g.alternate.alternatives

end OpenGroup

/-- A character that the name of a group may have, at its beginning or later. -/
def isNameChar (isFirst : Bool) (c : Char) : Bool :=
  c = '_' || if isFirst then isLetter c
    else c = '.' || c = '[' || c = ']' || isLetterOrNumber c

/-- Reads the name of a group up to the angle bracket. -/
def groupName (cs : List Char) : Read (List Char × List Char) :=
  let name := cs.takeWhile (· ≠ '>')
  match cs.drop name.length with
  | [] => .error .badGroupName
  | _ :: rest =>
    match name with
    | [] => .error .badGroupName
    | c :: more =>
      if isNameChar true c ∧ more.all (isNameChar false) then .ok (name, rest)
      else .error .badGroupName

/-- Reads flags: letters, of which those after a dash are taken back. The reading ends at a colon or
a closing parenthesis; `used` holds the letters so far. -/
def flagLetters (f : Flags) (on : Bool) (used : List Char) :
    List Char → Read (Flags × Bool × List Char)
  | [] => .error .badFlag
  | c :: rest =>
    if c = ':' ∨ c = ')' then
      if used.head? = some '-' then .error .badFlag
      else if c = ')' ∧ used = [] then .error .nothingToRepeat
      else .ok (f, c = ':', rest)
    else if used.contains c then .error .badFlag
    else if c = '-' then flagLetters f false (c :: used) rest
    else match f.set? c on with
      | some f => flagLetters f on (c :: used) rest
      | none => .error .badFlag

/-- Where the reading of a pattern stands. -/
structure State where
  flags : Flags := {}
  /-- The names of groups so far. -/
  names : List (List Char) := []
  /-- How many groups have a number. -/
  groupCount : Nat := 0
  group : OpenGroup
  /-- The groups around, the innermost first. -/
  outer : List OpenGroup := []

namespace State

/-- Adds a piece to the innermost group. -/
def add (s : State) (p : Piece) : State := { s with group := s.group.add p }

/-- Opens a group in which the flags `f` hold. -/
def openGroup (s : State) (f : Flags) : State :=
  { s with flags := f, group := { outerFlags := s.flags }, outer := s.group :: s.outer }

/-- Opens a group with a number. -/
def openNumbered (s : State) : State :=
  let number := s.groupCount + 1
  { s with
    groupCount := number, group := { outerFlags := s.flags, number := some number },
    outer := s.group :: s.outer }

/-- Reads the beginning of a group, after the parenthesis. -/
def beginGroup (s : State) (cs : List Char) : Read (State × List Char) :=
  let named (cs : List Char) : Read (State × List Char) := do
    let (name, rest) ← groupName cs
    if s.names.contains name then .error .repeatedGroupName
    else return ({ s with names := name :: s.names }.openNumbered, rest)
  match skip s.flags cs with
  | '?' :: '=' :: _ => .error .lookAround
  | '?' :: '!' :: _ => .error .lookAround
  | '?' :: '<' :: '=' :: _ => .error .lookAround
  | '?' :: '<' :: '!' :: _ => .error .lookAround
  | '?' :: 'P' :: '<' :: rest => named rest
  | '?' :: '<' :: rest => named rest
  | '?' :: rest => do
    let (f, isGroup, rest) ← flagLetters s.flags true [] rest
    if isGroup then return (s.openGroup f, rest)
    else return ({ s with flags := f }.add ⟨.empty, 0, false⟩, rest)
  | rest => .ok (s.openNumbered, rest)

/-- Closes the innermost group. -/
def endGroup (s : State) : Read State :=
  match s.outer with
  | [] => .error .unopenedGroup
  | g :: outer =>
    let p := s.group.piece
    .ok { s with
      flags := s.group.outerFlags,
      group := g.add ⟨.group s.group.number p.pattern, p.depth + 1, true⟩,
      outer := outer }

/-- Repeats the last piece. -/
def repeatLast (s : State) (least : Nat) (most : Option Nat) (isLazy : Bool) : Read State :=
  match s.group.pieces with
  | [] => .error .nothingToRepeat
  | p :: pieces =>
    if p.isRepeatable then
      .ok { s with group := { s.group with
        pieces := ⟨.times p.pattern least most (isLazy = s.flags.swapGreed), p.depth + 1, true⟩
          :: pieces } }
    else .error .nothingToRepeat

end State

/-! ## Repetitions -/

/-- Whether a question mark makes a repetition prefer fewer times, and what follows it. -/
def readLazy : List Char → Bool × List Char
  | '?' :: rest => (true, rest)
  | rest => (false, rest)

/-- The largest count of a repetition, 2^32 - 1. -/
def maxRepetitions : Nat := 0xFFFFFFFF

/-- Reads a count, with the blanks around it. -/
def decimal (f : Flags) : Nat → Option Nat → List Char → Read (Nat × List Char)
  | 0, _, _ => .error .unclosedCount
  | fuel + 1, n, cs =>
    match cs with
    | [] => .error .unclosedCount
    | c :: rest =>
      if c.isDigit then decimal f fuel (some (10 * n.getD 0 + (c.toNat - '0'.toNat))) (after f cs)
      else if isBlank c ∧ n.isNone then decimal f fuel n rest
      else match n with
        | none => .error .badCount
        | some n =>
          if n ≤ maxRepetitions then .ok (n, skip f (cs.dropWhile isBlank)) else .error .badCount

/-- Reads a counted repetition, where `cs` begins with the brace, up to what follows the brace. -/
def counted (f : Flags) (cs : List Char) : Read (Nat × Option Nat × List Char) := do
  let (least, rest) ← decimal f cs.length none (after f cs)
  let (most, rest) ← show Read (Option Nat × List Char) from match rest with
    | ',' :: _ =>
      match after f rest with
      | [] => .error .unclosedCount
      | rest@('\x7d' :: _) => .ok (none, rest)
      | rest => do
        let (most, rest) ← decimal f cs.length none rest
        return (some most, rest)
    | rest => .ok (some least, rest)
  match rest with
  | '\x7d' :: _ =>
    if most.any (· < least) then .error .badCount
    else return (least, most, after f rest)
  | _ => .error .unclosedCount

/-! ## Reading a pattern -/

/-- One step of reading, where `cs` is not empty and has at most `limit` characters. -/
def step (limit : Nat) (s : State) (cs : List Char) : Read (State × List Char) := do
  let f := s.flags
  match cs with
  | [] => .ok (s, [])
  | '(' :: rest => s.beginGroup rest
  | ')' :: rest => return (← s.endGroup, rest)
  | '|' :: rest => return ({ s with group := s.group.alternate }, rest)
  | '[' :: _ =>
    let (o, rest) ← openClass f cs
    let (p, rest) ← classRest f limit o [] rest
    return (s.add ⟨f.one p.set, p.depth, true⟩, rest)
  | '?' :: rest => repeated 0 (some 1) rest
  | '*' :: rest => repeated 0 none rest
  | '+' :: rest => repeated 1 none rest
  | '\x7b' :: _ =>
    if s.group.pieces.isEmpty then .error .nothingToRepeat
    else
      let (least, most, rest) ← counted f cs
      repeated least most rest
  | '\\' :: rest =>
    match ← escape f rest with
    | (.literal c, rest) => return (s.add ⟨f.literal c, 0, true⟩, rest)
    | (.place p, rest) => return (s.add ⟨.place p, 0, true⟩, rest)
    | (.inClass rs, rest) => return (s.add ⟨f.one rs, 0, true⟩, rest)
  | '.' :: rest => return (s.add ⟨← f.dot, 0, true⟩, rest)
  | '^' :: rest =>
    return (s.add ⟨.place (if f.multiLine then .lineStart else .textStart), 0, true⟩, rest)
  | '$' :: rest =>
    return (s.add ⟨.place (if f.multiLine then .lineEnd else .textEnd), 0, true⟩, rest)
  | c :: rest => return (s.add ⟨f.literal c, 0, true⟩, rest)
where
  /-- Repeats the last piece, with what is said about greed in `rest`. -/
  repeated (least : Nat) (most : Option Nat) (rest : List Char) : Read (State × List Char) := do
    let (isLazy, rest) := readLazy rest
    return (← s.repeatLast least most isLazy, rest)

/-- The deepest nesting that is accepted. -/
def maxDepth : Nat := 250

/-- Reads what is left of a pattern, in at most `fuel` steps. -/
def readRest : (fuel : Nat) → State → List Char → Read Pattern
  | 0, _, _ => .error .badEscape
  | fuel + 1, s, cs =>
    match skip s.flags cs with
    | [] =>
      if s.outer.isEmpty then
        let p := s.group.piece
        if maxDepth < p.depth then .error .tooDeep
        else if Automaton.fits p.pattern then .ok p.pattern
        else .error .tooLarge
      else .error .unclosedGroup
    | next =>
      match step fuel s next with
      | .error e => .error e
      | .ok (s, rest) => readRest fuel s rest

/-- Reads a pattern in which case is ignored. -/
def read (text : String) : Read Pattern :=
  let cs := text.toList
  readRest (cs.length + 1) { group := { outerFlags := {} } } cs

end Zettel.Pattern
