import Zettel.Text.Ranges

/-!
# Ranges of characters in bytes

In UTF-8 the characters of a range are sequences of bytes. A range can be cut so that in each piece
every byte runs through a range of its own.
-/

namespace Zettel.Text.Utf8

/-- Inclusive ranges of bytes, one for each place of a sequence. -/
abbrev ByteRanges := List (UInt8 × UInt8)

/-- The code points from `first` to `last` where the number of bytes changes. -/
def lengthCut? (first last : Nat) : Option Nat :=
  [0x80, 0x800, 0x10000].find? fun n => first < n && n ≤ last

/-- A code point after `first` and up to `last` at which all of the lower bytes start again. -/
def alignedCut? (first last : Nat) : Option Nat :=
  [0x40, 0x1000, 0x40000].findSome? fun size =>
    if first / size = last / size then none
    else if first % size ≠ 0 then some ((first / size + 1) * size)
    else if last % size + 1 ≠ size then some (last / size * size)
    else none

/-- Where to cut a range, before the code point that is given. -/
def cut? (first last : Nat) : Option Nat :=
  if first ≤ 0xD7FF ∧ 0xE000 ≤ last then some 0xE000
  else (lengthCut? first last) <|> if last < 0x80 then none else alignedCut? first last

/-- The range, cut where that is needed. -/
def pieces (first last : Nat) : Ranges :=
  match cut? first last with
  | some n =>
    if _h : first < n ∧ n ≤ last then pieces first (Ranges.previous n) ++ pieces n last
    else [(first, last)]
  | none => [(first, last)]
termination_by last - first
decreasing_by
  · unfold Ranges.previous
    split <;> omega
  · omega

/-- The sequences of bytes that stand for the characters of a range. -/
def byteRanges (r : Nat × Nat) : List ByteRanges :=
  (pieces r.1 r.2).map fun p =>
    (String.utf8EncodeChar (Char.ofNat p.1)).zip (String.utf8EncodeChar (Char.ofNat p.2))

example : byteRanges (0x7F, 0x80) = [[(0x7F, 0x7F)], [(0xC2, 0xC2), (0x80, 0x80)]] := by
  simp [byteRanges, pieces, cut?, lengthCut?, Ranges.previous, alignedCut?]
  decide

end Zettel.Text.Utf8
