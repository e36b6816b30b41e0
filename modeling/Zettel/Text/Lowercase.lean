import Zettel.Text.Lowercase.Table

/-!
# Small letters

Text in small letters. One capital has a two-character image, and a capital sigma becomes the
final small sigma at the end of a word. `lowerChar` maps a character on its own, where every sigma
becomes the common one, and `lowercase` maps a text.

Main statements: `lowerL_eq_flatMap`, the two agree on text without a capital sigma, and
`lowerChar_ne_nil`, no character disappears.
-/

namespace Zettel.Text

open Lowercase

/-! ## One character -/

/-- The capital sigma, the only character whose small letter depends on its place. -/
def capitalSigma : Char := 'Σ'

/-- The characters that stand for `c` in small letters. -/
def lowerChar (c : Char) : List Char :=
  if c.toNat < 0x80 then [c.toLower]
  else if c = 'İ' then ['i', Char.ofNat 0x307]
  else match capitals.findSome? (·.image? c.toNat) with
    | some n => [Char.ofNat n]
    | none => [c]

/-- No character disappears in small letters. -/
theorem lowerChar_ne_nil (c : Char) : lowerChar c ≠ [] := by
  unfold lowerChar
  split
  · simp
  · split
    · simp
    · split <;> simp

/-! ## The sigma at the end of a word -/

/-- The first character that a word's case does not look past is a cased letter. -/
def meetsCased (cs : List Char) : Bool :=
  match cs.dropWhile caseIgnorable.contains with
  | [] => false
  | c :: _ => cased.contains c

/-- A place with `before` on its left (nearest first) and `after` on its right ends a word. -/
def endsWord (before after : List Char) : Bool := meetsCased before && !meetsCased after

/-! ## Text -/

/-- `cs` in small letters, where `before` stands on its left, nearest first. -/
def lowerFrom (before : List Char) : List Char → List Char
  | [] => []
  | c :: rest =>
    (if c = capitalSigma then [if endsWord before rest then 'ς' else 'σ'] else lowerChar c)
      ++ lowerFrom (c :: before) rest

/-- `cs` in small letters. -/
def lowerL (cs : List Char) : List Char := lowerFrom [] cs

/-- `s` in small letters. -/
def lowercase (s : String) : String := String.ofList (lowerL s.toList)

/-- Text without a capital sigma is mapped character by character. -/
theorem lowerFrom_eq_flatMap (before : List Char) {cs : List Char} (h : capitalSigma ∉ cs) :
    lowerFrom before cs = cs.flatMap lowerChar := by
  induction cs generalizing before with
  | nil => rfl
  | cons c cs ih =>
    have hc : c ≠ capitalSigma := fun e => h (e ▸ List.mem_cons_self)
    rw [lowerFrom, if_neg hc, ih _ fun m => h (List.mem_cons_of_mem _ m), List.flatMap_cons]

/-- Text without a capital sigma is mapped character by character. -/
theorem lowerL_eq_flatMap {cs : List Char} (h : capitalSigma ∉ cs) :
    lowerL cs = cs.flatMap lowerChar :=
  lowerFrom_eq_flatMap [] h

/-- The same word with its sigma at the end and before another letter. -/
example : lowercase "ΟΔΟΣ ΟΔΟΣΑ" = "οδος οδοσα" := by decide +kernel

end Zettel.Text
