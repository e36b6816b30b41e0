import Zettel.Text.Ranges

/-!
# Runs of case pairs

Case tables of the Unicode standard pair characters in long regular runs: the capitals `A` to `Z`
with `a` to `z`, or every second letter with its successor. A run is one row of such a table.
-/

namespace Zettel.Text

/-- Every `stride`-th code point from `first` to `last`; `first` is paired with `image`, and the
later ones with the code points at the same distance from `image`. -/
structure CaseRun where
  first : Nat
  last : Nat
  stride : Nat
  image : Nat

namespace CaseRun

/-- The code point paired with `n`, if the run covers `n`. -/
def image? (r : CaseRun) (n : Nat) : Option Nat :=
  if r.first ≤ n ∧ n ≤ r.last ∧ (n - r.first) % r.stride = 0 then some (r.image + (n - r.first))
  else none

/-- The code point that is paired with `m`, if the run has one. -/
def source? (r : CaseRun) (m : Nat) : Option Nat :=
  let n := r.first + (m - r.image)
  if r.image ≤ m ∧ r.image? n = some m then some n else none

/-- `source?` inverts `image?`. -/
theorem image?_of_source? {r : CaseRun} {m n : Nat} (h : r.source? m = some n) :
    r.image? n = some m := by
  simp only [source?] at h
  split at h
  · next hm => cases h; exact hm.2
  · cases h

/-- The code points that the run pairs with those of the range `q`. -/
def images (r : CaseRun) (q : Nat × Nat) : Ranges :=
  let first := max q.1 r.first - r.first
  let last := min q.2 r.last - r.first
  if min q.2 r.last < max q.1 r.first then []
  else if r.stride = 1 then [(r.image + first, r.image + last)]
  else
    let i := (first + r.stride - 1) / r.stride
    (List.range (last / r.stride + 1 - i)).map fun k =>
      (r.image + r.stride * (i + k), r.image + r.stride * (i + k))

/-- The run that pairs the other way round. -/
def inverse (r : CaseRun) : CaseRun :=
  { r with first := r.image, last := r.image + (r.last - r.first), image := r.first }

example : images ⟨0x100, 0x12E, 2, 0x101⟩ (0x101, 0x104) = [(0x103, 0x103), (0x105, 0x105)] := by
  decide +kernel

end CaseRun

end Zettel.Text
