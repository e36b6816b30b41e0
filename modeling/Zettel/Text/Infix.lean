/-!
# Text inside text

Whether one text occurs in another, begins it or ends it, and the replacement of every occurrence.

Main statement: `occursL_iff`, occurrence is the infix relation.
-/

namespace Zettel.Text

/-- The characters `needle` stand together somewhere in the list. -/
def occursL (needle : List Char) : List Char → Bool
  | [] => needle.isEmpty
  | c :: cs => needle.isPrefixOf (c :: cs) || occursL needle cs

/-- Occurrence is the infix relation. -/
theorem occursL_iff {needle hay : List Char} : occursL needle hay = true ↔ needle <:+: hay := by
  induction hay with
  | nil => simp [occursL]
  | cons c cs ih => simp [occursL, ih, List.infix_cons_iff]

/-- `needle` occurs in `hay`. -/
def occurs (needle hay : String) : Bool := occursL needle.toList hay.toList

/-- `hay` begins with `start`. -/
def beginsWith (start hay : String) : Bool := start.toList.isPrefixOf hay.toList

/-- `hay` ends with `tail`. -/
def endsWith (tail hay : String) : Bool := tail.toList.isSuffixOf hay.toList

/-- `cs` with every occurrence of `needle`, read from the left, replaced by `image`. An empty
`needle` occurs nowhere. -/
def replaceL (needle image cs : List Char) : List Char :=
  match cs with
  | [] => []
  | c :: rest =>
    if needle ≠ [] ∧ needle.isPrefixOf (c :: rest) then
      image ++ replaceL needle image ((c :: rest).drop needle.length)
    else c :: replaceL needle image rest
termination_by cs.length
decreasing_by
  · next h =>
    have : 0 < needle.length := List.length_pos_iff.2 h.1
    simp only [List.length_drop, List.length_cons]
    omega
  · simp

end Zettel.Text
