/-!
# Stable sorting

Elements are taken in order, and each moves forward past the elements already placed as long as it
comes before them. Equal elements keep their order, and the result is settled by this procedure even
where "comes before" is not transitive.

Main statements: `sortBy_perm`, nothing is lost, and `pairwise_sortBy`, the result is in order when
the comparison is one of a linear preorder.
-/

namespace Zettel

universe u

variable {α : Type u}

/-- Puts `x` into the elements placed so far, listed from the last one back. -/
def placeFromEnd (before : α → α → Bool) (x : α) : List α → List α
  | [] => [x]
  | y :: ys => if before x y then y :: placeFromEnd before x ys else x :: y :: ys

/-- Puts each of `xs` into the elements placed so far. -/
def placeAll (before : α → α → Bool) (placed xs : List α) : List α :=
  (xs.foldl (fun placed x => placeFromEnd before x placed) placed.reverse).reverse

/-- `xs` in the order of `before`, equal elements in the order in which they came. -/
def sortBy (before : α → α → Bool) (xs : List α) : List α := placeAll before [] xs

/-- `xs` in the order of a key. -/
def sortOn {β : Type} [LT β] [DecidableLT β] (key : α → β) (xs : List α) : List α :=
  sortBy (fun x y => key x < key y) xs

/-! ## Nothing is lost -/

theorem placeFromEnd_perm (before : α → α → Bool) (x : α) (ys : List α) :
    (placeFromEnd before x ys).Perm (x :: ys) := by
  induction ys with
  | nil => exact .refl _
  | cons y ys ih =>
    rw [placeFromEnd]
    split
    · exact (ih.cons y).trans (.swap x y ys)
    · exact .refl _

private theorem foldl_placeFromEnd_perm (before : α → α → Bool) (xs placed : List α) :
    (xs.foldl (fun placed x => placeFromEnd before x placed) placed).Perm (xs ++ placed) := by
  induction xs generalizing placed with
  | nil => exact .refl _
  | cons x xs ih =>
    refine (ih _).trans ?_
    exact ((placeFromEnd_perm before x placed).append_left xs).trans List.perm_middle

theorem placeAll_perm (before : α → α → Bool) (placed xs : List α) :
    (placeAll before placed xs).Perm (placed ++ xs) := by
  rw [placeAll]
  refine (List.reverse_perm _).trans ((foldl_placeFromEnd_perm before xs _).trans ?_)
  exact List.perm_append_comm.trans ((List.reverse_perm placed).append_right xs)

/-- Sorting rearranges. -/
theorem sortBy_perm (before : α → α → Bool) (xs : List α) : (sortBy before xs).Perm xs :=
  placeAll_perm before [] xs

@[simp]
theorem mem_sortBy {before : α → α → Bool} {xs : List α} {x : α} :
    x ∈ sortBy before xs ↔ x ∈ xs :=
  (sortBy_perm before xs).mem_iff

/-! ## The result is in order -/

private theorem pairwise_placeFromEnd {before : α → α → Bool}
    (trans : ∀ x y z, before y x = false → before z y = false → before z x = false)
    (asymm : ∀ x y, before x y = true → before y x = false) {x : α} {ys : List α}
    (h : ys.Pairwise fun a b => before a b = false) :
    (placeFromEnd before x ys).Pairwise fun a b => before a b = false := by
  induction ys with
  | nil => simp [placeFromEnd]
  | cons y ys ih =>
    rw [List.pairwise_cons] at h
    rw [placeFromEnd]
    split
    · next hxy =>
      rw [List.pairwise_cons]
      refine ⟨fun z hz => ?_, ih h.2⟩
      rcases List.mem_cons.1 ((placeFromEnd_perm before x ys).mem_iff.1 hz) with rfl | hz
      · exact asymm z y hxy
      · exact h.1 z hz
    · next hxy =>
      have hxy : before x y = false := by simpa using hxy
      rw [List.pairwise_cons]
      refine ⟨fun z hz => ?_, List.pairwise_cons.2 h⟩
      rcases List.mem_cons.1 hz with rfl | hz
      · exact hxy
      · exact trans z y x (h.1 z hz) hxy

/-- Placing elements keeps the order of those placed before. -/
theorem pairwise_placeAll {before : α → α → Bool}
    (trans : ∀ x y z, before y x = false → before z y = false → before z x = false)
    (asymm : ∀ x y, before x y = true → before y x = false) {placed : List α} (xs : List α)
    (h : placed.Pairwise fun a b => before b a = false) :
    (placeAll before placed xs).Pairwise fun a b => before b a = false := by
  have : ∀ ys : List α, ys.Pairwise (fun a b => before a b = false) →
      (xs.foldl (fun placed x => placeFromEnd before x placed) ys).Pairwise
        fun a b => before a b = false := by
    induction xs with
    | nil => exact fun _ hy => hy
    | cons x xs ih => exact fun ys hy => ih _ (pairwise_placeFromEnd trans asymm hy)
  rw [placeAll, List.pairwise_reverse]
  exact this _ (List.pairwise_reverse.2 h)

/-- The result is in order when the comparison is one of a linear preorder: no element comes
before an earlier one. -/
theorem pairwise_sortBy {before : α → α → Bool}
    (trans : ∀ x y z, before y x = false → before z y = false → before z x = false)
    (asymm : ∀ x y, before x y = true → before y x = false) (xs : List α) :
    (sortBy before xs).Pairwise fun a b => before b a = false :=
  pairwise_placeAll trans asymm xs .nil

end Zettel
