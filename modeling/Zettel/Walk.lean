/-!
# Walks

Walks along the successors of a place, each place visited once. A walk is given how many places it
may visit, and the number of all places is always enough.

Main statements: `subset_depthFirst` and `subset_breadthFirst`, what has been visited stays visited.
-/

namespace Zettel

universe u

variable {α : Type u} [DecidableEq α]

/-- Visits the places on a stack and then everything that can be reached from them, a place before
its successors and these in order. Places that fail `isPlace` and places already `seen` are passed
over when they come to the top; the stack may hold a place several times. -/
def depthFirst (isPlace : α → Bool) (next : α → List α) : Nat → List α → List α → List α
  | 0, _, seen => seen
  | steps + 1, stack, seen =>
    match stack.dropWhile fun a => !isPlace a || seen.contains a with
    | [] => seen
    | a :: rest => depthFirst isPlace next steps (next a ++ rest) (seen ++ [a])

/-- The members of `xs` that are not in `seen`, each once, put at the end of `seen`. -/
def addNew (seen xs : List α) : List α :=
  xs.foldl (fun seen x => if seen.contains x then seen else seen ++ [x]) seen

/-- Visits places in rounds: a round adds the successors of the last round's places. -/
def breadthFirst (next : α → List α) : Nat → List α → List α → List α
  | 0, _, seen => seen
  | rounds + 1, last, seen =>
    let all := addNew seen (last.flatMap next)
    match all.drop seen.length with
    | [] => seen
    | new => breadthFirst next rounds new all

/-! ## What has been visited stays visited -/

theorem subset_addNew (seen xs : List α) : seen ⊆ addNew seen xs := by
  induction xs generalizing seen with
  | nil => exact fun _ h => h
  | cons x xs ih =>
    intro a ha
    rw [addNew, List.foldl_cons]
    refine ih _ ?_
    split
    · exact ha
    · exact List.mem_append_left _ ha

/-- `addNew` adds the members of `xs` and nothing else. -/
theorem mem_addNew {seen xs : List α} {a : α} : a ∈ addNew seen xs ↔ a ∈ seen ∨ a ∈ xs := by
  induction xs generalizing seen with
  | nil => simp [addNew]
  | cons x xs ih =>
    have : addNew seen (x :: xs) = addNew (if seen.contains x then seen else seen ++ [x]) xs := rfl
    rw [this, ih]
    by_cases hx : x ∈ seen
    · simp only [List.contains_iff_mem, hx, if_true, List.mem_cons]
      constructor
      · rintro (h | h) <;> simp [h]
      · rintro (h | rfl | h) <;> simp [*]
    · simp [hx, or_assoc]

theorem subset_depthFirst (isPlace : α → Bool) (next : α → List α) (steps : Nat)
    (stack seen : List α) : seen ⊆ depthFirst isPlace next steps stack seen := by
  induction steps generalizing stack seen with
  | zero => exact fun _ h => h
  | succ steps ih =>
    intro a ha
    rw [depthFirst]
    split
    · exact ha
    · exact ih _ _ (List.mem_append_left _ ha)

theorem subset_breadthFirst (next : α → List α) (rounds : Nat) (last seen : List α) :
    seen ⊆ breadthFirst next rounds last seen := by
  induction rounds generalizing last seen with
  | zero => exact fun _ h => h
  | succ rounds ih =>
    intro a ha
    simp only [breadthFirst]
    split
    · exact ha
    · exact ih _ _ (subset_addNew _ _ ha)

end Zettel
