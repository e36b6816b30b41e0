import Mathlib.Data.List.Chain
import Zettel.Sorting.InOrder

/-!
# Sorting and renaming

A sort looks at its elements only by comparing them. So it makes no difference whether the elements
are renamed before they are sorted or afterwards, as long as their names compare as they do. In
particular the comparison need not be one of a linear preorder everywhere: it is enough that it is
one among the elements that are sorted.

Main statements: `sortByRuns_map`, sorting after renaming, and `pairwise_sortByRuns_of_mem`, the
result is in order when the comparison is that of a linear preorder among the elements.
-/

namespace Zettel

universe u v

variable {α : Type u} {β : Type v} {before : α → α → Bool} {before' : β → β → Bool} {f : α → β}

/-- The names compare as the elements do. -/
def Renames (before : α → α → Bool) (before' : β → β → Bool) (f : α → β) : Prop :=
  ∀ x y, before' (f x) (f y) = before x y

/-! ## Placing -/

/-- An element goes to the same place under another name. -/
theorem placeFromEnd_map (h : Renames before before' f) (x : α) (ys : List α) :
    placeFromEnd before' (f x) (ys.map f) = (placeFromEnd before x ys).map f := by
  induction ys with
  | nil => rfl
  | cons y ys ih =>
    rw [List.map_cons, placeFromEnd, placeFromEnd, h x y, ih]
    split <;> rfl

theorem placeAll_map (h : Renames before before' f) (placed xs : List α) :
    placeAll before' (placed.map f) (xs.map f) = (placeAll before placed xs).map f := by
  rw [placeAll, placeAll, List.map_reverse, ← List.map_reverse]
  generalize placed.reverse = placed
  congr 1
  induction xs generalizing placed with
  | nil => rfl
  | cons x xs ih => rw [List.map_cons, List.foldl_cons, List.foldl_cons, placeFromEnd_map h, ih]

/-- Sorting by insertion compares only, so names do not matter to it. -/
theorem sortBy_map (h : Renames before before' f) (xs : List α) :
    sortBy before' (xs.map f) = (sortBy before xs).map f :=
  placeAll_map h [] xs

/-! ## Merging -/

theorem mergeFront_map (h : Renames before before' f) (left right : List α) :
    mergeFront before' (left.map f) (right.map f) = (mergeFront before left right).map f :=
  (List.map_merge fun x _ y _ => by rw [h y x]).symm

theorem mergeBack_map (h : Renames before before' f) (left right : List α) :
    mergeBack before' (left.map f) (right.map f) = (mergeBack before left right).map f := by
  rw [mergeBack, mergeBack, List.map_reverse, ← List.map_reverse, ← List.map_reverse]
  exact congrArg List.reverse (List.map_merge fun y _ x _ => by rw [h y x]).symm

/-- Names do not matter to a merge. -/
theorem mergeShorter_map (h : Renames before before' f) (left right : List α) :
    mergeShorter before' (left.map f) (right.map f) = (mergeShorter before left right).map f := by
  rw [mergeShorter, mergeShorter, List.length_map, List.length_map, mergeFront_map h,
    mergeBack_map h]
  split <;> rfl

/-- The same steps with the names. -/
def Taken.map (f : α → β) (t : Taken α) : Taken β :=
  ⟨t.taken.map f, t.first.map f, t.second.map f⟩

theorem takeMerged_map {le : α → α → Bool} {le' : β → β → Bool} (h : Renames le le' f) (n : Nat)
    (xs ys : List α) : takeMerged le' n (xs.map f) (ys.map f) = (takeMerged le n xs ys).map f := by
  fun_induction takeMerged le n xs ys with
  | case1 n x xs y ys hle ih =>
    rw [List.map_cons] at ih
    rw [List.map_cons, List.map_cons, takeMerged, h x y, if_pos hle, ih]
    rfl
  | case2 n x xs y ys hle ih =>
    rw [List.map_cons] at ih
    rw [List.map_cons, List.map_cons, takeMerged, h x y, if_neg hle, ih]
    rfl
  | case3 n x xs ih =>
    rw [List.map_nil] at ih
    rw [List.map_cons, List.map_nil, takeMerged, ih]
    rfl
  | case4 n y ys ih =>
    rw [List.map_nil] at ih
    rw [List.map_cons, List.map_nil, takeMerged, ih]
    rfl
  | case5 n xs ys h₁ h₂ h₃ =>
    match n, xs, ys with
    | 0, _, _ => rw [takeMerged.eq_def]; simp [Taken.map]
    | n + 1, [], [] => rfl
    | n + 1, x :: xs, y :: ys => exact absurd rfl (h₁ n x xs y ys rfl rfl)
    | n + 1, x :: xs, [] => exact absurd rfl (h₂ n x xs rfl rfl)
    | n + 1, [], y :: ys => exact absurd rfl (h₃ n y ys rfl rfl)

theorem mergeBothEnds_map (h : Renames before before' f) (left right : List α) :
    mergeBothEnds before' (left.map f) (right.map f) =
      (mergeBothEnds before left right).map (List.map f) := by
  have hfront : Renames (fun x y => !before y x) (fun x y => !before' y x) f :=
    fun x y => congrArg not (h y x)
  have hback : Renames (fun y x => !before y x) (fun y x => !before' y x) f :=
    fun y x => congrArg not (h y x)
  simp only [mergeBothEnds, ← List.map_reverse, List.length_map, takeMerged_map hfront,
    takeMerged_map hback, Taken.map]
  split <;> simp

/-! ## Few elements -/

theorem sortTwo_map (h : Renames before before' f) (x y : α) :
    sortTwo before' (f x) (f y) = (sortTwo before x y).map f := by
  rw [sortTwo, sortTwo, h y x]
  split <;> rfl

theorem sortFour_map (h : Renames before before' f) (w x y z : α) :
    sortFour before' (f w) (f x) (f y) (f z) = (sortFour before w x y z).map f := by
  have pair : ∀ p q : α, (if before' (f q) (f p) then (f q, f p) else (f p, f q)) =
      Prod.map f f (if before q p then (q, p) else (p, q)) := by
    intro p q
    rw [h q p]
    split <;> rfl
  rw [sortFour, sortFour, pair, pair]
  simp only [Prod.map, h _ _, sortTwo_map h]
  split <;> split <;> simp [apply_ite (List.map f)]

theorem sortFromFour_map (h : Renames before before' f) (xs : List α) :
    sortFromFour before' (xs.map f) = (sortFromFour before xs).map f := by
  match xs with
  | w :: x :: y :: z :: rest =>
    rw [sortFromFour, ← placeAll_map h, ← sortFour_map h]
    rfl
  | [] => rfl
  | [x] => exact sortBy_map h [x]
  | [x, y] => exact sortBy_map h [x, y]
  | [x, y, z] => exact sortBy_map h [x, y, z]

theorem sortFew_map (h : Renames before before' f) (xs : List α) :
    sortFew before' (xs.map f) = (sortFew before xs).map (List.map f) := by
  simp only [sortFew, List.length_map, ← List.map_take, ← List.map_drop]
  split
  · rfl
  · split
    · rw [sortBy_map h, sortBy_map h, mergeBothEnds_map h]
    · rw [sortFromFour_map h, sortFromFour_map h, mergeBothEnds_map h]

/-! ## Runs -/

theorem takeChain_map {ok : α → α → Bool} {ok' : β → β → Bool} (h : Renames ok ok' f) (x : α)
    (xs : List α) :
    takeChain ok' (f x) (xs.map f) = Prod.map (List.map f) (List.map f) (takeChain ok x xs) := by
  induction xs generalizing x with
  | nil => rfl
  | cons y ys ih =>
    rw [List.map_cons, takeChain, takeChain, h x y, ih]
    split <;> rfl

theorem takeOrdered_map (h : Renames before before' f) (xs : List α) :
    takeOrdered before' (xs.map f) =
      Prod.map (List.map f) (List.map f) (takeOrdered before xs) := by
  match xs with
  | x :: y :: ys =>
    have hfall : Renames (fun a b => before b a) (fun a b => before' b a) f := fun a b => h b a
    have hrise : Renames (fun a b => !before b a) (fun a b => !before' b a) f :=
      fun a b => congrArg not (h b a)
    simp only [List.map_cons, takeOrdered, h y x, takeChain_map hfall, takeChain_map hrise]
    split <;> simp
  | [] | [_] => rfl

/-- The run of the names. -/
def Run.map (f : α → β) (r : Run α) : Run β := ⟨r.elements.map f, r.isSorted⟩

theorem takeRun_map (h : Renames before before' f) (mode : RunMode) (good : Nat) (xs : List α) :
    takeRun before' mode good (xs.map f) =
      (takeRun before mode good xs).map (Prod.map (Run.map f) (List.map f)) := by
  unfold takeRun
  rw [takeOrdered_map h]
  simp only [Prod.map, List.length_map, ← List.map_take, ← List.map_drop, sortFew_map h]
  split
  · rfl
  · cases mode with
    | sortNow => cases sortFew before (xs.take fewest) <;> rfl
    | leaveLoose => rfl

theorem cutRuns_map (h : Renames before before' f) (mode : RunMode) (good n : Nat) (xs : List α) :
    cutRuns before' mode good n (xs.map f) =
      (cutRuns before mode good n xs).map (List.map (Run.map f)) := by
  induction n generalizing xs with
  | zero => cases xs <;> rfl
  | succ n ih =>
    cases xs with
    | nil => rfl
    | cons x xs =>
      have hrun := takeRun_map h mode good (x :: xs)
      rw [List.map_cons] at hrun ⊢
      rw [cutRuns, cutRuns, hrun]
      · cases takeRun before mode good (x :: xs) with
        | none => rfl
        | some cut =>
          have hrest := ih cut.2
          simp only [Option.map_some, Option.bind_eq_bind, Option.bind_some, Prod.map, hrest]
          cases cutRuns before mode good n cut.2 <;> rfl
      all_goals exact List.cons_ne_nil _ _

section Joining

variable {sortLoose : List α → Option (List α)} {sortLoose' : List β → Option (List β)}

/-- A run that is left to be sorted may be sorted under other names. -/
theorem settled_map (sort : ∀ xs, sortLoose' (xs.map f) = (sortLoose xs).map (List.map f))
    (r : Run α) : (r.map f).settled sortLoose' = (r.settled sortLoose).map (List.map f) := by
  rw [Run.settled, Run.settled, Run.map, sort]
  split <;> rfl

theorem join_map (h : Renames before before' f)
    (sort : ∀ xs, sortLoose' (xs.map f) = (sortLoose xs).map (List.map f)) (left right : Run α) :
    (left.map f).join before' sortLoose' (right.map f) =
      (left.join before sortLoose right).map (Run.map f) := by
  have hsorted : ∀ r : Run α, (r.map f).isSorted = r.isSorted := fun _ => rfl
  rw [Run.join, Run.join, settled_map sort, settled_map sort, hsorted, hsorted]
  split
  · cases left.settled sortLoose with
    | none => rfl
    | some ls =>
      cases right.settled sortLoose with
      | none => rfl
      | some rs =>
        exact congrArg (fun merged => some (Run.mk merged true)) (mergeShorter_map h ls rs)
  · simp [Run.map]

variable {join : Run α → Run α → Option (Run α)} {join' : Run β → Run β → Option (Run β)}

theorem joinWaiting_map
    (hjoin : ∀ left right, join' (left.map f) (right.map f) = (join left right).map (Run.map f))
    (depth : Nat) (waiting : List (Run α × Nat)) (run : Run α) :
    joinWaiting join' depth (waiting.map (Prod.map (Run.map f) id)) (run.map f) =
      (joinWaiting join depth waiting run).map
        (Prod.map (List.map (Prod.map (Run.map f) id)) (Run.map f)) := by
  induction waiting generalizing run with
  | nil => rfl
  | cons w waiting ih =>
    obtain ⟨left, d⟩ := w
    simp only [List.map_cons, Prod.map_apply, id, joinWaiting, hjoin]
    split
    · cases join left run with
      | none => rfl
      | some both => exact ih both
    · rfl

theorem joinRuns_map
    (hjoin : ∀ left right, join' (left.map f) (right.map f) = (join left right).map (Run.map f))
    (depth : Nat → Nat → Nat → Nat) (waiting : List (Run α × Nat)) (run : Run α) (middle : Nat)
    (runs : List (Run α)) :
    joinRuns join' depth (waiting.map (Prod.map (Run.map f) id)) (run.map f) middle
        (runs.map (Run.map f)) =
      (joinRuns join depth waiting run middle runs).map (Run.map f) := by
  induction runs generalizing waiting run middle with
  | nil =>
    rw [List.map_nil, joinRuns, joinRuns, joinWaiting_map hjoin]
    cases joinWaiting join 0 waiting run <;> rfl
  | cons next runs ih =>
    have hlength : ∀ r : Run α, (r.map f).elements.length = r.elements.length :=
      fun r => List.length_map f
    simp only [List.map_cons, joinRuns, hlength, joinWaiting_map hjoin]
    cases joinWaiting join (depth (middle - run.elements.length) middle
        (middle + next.elements.length)) waiting run with
    | none => rfl
    | some joined => exact ih ((joined.2, _) :: joined.1) next _

end Joining

theorem sortInRuns_map (h : Renames before before' f) (mode : RunMode)
    {sortLoose : List α → Option (List α)} {sortLoose' : List β → Option (List β)}
    (sort : ∀ xs, sortLoose' (xs.map f) = (sortLoose xs).map (List.map f)) (xs : List α) :
    sortInRuns before' mode sortLoose' (xs.map f) =
      (sortInRuns before mode sortLoose xs).map (List.map f) := by
  rw [sortInRuns, sortInRuns, List.length_map, cutRuns_map h]
  cases cutRuns before mode (goodRunLength xs.length) xs.length xs with
  | none => rfl
  | some runs =>
    cases runs with
    | nil => rfl
    | cons run runs =>
      have hjoined := joinRuns_map (join_map h sort) (joinDepth xs.length) [] run
        run.elements.length runs
      rw [List.map_nil] at hjoined
      simp only [Option.map_some, Option.bind_eq_bind, Option.bind_some, List.map_cons, Run.map,
        List.length_map] at hjoined ⊢
      rw [hjoined]
      cases joinRuns (Run.join before sortLoose) (joinDepth xs.length) [] run
          run.elements.length runs with
      | none => rfl
      | some all => exact settled_map sort all

/-! ## Pivots -/

/-- The middle one of three is the same under another name. -/
theorem middleOf_map (h : Renames before before' f) (a b c : α) :
    middleOf before' (f a) (f b) (f c) = f (middleOf before a b c) := by
  simp only [middleOf, h _ _]
  split
  · split <;> rfl
  · rfl

theorem pivotOf_map (h : Renames before before' f) {item : Nat → α} {item' : Nat → β}
    (hitem : ∀ i, item' i = f (item i)) (start n : Nat) :
    pivotOf before' item' start n = f (pivotOf before item start n) := by
  fun_induction pivotOf before item start n with
  | case1 start n step hstep ih₁ ih₂ ih₃ =>
    rw [pivotOf, dif_pos hstep, ih₁, ih₂, ih₃, middleOf_map h]
  | case2 start n step hstep =>
    rw [pivotOf, dif_neg hstep, hitem, hitem, hitem, middleOf_map h]

/-- The pivot of a list, where `x` stands for what is beyond its end. -/
theorem pivotOf_toArray_map (h : Renames before before' f) (x : α) (xs : List α) :
    pivotOf before' (fun i => (xs.map f).toArray.getD i (f x)) 0 (xs.map f).length =
      f (pivotOf before (fun i => xs.toArray.getD i x) 0 xs.length) := by
  rw [List.length_map]
  refine pivotOf_map h (fun i => ?_) 0 xs.length
  simp

theorem partition_map {p : α → Bool} {q : β → Bool} (h : ∀ x, q (f x) = p x) (xs : List α) :
    (xs.map f).partition q = Prod.map (List.map f) (List.map f) (xs.partition p) := by
  obtain rfl : q ∘ f = p := funext h
  simp only [List.partition_eq_filter_filter, List.filter_map, Prod.map]
  rfl

theorem sortAroundPivots_map (h : Renames before before' f) (limit : Nat) (bound : Option α)
    (xs : List α) : sortAroundPivots before' limit (bound.map f) (xs.map f) =
      (sortAroundPivots before limit bound xs).map (List.map f) := by
  induction limit generalizing bound xs with
  | zero =>
    have hplaced : ∀ ys : List α,
        some (sortBy before' (ys.map f)) = (some (sortBy before ys)).map (List.map f) :=
      fun ys => congrArg some (sortBy_map h ys)
    rw [sortAroundPivots, sortAroundPivots, List.length_map, sortFew_map h,
      sortInRuns_map h .sortNow hplaced]
    split <;> rfl
  | succ limit ih =>
    cases xs with
    | nil => rfl
    | cons x xs =>
      rw [List.map_cons]
      unfold sortAroundPivots
      extract_lets all' items' pivot' all items pivot
      have hall : all' = all.map f := rfl
      have hpivot : pivot' = f pivot := pivotOf_toArray_map h x all
      have hbound : (bound.map f).any (fun b => !before' b (f pivot)) =
          bound.any fun b => !before b pivot := by
        cases bound with
        | none => rfl
        | some b => exact congrArg not (h b pivot)
      rw [hall, hpivot, hbound, List.length_map, sortFew_map h,
        partition_map (p := fun y => before y pivot) (q := fun y => before' y (f pivot))
          fun y => h y pivot,
        partition_map (p := fun y => !before pivot y) (q := fun y => !before' (f pivot) y)
          fun y => congrArg not (h pivot y)]
      generalize all.partition (fun y => before y pivot) = around
      generalize all.partition (fun y => !before pivot y) = equal
      simp only [Prod.map, List.isEmpty_map]
      split
      · rfl
      · split
        · have hmore := ih none equal.2
          rw [Option.map_none] at hmore
          rw [hmore]
          cases sortAroundPivots before limit none equal.2 with
          | none => rfl
          | some more => exact congrArg some List.map_append.symm
        · have hrest := ih (some pivot) around.2
          rw [Option.map_some] at hrest
          rw [ih bound, hrest]
          cases sortAroundPivots before limit bound around.1 with
          | none => rfl
          | some less =>
            cases sortAroundPivots before limit (some pivot) around.2 with
            | none => rfl
            | some rest => exact congrArg some List.map_append.symm

/-- **Elements may be renamed before or after they are sorted.** -/
theorem sortByRuns_map (h : Renames before before' f) (xs : List α) :
    sortByRuns before' (xs.map f) = (sortByRuns before xs).map (List.map f) := by
  rw [sortByRuns, sortByRuns, List.length_map]
  split
  · rw [sortBy_map h]
    rfl
  · refine sortInRuns_map h _ (fun ys => ?_) xs
    rw [List.length_map]
    exact sortAroundPivots_map h _ none ys

/-! ## Elements of a linear preorder -/

/-- There is a result, and it is in order, when the comparison is that of a linear preorder among
the elements, whatever it is elsewhere. -/
theorem pairwise_sortByRuns_of_mem {xs : List α}
    (trans : ∀ x ∈ xs, ∀ y ∈ xs, ∀ z ∈ xs,
      before y x = false → before z y = false → before z x = false)
    (asymm : ∀ x ∈ xs, ∀ y ∈ xs, before x y = true → before y x = false) :
    ∃ sorted, sortByRuns before xs = some sorted ∧ InOrder before sorted := by
  have hlinear : IsLinear fun x y : { x // x ∈ xs } => before x y :=
    ⟨fun x y z => trans x x.2 y y.2 z z.2, fun x y => asymm x x.2 y y.2⟩
  obtain ⟨sorted, hsorted, horder⟩ := pairwise_sortByRuns hlinear xs.attach
  have hnames : Renames (fun x y : { x // x ∈ xs } => before x y) before Subtype.val :=
    fun _ _ => rfl
  have hmap := sortByRuns_map hnames xs.attach
  rw [List.attach_map_subtype_val, hsorted] at hmap
  exact ⟨_, hmap, List.pairwise_map.2 horder⟩

private theorem foldl_placeFromEnd_of_isChain {x : α} {xs : List α}
    (h : (x :: xs).IsChain fun x y => before y x = false) (placed : List α) :
    xs.foldl (fun placed x => placeFromEnd before x placed) (x :: placed) =
      xs.reverse ++ x :: placed := by
  induction xs generalizing x placed with
  | nil => rfl
  | cons y xs ih =>
    obtain ⟨hyx, h⟩ := List.isChain_cons_cons.1 h
    rw [List.foldl_cons, placeFromEnd, if_neg (by simp [hyx]), ih h, List.reverse_cons,
      List.append_assoc]
    rfl

/-- Few elements are left as they are if none comes before the one in front of it. -/
theorem sortByRuns_of_isChain {xs : List α} (hfew : xs.length ≤ 20)
    (h : xs.IsChain fun x y => before y x = false) : sortByRuns before xs = some xs := by
  rw [sortByRuns, if_pos hfew, sortBy, placeAll]
  cases xs with
  | nil => rfl
  | cons x xs =>
    rw [List.reverse_nil, List.foldl_cons, placeFromEnd, foldl_placeFromEnd_of_isChain h]
    simp

end Zettel
