import Zettel.Sorting.Merge

/-!
# Sorting many elements

A long list falls into runs: stretches that are in order already, stretches that are sorted on the
spot, or stretches that are left for later. Neighbouring runs are merged in a nearly balanced tree.
What was left for later is sorted by splitting around pivots, and if these keep being bad, by runs
again, sorted on the spot.

With the comparison of a linear preorder this is the order of `sortBy`. A comparison that is not
transitive has no right answer, and the one given is that of these steps. There may be none at all:
a stretch that is sorted on the spot is merged from both ends.

Main statement: `sortByRuns_perm`, nothing is lost.
-/

namespace Zettel

universe u

variable {α : Type u} {before : α → α → Bool}

/-- Neighbouring elements, and whether they are in order. -/
structure Run (α : Type u) where
  elements : List α
  isSorted : Bool

/-! ## Cutting into runs -/

/-- The elements that follow `x` as long as each is `ok` after the one before, and the rest. -/
def takeChain (ok : α → α → Bool) (x : α) : List α → List α × List α
  | [] => ([], [])
  | y :: ys =>
    if ok x y then
      let (chain, rest) := takeChain ok y ys
      (y :: chain, rest)
    else ([], y :: ys)

/-- The longest stretch at the front that is in order, or turned round if it is strictly falling,
and the rest. -/
def takeOrdered (before : α → α → Bool) : List α → List α × List α
  | x :: y :: ys =>
    if before y x then
      let (chain, rest) := takeChain (fun a b => before b a) y ys
      ((x :: y :: chain).reverse, rest)
    else
      let (chain, rest) := takeChain (fun a b => !before b a) y ys
      (x :: y :: chain, rest)
  | xs => (xs, [])

/-- How elements that are not in order are treated. -/
inductive RunMode where
  | sortNow
  | leaveLoose
  deriving DecidableEq, Repr

/-- The longest list that is sorted as few elements. -/
def fewest : Nat := 32

/-- The first run: a stretch in order if it has at least `good` elements. -/
def takeRun (before : α → α → Bool) (mode : RunMode) (good : Nat) (xs : List α) :
    Option (Run α × List α) :=
  let (ordered, rest) := takeOrdered before xs
  if good ≤ ordered.length then some (⟨ordered, true⟩, rest)
  else
    match mode with
    | .sortNow => return (⟨← sortFew before (xs.take fewest), true⟩, xs.drop fewest)
    | .leaveLoose => some (⟨xs.take good, false⟩, xs.drop good)

/-- All runs. There are at most `n` of them, or else the last one is all that is left. -/
def cutRuns (before : α → α → Bool) (mode : RunMode) (good : Nat) :
    Nat → List α → Option (List (Run α))
  | _, [] => some []
  | 0, xs => some [⟨xs, false⟩]
  | n + 1, xs => do
    let (run, rest) ← takeRun before mode good xs
    return run :: (← cutRuns before mode good n rest)

/-- How many elements in order, out of `n`, are worth a run of their own: half of them or 64, and
with many elements about the square root. -/
def goodRunLength (n : Nat) : Nat :=
  if n ≤ 64 * 64 then min (n - n / 2) 64
  else
    let shift := (1 + n.log2) / 2
    ((1 <<< shift) + (n >>> shift)) / 2

/-! ## Merging runs -/

/-- The elements in order. -/
def Run.settled (sortLoose : List α → Option (List α)) (r : Run α) : Option (List α) :=
  if r.isSorted then some r.elements else sortLoose r.elements

/-- Two neighbouring runs as one. Loose runs stay loose as long as they meet loose ones. -/
def Run.join (before : α → α → Bool) (sortLoose : List α → Option (List α)) (left right : Run α) :
    Option (Run α) :=
  if left.isSorted || right.isSorted then
    return ⟨mergeShorter before (← left.settled sortLoose) (← right.settled sortLoose), true⟩
  else some ⟨left.elements ++ right.elements, false⟩

/-- How deep in a nearly balanced tree over `n` elements the node lies that joins the run from
`start` to `middle` with the one from there to `stop`: the first binary digit in which the middles
of the two runs, as parts of the whole, are different. -/
def joinDepth (n start middle stop : Nat) : Nat :=
  let scale := ((1 <<< 62) + n - 1) / n
  let difference := (scale * (start + middle)) ^^^ (scale * (middle + stop))
  if difference = 0 then 64 else 63 - difference.log2

/-- Joins a run with waiting ones, the nearest of which comes first, as long as these lie at least
as deep as `depth`. -/
def joinWaiting (join : Run α → Run α → Option (Run α)) (depth : Nat) :
    List (Run α × Nat) → Run α → Option (List (Run α × Nat) × Run α)
  | [], run => some ([], run)
  | (left, d) :: waiting, run =>
    if depth ≤ d then do joinWaiting join depth waiting (← join left run)
    else some ((left, d) :: waiting, run)

/-- Joins all runs: those that wait, the one that ends at `middle`, and those that follow. -/
def joinRuns (join : Run α → Run α → Option (Run α)) (depth : Nat → Nat → Nat → Nat) :
    List (Run α × Nat) → Run α → Nat → List (Run α) → Option (Run α)
  | waiting, run, _, [] => return (← joinWaiting join 0 waiting run).2
  | waiting, run, middle, next :: runs => do
    let stop := middle + next.elements.length
    let d := depth (middle - run.elements.length) middle stop
    let (waiting, joined) ← joinWaiting join d waiting run
    joinRuns join depth ((joined, d) :: waiting) next stop runs

/-- Sorts by cutting into runs and joining them. -/
def sortInRuns (before : α → α → Bool) (mode : RunMode) (sortLoose : List α → Option (List α))
    (xs : List α) : Option (List α) := do
  match ← cutRuns before mode (goodRunLength xs.length) xs.length xs with
  | [] => return []
  | run :: runs =>
    let all ← joinRuns (Run.join before sortLoose) (joinDepth xs.length) [] run
      run.elements.length runs
    all.settled sortLoose

/-! ## Splitting around pivots -/

/-- The middle one of three elements. -/
def middleOf (before : α → α → Bool) (a b c : α) : α :=
  if before a b = before a c then
    if before b c = before a b then b else c
  else a

/-- An element near the middle in order: that of three among the `n` elements from `start` on, each
of which stands for those around it if there are many. -/
def pivotOf (before : α → α → Bool) (item : Nat → α) (start n : Nat) : α :=
  let step := n / 8
  if h : 8 ≤ step then
    middleOf before (pivotOf before item start step) (pivotOf before item (start + 4 * step) step)
      (pivotOf before item (start + 7 * step) step)
  else middleOf before (item start) (item (start + 4 * step)) (item (start + 7 * step))
termination_by n
decreasing_by all_goals (simp only [step] at h ⊢; omega)

/-- Sorts by splitting around pivots, at most `limit` times one within another. No element comes
before `bound`; if the pivot does not come after it either, or no element comes before the pivot,
those that are no different from the pivot are done. -/
def sortAroundPivots (before : α → α → Bool) :
    (limit : Nat) → (bound : Option α) → List α → Option (List α)
  | 0, _, xs =>
    if xs.length ≤ fewest then sortFew before xs
    else sortInRuns before .sortNow (fun ys => some (sortBy before ys)) xs
  | _ + 1, _, [] => some []
  | limit + 1, bound, x :: xs =>
    let all := x :: xs
    if all.length ≤ fewest then sortFew before all
    else
      let items := all.toArray
      let pivot := pivotOf before (fun i => items.getD i x) 0 all.length
      let (less, rest) := all.partition fun y => before y pivot
      if bound.any (fun b => !before b pivot) || less.isEmpty then
        let (same, more) := all.partition fun y => !before pivot y
        return same ++ (← sortAroundPivots before limit none more)
      else
        return (← sortAroundPivots before limit bound less) ++
          (← sortAroundPivots before limit (some pivot) rest)

/-- `xs` in the order of `before`, equal elements in the order in which they came; fast for long
lists. The sort may give up if `before` is no order. -/
def sortByRuns (before : α → α → Bool) (xs : List α) : Option (List α) :=
  if xs.length ≤ 20 then some (sortBy before xs)
  else
    let mode := if xs.length ≤ 2 * fewest then RunMode.sortNow else .leaveLoose
    sortInRuns before mode (fun ys => sortAroundPivots before (2 * ys.length.log2) none ys) xs

/-! ## Nothing is lost -/

theorem takeChain_append (ok : α → α → Bool) (x : α) (xs : List α) :
    (takeChain ok x xs).1 ++ (takeChain ok x xs).2 = xs := by
  induction xs generalizing x with
  | nil => rfl
  | cons y ys ih =>
    rw [takeChain]
    split
    · exact congrArg (y :: ·) (ih y)
    · rfl

theorem takeOrdered_perm (before : α → α → Bool) (xs : List α) :
    ((takeOrdered before xs).1 ++ (takeOrdered before xs).2).Perm xs := by
  rw [takeOrdered.eq_def]
  split
  · next x y ys =>
    split
    · refine ((List.reverse_perm _).append_right _).trans ?_
      simp only [List.cons_append, takeChain_append]
      exact .refl _
    · simp only [List.cons_append, takeChain_append]
      exact .refl _
  · simp

theorem takeRun_perm {mode : RunMode} {good : Nat} {xs rest : List α} {run : Run α}
    (h : takeRun before mode good xs = some (run, rest)) : (run.elements ++ rest).Perm xs := by
  unfold takeRun at h
  split at h
  next ordered rest' hxs =>
  split at h
  · cases h
    have := takeOrdered_perm before xs
    rwa [hxs] at this
  · cases mode with
    | sortNow =>
      obtain ⟨sorted, hsorted, h⟩ := Option.bind_eq_some_iff.1 h
      cases h
      refine ((sortFew_perm hsorted).append_right _).trans ?_
      rw [List.take_append_drop]
    | leaveLoose =>
      cases h
      simp

/-- The elements of some runs. -/
def elementsOf (runs : List (Run α)) : List α := runs.flatMap Run.elements

theorem cutRuns_perm {mode : RunMode} {good n : Nat} {xs : List α} {runs : List (Run α)}
    (h : cutRuns before mode good n xs = some runs) : (elementsOf runs).Perm xs := by
  induction n generalizing xs runs with
  | zero => cases xs <;> cases h <;> simp [elementsOf]
  | succ n ih =>
    cases xs with
    | nil =>
      cases h
      simp [elementsOf]
    | cons x xs =>
      obtain ⟨⟨run, rest⟩, hrun, h⟩ := Option.bind_eq_some_iff.1 h
      obtain ⟨runs, hruns, h⟩ := Option.bind_eq_some_iff.1 h
      cases h
      exact ((ih hruns).append_left _).trans (takeRun_perm hrun)

section Joining

variable {sortLoose : List α → Option (List α)}

theorem settled_perm (sort : ∀ {xs ys}, sortLoose xs = some ys → ys.Perm xs) {r : Run α}
    {xs : List α} (h : r.settled sortLoose = some xs) : xs.Perm r.elements := by
  rw [Run.settled] at h
  split at h
  · rw [Option.some.inj h]
  · exact sort h

theorem join_perm (sort : ∀ {xs ys}, sortLoose xs = some ys → ys.Perm xs) {left right run : Run α}
    (h : left.join before sortLoose right = some run) :
    run.elements.Perm (left.elements ++ right.elements) := by
  rw [Run.join] at h
  split at h
  · obtain ⟨ls, hl, h⟩ := Option.bind_eq_some_iff.1 h
    obtain ⟨rs, hr, h⟩ := Option.bind_eq_some_iff.1 h
    cases h
    exact (mergeShorter_perm before ls rs).trans
      ((settled_perm sort hl).append (settled_perm sort hr))
  · cases h
    exact .refl _

/-- The elements of the runs that wait, from the front on. -/
def waitingElements (waiting : List (Run α × Nat)) : List α :=
  elementsOf (waiting.reverse.map Prod.fst)

theorem waitingElements_cons (run : Run α) (d : Nat) (waiting : List (Run α × Nat)) :
    waitingElements ((run, d) :: waiting) = waitingElements waiting ++ run.elements := by
  simp [waitingElements, elementsOf]

variable {join : Run α → Run α → Option (Run α)} {waiting waiting' : List (Run α × Nat)}
  {run joined : Run α}

theorem joinWaiting_perm
    (hjoin : ∀ {l r j}, join l r = some j → j.elements.Perm (l.elements ++ r.elements)) {depth : Nat}
    (h : joinWaiting join depth waiting run = some (waiting', joined)) :
    (waitingElements waiting' ++ joined.elements).Perm
      (waitingElements waiting ++ run.elements) := by
  induction waiting generalizing run with
  | nil =>
    cases h
    exact .refl _
  | cons w waiting ih =>
    obtain ⟨left, d⟩ := w
    rw [joinWaiting] at h
    split at h
    · obtain ⟨both, hboth, h⟩ := Option.bind_eq_some_iff.1 h
      refine (ih h).trans (((hjoin hboth).append_left _).trans ?_)
      rw [waitingElements_cons, List.append_assoc]
    · cases h
      exact .refl _

theorem joinWaiting_zero (h : joinWaiting join 0 waiting run = some (waiting', joined)) :
    waiting' = [] := by
  induction waiting generalizing run with
  | nil =>
    cases h
    rfl
  | cons w waiting ih =>
    rw [joinWaiting, if_pos (Nat.zero_le _)] at h
    obtain ⟨both, -, h⟩ := Option.bind_eq_some_iff.1 h
    exact ih h

theorem joinRuns_perm
    (hjoin : ∀ {l r j}, join l r = some j → j.elements.Perm (l.elements ++ r.elements))
    {depth : Nat → Nat → Nat → Nat} {middle : Nat} {runs : List (Run α)}
    (h : joinRuns join depth waiting run middle runs = some joined) :
    joined.elements.Perm (waitingElements waiting ++ run.elements ++ elementsOf runs) := by
  induction runs generalizing waiting run middle with
  | nil =>
    obtain ⟨⟨waiting', all⟩, hall, h⟩ := Option.bind_eq_some_iff.1 h
    cases h
    have hperm := joinWaiting_perm hjoin hall
    rw [joinWaiting_zero hall] at hperm
    simpa [elementsOf, waitingElements] using hperm
  | cons next runs ih =>
    obtain ⟨⟨waiting', both⟩, hboth, h⟩ := Option.bind_eq_some_iff.1 h
    refine (ih h).trans ?_
    rw [waitingElements_cons]
    have hperm := (joinWaiting_perm hjoin hboth).append_right (next.elements ++ elementsOf runs)
    simpa [elementsOf, List.append_assoc] using hperm

end Joining

theorem sortInRuns_perm {mode : RunMode} {sortLoose : List α → Option (List α)}
    (sort : ∀ {xs ys}, sortLoose xs = some ys → ys.Perm xs) {xs sorted : List α}
    (h : sortInRuns before mode sortLoose xs = some sorted) : sorted.Perm xs := by
  obtain ⟨runs, hruns, h⟩ := Option.bind_eq_some_iff.1 h
  refine List.Perm.trans ?_ (cutRuns_perm hruns)
  cases runs with
  | nil =>
    cases h
    exact .refl _
  | cons run runs =>
    obtain ⟨all, hall, h⟩ := Option.bind_eq_some_iff.1 h
    exact (settled_perm sort h).trans (joinRuns_perm (join_perm sort) hall)

theorem sortAroundPivots_perm {limit : Nat} {bound : Option α} {xs sorted : List α}
    (h : sortAroundPivots before limit bound xs = some sorted) : sorted.Perm xs := by
  induction limit generalizing bound xs sorted with
  | zero =>
    rw [sortAroundPivots] at h
    split at h
    · exact sortFew_perm h
    · exact sortInRuns_perm (fun hys => Option.some.inj hys ▸ sortBy_perm before _) h
  | succ limit ih =>
    cases xs with
    | nil =>
      cases h
      exact .refl _
    | cons x xs =>
      unfold sortAroundPivots at h
      extract_lets all items pivot at h
      split at h
      · exact sortFew_perm h
      · simp only [List.partition_eq_filter_filter] at h
        split at h
        · obtain ⟨more, hmore, h⟩ := Option.bind_eq_some_iff.1 h
          cases h
          exact ((ih hmore).append_left _).trans (List.filter_append_perm _ all)
        · obtain ⟨less, hless, h⟩ := Option.bind_eq_some_iff.1 h
          obtain ⟨rest, hrest, h⟩ := Option.bind_eq_some_iff.1 h
          cases h
          exact ((ih hless).append (ih hrest)).trans (List.filter_append_perm _ all)

/-- Sorting rearranges. -/
theorem sortByRuns_perm {xs sorted : List α} (h : sortByRuns before xs = some sorted) :
    sorted.Perm xs := by
  rw [sortByRuns] at h
  split at h
  · rw [← Option.some.inj h]
    exact sortBy_perm before xs
  · exact sortInRuns_perm (fun hys => sortAroundPivots_perm hys) h

end Zettel
