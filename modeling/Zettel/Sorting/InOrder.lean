import Zettel.Sorting.Runs

/-!
# The order of sorted lists

Every way of merging and sorting gives a list in order when the comparison is one of a linear
preorder: when "not before" is transitive, and of two elements at most one comes before the other.

Main statements: `inOrder_mergeFront`, `inOrder_mergeBack`, `exists_mergeBothEnds`, a merge from both
ends does not give up, and `pairwise_sortByRuns`, neither does `sortByRuns`, and its result is in
order.
-/

namespace Zettel

universe u

variable {α : Type u} {before : α → α → Bool}

/-- No element comes before an earlier one. -/
def InOrder (before : α → α → Bool) (xs : List α) : Prop :=
  xs.Pairwise fun x y => before y x = false

/-- The comparison is one of a linear preorder. -/
structure IsLinear (before : α → α → Bool) : Prop where
  trans : ∀ x y z, before y x = false → before z y = false → before z x = false
  asymm : ∀ x y, before x y = true → before y x = false

/-- Two parts are in order if each is, and nothing of the second comes before anything of the
first. -/
theorem inOrder_append {xs ys : List α} :
    InOrder before (xs ++ ys) ↔
      InOrder before xs ∧ InOrder before ys ∧ ∀ x ∈ xs, ∀ y ∈ ys, before y x = false :=
  List.pairwise_append

theorem inOrder_of_length_le_one {xs : List α} (h : xs.length ≤ 1) : InOrder before xs := by
  cases xs with
  | nil => exact .nil
  | cons x xs =>
    cases xs with
    | nil => exact List.pairwise_singleton _ x
    | cons y ys => simp at h

/-- Backwards, it is the earlier ones that must not come before. -/
theorem inOrder_reverse {xs : List α} :
    InOrder before xs.reverse ↔ xs.Pairwise fun x y => before x y = false :=
  List.pairwise_reverse

/-! ## Merging -/

theorem inOrder_iff {xs : List α} :
    InOrder before xs ↔ xs.Pairwise fun x y => (!before y x) = true := by
  simp [InOrder]

/-- Not to come after is an order, as library lemmas on merging ask for it. -/
theorem IsLinear.forward_trans (h : IsLinear before) (x y z : α)
    (hxy : (!before y x) = true) (hyz : (!before z y) = true) : (!before z x) = true := by
  have := h.trans x y z
  simp_all

theorem IsLinear.forward_total (h : IsLinear before) (x y : α) :
    (!before y x || !before x y) = true := by
  cases hyx : before y x with
  | false => rfl
  | true => simp [h.asymm y x hyx]

/-- The same for the order turned round, which a merge from the back follows. -/
theorem IsLinear.backward_trans (h : IsLinear before) (x y z : α)
    (hxy : (!before x y) = true) (hyz : (!before y z) = true) : (!before x z) = true :=
  h.forward_trans z y x hyz hxy

theorem IsLinear.backward_total (h : IsLinear before) (x y : α) :
    (!before x y || !before y x) = true :=
  h.forward_total y x

/-- Merging from the front keeps two parts in order. -/
theorem inOrder_mergeFront (h : IsLinear before) {left right : List α}
    (hl : InOrder before left) (hr : InOrder before right) :
    InOrder before (mergeFront before left right) := by
  rw [inOrder_iff] at *
  exact List.pairwise_merge h.forward_trans h.forward_total left right hl hr

/-- So does merging from the back. -/
theorem inOrder_mergeBack (h : IsLinear before) {left right : List α}
    (hl : InOrder before left) (hr : InOrder before right) :
    InOrder before (mergeBack before left right) := by
  rw [inOrder_iff] at *
  rw [mergeBack, List.pairwise_reverse]
  exact List.pairwise_merge h.backward_trans h.backward_total _ _ (List.pairwise_reverse.2 hr)
    (List.pairwise_reverse.2 hl)

/-- Which end a merge begins at makes no difference to this. -/
theorem inOrder_mergeShorter (h : IsLinear before) {left right : List α}
    (hl : InOrder before left) (hr : InOrder before right) :
    InOrder before (mergeShorter before left right) := by
  rw [mergeShorter]
  split
  · exact inOrder_mergeFront h hl hr
  · exact inOrder_mergeBack h hl hr

/-- The first steps of a merge take elements in order, and none that is left goes before them. -/
theorem pairwise_takeMerged {le : α → α → Bool} (trans : ∀ x y z, le x y → le y z → le x z)
    (total : ∀ x y, le x y || le y x) (n : Nat) {xs ys : List α}
    (hx : xs.Pairwise fun x y => le x y = true) (hy : ys.Pairwise fun x y => le x y = true) :
    (takeMerged le n xs ys).taken.Pairwise (fun x y => le x y = true) ∧
      ∀ x ∈ (takeMerged le n xs ys).taken, ∀ y,
        y ∈ (takeMerged le n xs ys).first ∨ y ∈ (takeMerged le n xs ys).second → le x y = true := by
  have hmerge := List.pairwise_merge trans total xs ys hx hy
  rw [← takeMerged_append le n, List.pairwise_append] at hmerge
  exact ⟨hmerge.1, fun x hx y hy => hmerge.2.2 x hx y (List.mem_merge.2 hy)⟩

/-- An element of the second list is only taken before those of the first that do not go before
it. -/
theorem exists_takeMerged_strict {le : α → α → Bool} (trans : ∀ x y z, le x y → le y z → le x z)
    (n : Nat) {xs : List α} (hx : xs.Pairwise fun x y => le x y = true) (ys : List α) :
    ∃ py, ys = py ++ (takeMerged le n xs ys).second ∧
      ∀ y ∈ py, ∀ x ∈ (takeMerged le n xs ys).first, le x y = false := by
  fun_induction takeMerged le n xs ys with
  | case1 n x xs y ys h ih => exact ih (List.pairwise_cons.1 hx).2
  | case2 n x xs y ys h ih =>
    obtain ⟨py, hys, hpy⟩ := ih hx
    refine ⟨y :: py, congrArg (y :: ·) hys, List.forall_mem_cons.2 ⟨fun x' hx' => ?_, hpy⟩⟩
    cases hle : le x' y with
    | false => rfl
    | true =>
      have hmem : x' ∈ x :: xs := by
        obtain ⟨px, -, hxs, -, -⟩ := exists_takeMerged le n (x :: xs) ys
        rw [hxs]
        exact List.mem_append_right px hx'
      rcases List.mem_cons.1 hmem with rfl | hmem
      · exact absurd hle h
      · exact absurd (trans x x' y ((List.pairwise_cons.1 hx).1 x' hmem) hle) h
  | case3 n x xs ih => exact ih (List.pairwise_cons.1 hx).2
  | case4 n y ys ih =>
    obtain ⟨py, hys, hpy⟩ := ih hx
    refine ⟨y :: py, congrArg (y :: ·) hys, List.forall_mem_cons.2 ⟨fun x' hx' => ?_, hpy⟩⟩
    obtain ⟨px, -, hxs, -, -⟩ := exists_takeMerged le n [] ys
    have hnil := (List.append_eq_nil_iff.1 hxs.symm).2
    exact absurd (hnil ▸ hx' : x' ∈ []) List.not_mem_nil
  | case5 => exact ⟨[], rfl, by simp⟩

/-- What is taken of a list from the front and what is taken from the back overlaps if it is too
much. -/
theorem exists_mem_of_length_lt {xs fs us bs vs : List α} (hf : xs = fs ++ us)
    (hb : xs.reverse = bs ++ vs) (h : xs.length < fs.length + bs.length) : ∃ x, x ∈ fs ∧ x ∈ bs := by
  have hboth : fs ++ us = vs.reverse ++ bs.reverse := by
    rw [← hf, ← List.reverse_append, ← hb, List.reverse_reverse]
  have hlen := congrArg List.length hb
  rw [List.length_reverse, List.length_append] at hlen
  rcases List.append_eq_append_iff.1 hboth with ⟨m, hvs, -⟩ | ⟨m, hfs, hbs⟩
  · have hvs := congrArg List.length hvs
    rw [List.length_reverse, List.length_append] at hvs
    omega
  · have hpos : 0 < m.length := by
      rw [hfs, List.length_append, List.length_reverse] at h
      omega
    obtain ⟨x, hx⟩ := List.exists_mem_of_length_pos hpos
    refine ⟨x, ?_, List.mem_reverse.1 ?_⟩
    · rw [hfs]
      exact List.mem_append_right _ hx
    · rw [hbs]
      exact List.mem_append_left _ hx

/-- What is taken of two lists in order, and how it stands to what is left of the other list. -/
theorem exists_takeMerged_cross {le : α → α → Bool}
    (trans : ∀ x y z, le x y → le y z → le x z) (total : ∀ x y, le x y || le y x) (n : Nat)
    {xs ys : List α} (hx : xs.Pairwise fun x y => le x y = true)
    (hy : ys.Pairwise fun x y => le x y = true) :
    ∃ px py, xs = px ++ (takeMerged le n xs ys).first ∧ ys = py ++ (takeMerged le n xs ys).second ∧
      px.length + py.length = min n (xs.length + ys.length) ∧
      (∀ x ∈ px, ∀ y ∈ (takeMerged le n xs ys).second, le x y = true) ∧
      ∀ y ∈ py, ∀ x ∈ (takeMerged le n xs ys).first, le x y = false := by
  obtain ⟨px, py, hpx, hpy, hperm⟩ := exists_takeMerged le n xs ys
  obtain ⟨py', hpy', hstrict⟩ := exists_takeMerged_strict trans n hx ys
  obtain rfl : py = py' := List.append_cancel_right (hpy.symm.trans hpy')
  refine ⟨px, py, hpx, hpy, ?_, fun x hxp y hys => ?_, hstrict⟩
  · rw [← List.length_append, ← hperm.length_eq, length_takeMerged]
  · exact (pairwise_takeMerged trans total n hx hy).2 x
      (hperm.mem_iff.2 (List.mem_append_left py hxp)) y (Or.inr hys)

/-- If too much is taken of one list, something of the other one is left by both ends. -/
theorem length_le_of_disjoint {xs ys fx ux bx vx fy uy dy vy : List α} (hfx : xs = fx ++ ux)
    (hbx : xs.reverse = bx ++ vx) (hfy : ys = fy ++ uy) (hby : ys.reverse = dy ++ vy)
    (hcount : fx.length + fy.length + (bx.length + dy.length) ≤ xs.length + ys.length)
    (hdisjoint : ∀ x ∈ fx, x ∈ bx → ∀ y ∈ uy, y ∉ vy) : xs.length ≤ ux.length + vx.length := by
  have hx := congrArg List.length hfx
  have hx' := congrArg List.length hbx
  have hy := congrArg List.length hfy
  have hy' := congrArg List.length hby
  rw [List.length_append] at hx hy
  rw [List.length_reverse, List.length_append] at hx' hy'
  refine Nat.le_of_not_lt fun hlt => ?_
  obtain ⟨x, hxf, hxb⟩ := exists_mem_of_length_lt hfx hbx (by omega)
  have hfy' : ys.reverse = uy.reverse ++ fy.reverse := by rw [hfy, List.reverse_append]
  have hby' : ys.reverse.reverse = vy.reverse ++ dy.reverse := by rw [hby, List.reverse_append]
  obtain ⟨y, hyf, hyb⟩ := exists_mem_of_length_lt hfy' hby'
    (by simp only [List.length_reverse]; omega)
  exact hdisjoint x hxf hxb y (List.mem_reverse.1 hyf) (List.mem_reverse.1 hyb)

/-- Of lists in order, no element is taken from the front and from the back. -/
theorem exists_mergeBothEnds (h : IsLinear before) {left right : List α}
    (hl : InOrder before left) (hr : InOrder before right) :
    ∃ merged, mergeBothEnds before left right = some merged := by
  obtain ⟨fl, fr, hfl, hfr, hfront, hfront₁, hfront₂⟩ := exists_takeMerged_cross h.forward_trans
    h.forward_total ((left.length + right.length) / 2) (inOrder_iff.1 hl) (inOrder_iff.1 hr)
  obtain ⟨br, bl, hbr, hbl, hback, hback₁, hback₂⟩ := exists_takeMerged_cross h.backward_trans
    h.backward_total ((left.length + right.length) / 2) (List.pairwise_reverse.2 (inOrder_iff.1 hr))
    (List.pairwise_reverse.2 (inOrder_iff.1 hl))
  refine ⟨_, if_pos ⟨length_le_of_disjoint hfl hbl hfr hbr (by omega) ?_,
    length_le_of_disjoint hfr hbr hfl hbl (by omega) ?_⟩⟩
  -- what the front takes before `y`, the back takes after it, and the other way round
  · intro x hxf hxb y hyf hyb
    exact absurd ((hfront₁ x hxf y hyf).symm.trans (hback₂ x hxb y hyb)) (by simp)
  · intro y hyf hyb x hxf hxb
    exact absurd ((hback₁ y hyb x hxb).symm.trans (hfront₂ y hyf x hxf)) (by simp)

theorem inOrder_mergeBothEnds (h : IsLinear before) {left right merged : List α}
    (hl : InOrder before left) (hr : InOrder before right)
    (hmerged : mergeBothEnds before left right = some merged) : InOrder before merged := by
  obtain ⟨fl, ml, bl, fr, mr, br, hleft, hright, hfirst, hsecond, hfront, hbl, hbr, hback, rfl⟩ :=
    exists_of_mergeBothEnds hmerged
  obtain ⟨hfront₁, hfront₂⟩ := pairwise_takeMerged h.forward_trans h.forward_total
    ((left.length + right.length) / 2) (inOrder_iff.1 hl) (inOrder_iff.1 hr)
  obtain ⟨hback₁, hback₂⟩ := pairwise_takeMerged h.backward_trans h.backward_total
    ((left.length + right.length) / 2) (List.pairwise_reverse.2 (inOrder_iff.1 hr))
    (List.pairwise_reverse.2 (inOrder_iff.1 hl))
  rw [hfirst, hsecond] at hfront₂
  have hshort : (ml ++ mr).length ≤ 1 := by
    have h₁ := length_takeMerged (fun x y => !before y x) ((left.length + right.length) / 2)
      left right
    have h₂ := length_takeMerged (fun y x => !before y x) ((left.length + right.length) / 2)
      right.reverse left.reverse
    have h₃ := (mergeBothEnds_perm hmerged).length_eq
    simp only [List.length_append, List.length_reverse] at h₁ h₂ h₃ ⊢
    omega
  have hlast : ∀ x ∈ ml ++ mr, ∀ y ∈ bl ++ br, before y x = false := by
    intro x hx y hy
    have hleft : x ∈ _ ∨ x ∈ _ := (List.mem_append.1 hx).symm.imp
      (fun hx => List.mem_reverse.1 (hbr ▸ List.mem_append_right fr hx))
      (fun hx => List.mem_reverse.1 (hbl ▸ List.mem_append_right fl hx))
    simpa using hback₂ y (List.mem_reverse.1 (hback.mem_iff.2 hy)) x hleft
  rw [List.append_assoc, inOrder_append, inOrder_append]
  refine ⟨inOrder_iff.2 hfront₁, ⟨inOrder_of_length_le_one hshort,
    inOrder_iff.2 (List.pairwise_reverse.2 hback₁), ?_⟩, ?_⟩
  · exact fun x hx y hy => hlast x hx y (hback.mem_iff.1 hy)
  · intro x hx y hy
    rw [List.mem_append, hback.mem_iff] at hy
    have := hfront₂ x hx y (by simpa [or_comm, or_assoc, or_left_comm] using hy)
    simpa using this

/-! ## Few elements -/

theorem inOrder_sortTwo (h : IsLinear before) (x y : α) : InOrder before (sortTwo before x y) := by
  rw [sortTwo]
  split
  · next hyx => simpa [InOrder] using h.asymm y x hyx
  · next hyx => simpa [InOrder] using hyx

/-- Two elements in order between a first and a last one. -/
private theorem inOrder_between (h : IsLinear before) {p x y q : α} (hpx : before x p = false)
    (hpy : before y p = false) (hxq : before q x = false) (hyq : before q y = false) :
    InOrder before (p :: (sortTwo before x y ++ [q])) := by
  have hmem : ∀ z ∈ sortTwo before x y, z = x ∨ z = y := by
    intro z hz
    simpa using (sortTwo_perm before x y).mem_iff.1 hz
  refine List.pairwise_cons.2 ⟨fun z hz => ?_, inOrder_append.2
    ⟨inOrder_sortTwo h x y, List.pairwise_singleton _ q, fun z hz w hw => ?_⟩⟩
  · rcases List.mem_append.1 hz with hz | hz
    · rcases hmem z hz with rfl | rfl
      · exact hpx
      · exact hpy
    · rw [List.mem_singleton.1 hz]
      exact h.trans p x q hpx hxq
  · rw [List.mem_singleton.1 hw]
    rcases hmem z hz with rfl | rfl
    · exact hxq
    · exact hyq

theorem inOrder_sortFour (h : IsLinear before) (w x y z : α) :
    InOrder before (sortFour before w x y z) := by
  have pair : ∀ p q a b : α, (if before q p then (q, p) else (p, q)) = (a, b) →
      before b a = false := by
    intro p q a b hab
    split at hab <;> cases hab
    · next hqp => exact h.asymm _ _ hqp
    · next hqp => simpa using hqp
  rw [sortFour]
  split
  next a b hab =>
  split
  next c d hcd =>
  have hab := pair w x a b hab
  have hcd := pair y z c d hcd
  split
  · next hca =>
    have hca := h.asymm c a hca
    split
    · next hdb => exact inOrder_between h hca hcd hab (h.asymm d b hdb)
    · next hdb =>
      have hdb : before d b = false := by simpa using hdb
      exact inOrder_between h hca (h.trans c a b hca hab) (h.trans a b d hab hdb) hdb
  · next hca =>
    have hca : before c a = false := by simpa using hca
    split
    · next hdb =>
      have hdb := h.asymm d b hdb
      exact inOrder_between h hca (h.trans a c d hca hcd) (h.trans c d b hcd hdb) hdb
    · next hdb => exact inOrder_between h hab hca (by simpa using hdb) hcd

theorem inOrder_sortFromFour (h : IsLinear before) (xs : List α) :
    InOrder before (sortFromFour before xs) := by
  rw [sortFromFour.eq_def]
  split
  · exact pairwise_placeAll h.trans h.asymm _ (inOrder_sortFour h _ _ _ _)
  · exact pairwise_sortBy h.trans h.asymm _

theorem inOrder_sortFew (h : IsLinear before) (xs : List α) :
    ∃ sorted, sortFew before xs = some sorted ∧ InOrder before sorted := by
  unfold sortFew
  split
  · exact ⟨xs, rfl, inOrder_of_length_le_one (by omega)⟩
  · extract_lets half sort
    have hsort : ∀ ys : List α, InOrder before (sort ys) := by
      intro ys
      simp only [sort]
      split
      · exact pairwise_sortBy h.trans h.asymm ys
      · exact inOrder_sortFromFour h ys
    obtain ⟨merged, hmerged⟩ := exists_mergeBothEnds h (hsort (xs.take half)) (hsort (xs.drop half))
    exact ⟨merged, hmerged, inOrder_mergeBothEnds h (hsort _) (hsort _) hmerged⟩

/-! ## Runs -/

theorem pairwise_takeChain (ok : α → α → Bool) (trans : ∀ x y z, ok x y → ok y z → ok x z)
    (x : α) (xs : List α) : (x :: (takeChain ok x xs).1).Pairwise fun a b => ok a b = true := by
  induction xs generalizing x with
  | nil => exact List.pairwise_singleton _ x
  | cons y ys ih =>
    rw [takeChain]
    split
    · next hxy =>
      refine List.pairwise_cons.2 ⟨fun z hz => ?_, ih y⟩
      rcases List.mem_cons.1 hz with rfl | hz
      · exact hxy
      · exact trans x y z hxy ((List.pairwise_cons.1 (ih y)).1 z hz)
    · exact List.pairwise_singleton _ x

theorem inOrder_takeOrdered (h : IsLinear before) (xs : List α) :
    InOrder before (takeOrdered before xs).1 := by
  rw [takeOrdered.eq_def]
  split
  · next x y ys =>
    split
    · next hyx =>
      have hchain := pairwise_takeChain (fun a b => before b a) (fun a b c hba hcb => ?_) x
        (y :: ys)
      · rw [takeChain, if_pos hyx] at hchain
        refine inOrder_reverse.2 (hchain.imp fun {a b} hba => h.asymm b a hba)
      · cases hca : before c a with
        | true => rfl
        | false =>
          have := h.trans b a c (h.asymm b a hba) hca
          rw [this] at hcb
          cases hcb
    · next hyx =>
      have hchain := pairwise_takeChain (fun a b => !before b a) h.forward_trans x (y :: ys)
      rw [takeChain, if_pos (by simpa using hyx)] at hchain
      exact inOrder_iff.2 hchain
  · next hshort =>
    cases xs with
    | nil => exact .nil
    | cons x xs =>
      cases xs with
      | nil => exact List.pairwise_singleton _ x
      | cons y ys => exact absurd rfl (hshort x y ys)

/-- A run that is said to be in order is in order. -/
def Run.IsHonest (before : α → α → Bool) (r : Run α) : Prop :=
  r.isSorted = true → InOrder before r.elements

theorem isHonest_takeRun (h : IsLinear before) (mode : RunMode) (good : Nat) (xs : List α) :
    ∃ run rest, takeRun before mode good xs = some (run, rest) ∧ run.IsHonest before := by
  unfold takeRun
  split
  next ordered rest hxs =>
  split
  · have := inOrder_takeOrdered h xs
    rw [hxs] at this
    exact ⟨_, _, rfl, fun _ => this⟩
  · cases mode with
    | sortNow =>
      obtain ⟨sorted, hsorted, horder⟩ := inOrder_sortFew h (xs.take fewest)
      dsimp only
      rw [hsorted]
      exact ⟨_, _, rfl, fun _ => horder⟩
    | leaveLoose => exact ⟨_, _, rfl, fun hs => absurd hs Bool.false_ne_true⟩

theorem isHonest_cutRuns (h : IsLinear before) (mode : RunMode) (good n : Nat) (xs : List α) :
    ∃ runs, cutRuns before mode good n xs = some runs ∧ ∀ r ∈ runs, r.IsHonest before := by
  induction n generalizing xs with
  | zero =>
    cases xs with
    | nil => exact ⟨[], rfl, by simp⟩
    | cons x xs => exact ⟨_, rfl, by simp [Run.IsHonest]⟩
  | succ n ih =>
    cases xs with
    | nil => exact ⟨[], rfl, by simp⟩
    | cons x xs =>
      obtain ⟨run, rest, hrun, hhonest⟩ := isHonest_takeRun h mode good (x :: xs)
      obtain ⟨runs, hruns, hall⟩ := ih rest
      rw [cutRuns, hrun]
      · exact ⟨run :: runs, by simp [hruns], List.forall_mem_cons.2 ⟨hhonest, hall⟩⟩
      · simp

section Joining

variable {sortLoose : List α → Option (List α)}

theorem inOrder_settled
    (sort : ∀ xs, ∃ sorted, sortLoose xs = some sorted ∧ InOrder before sorted) {r : Run α}
    (hr : r.IsHonest before) :
    ∃ sorted, r.settled sortLoose = some sorted ∧ InOrder before sorted := by
  rw [Run.settled]
  split
  · next hs => exact ⟨_, rfl, hr hs⟩
  · exact sort _

theorem isHonest_join (h : IsLinear before)
    (sort : ∀ xs, ∃ sorted, sortLoose xs = some sorted ∧ InOrder before sorted) {left right : Run α}
    (hl : left.IsHonest before) (hr : right.IsHonest before) :
    ∃ run, left.join before sortLoose right = some run ∧ run.IsHonest before := by
  rw [Run.join]
  split
  · obtain ⟨ls, hls, hlo⟩ := inOrder_settled sort hl
    obtain ⟨rs, hrs, hro⟩ := inOrder_settled sort hr
    rw [hls, hrs]
    exact ⟨_, rfl, fun _ => inOrder_mergeShorter h hlo hro⟩
  · exact ⟨_, rfl, fun hs => absurd hs Bool.false_ne_true⟩

variable {join : Run α → Run α → Option (Run α)}

theorem isHonest_joinWaiting
    (hjoin : ∀ l r : Run α, l.IsHonest before → r.IsHonest before →
      ∃ run, join l r = some run ∧ run.IsHonest before)
    (depth : Nat) (waiting : List (Run α × Nat)) (run : Run α)
    (hw : ∀ w ∈ waiting, w.1.IsHonest before) (hr : run.IsHonest before) :
    ∃ waiting' joined, joinWaiting join depth waiting run = some (waiting', joined) ∧
      (∀ w ∈ waiting', w.1.IsHonest before) ∧ joined.IsHonest before := by
  induction waiting generalizing run with
  | nil => exact ⟨[], run, rfl, hw, hr⟩
  | cons w waiting ih =>
    obtain ⟨left, d⟩ := w
    have hw := List.forall_mem_cons.1 hw
    rw [joinWaiting]
    split
    · obtain ⟨both, hboth, hhonest⟩ := hjoin left run hw.1 hr
      rw [hboth]
      exact ih both hw.2 hhonest
    · exact ⟨_, _, rfl, List.forall_mem_cons.2 hw, hr⟩

theorem isHonest_joinRuns
    (hjoin : ∀ l r : Run α, l.IsHonest before → r.IsHonest before →
      ∃ run, join l r = some run ∧ run.IsHonest before)
    (depth : Nat → Nat → Nat → Nat) (waiting : List (Run α × Nat)) (run : Run α) (middle : Nat)
    (runs : List (Run α)) (hw : ∀ w ∈ waiting, w.1.IsHonest before) (hr : run.IsHonest before)
    (hrs : ∀ r ∈ runs, r.IsHonest before) :
    ∃ all, joinRuns join depth waiting run middle runs = some all ∧ all.IsHonest before := by
  induction runs generalizing waiting run middle with
  | nil =>
    obtain ⟨waiting', all, hall, -, hhonest⟩ := isHonest_joinWaiting hjoin 0 waiting run hw hr
    rw [joinRuns, hall]
    exact ⟨all, rfl, hhonest⟩
  | cons next runs ih =>
    have hrs := List.forall_mem_cons.1 hrs
    obtain ⟨waiting', joined, hjoined, hwaiting, hhonest⟩ := isHonest_joinWaiting hjoin
      (depth (middle - run.elements.length) middle (middle + next.elements.length)) waiting run hw hr
    rw [joinRuns]
    dsimp only
    rw [hjoined]
    exact ih _ next _ (List.forall_mem_cons.2 ⟨hhonest, hwaiting⟩) hrs.1 hrs.2

end Joining

theorem inOrder_sortInRuns (h : IsLinear before) (mode : RunMode)
    {sortLoose : List α → Option (List α)}
    (sort : ∀ xs, ∃ sorted, sortLoose xs = some sorted ∧ InOrder before sorted) (xs : List α) :
    ∃ sorted, sortInRuns before mode sortLoose xs = some sorted ∧ InOrder before sorted := by
  obtain ⟨runs, hruns, hcut⟩ := isHonest_cutRuns h mode (goodRunLength xs.length) xs.length xs
  rw [sortInRuns, hruns]
  cases runs with
  | nil => exact ⟨[], rfl, .nil⟩
  | cons run runs =>
    have hcut := List.forall_mem_cons.1 hcut
    obtain ⟨all, hall, hhonest⟩ := isHonest_joinRuns (fun l r => isHonest_join h sort)
      (joinDepth xs.length) [] run run.elements.length runs (by simp) hcut.1 hcut.2
    obtain ⟨sorted, hsorted, horder⟩ := inOrder_settled sort hhonest
    refine ⟨sorted, ?_, horder⟩
    simp [hall, hsorted]

/-! ## Pivots -/

theorem inOrder_sortAroundPivots (h : IsLinear before) (limit : Nat) (bound : Option α)
    (xs : List α) (hb : ∀ b ∈ bound, ∀ x ∈ xs, before x b = false) :
    ∃ sorted, sortAroundPivots before limit bound xs = some sorted ∧ InOrder before sorted := by
  induction limit generalizing bound xs with
  | zero =>
    rw [sortAroundPivots]
    split
    · exact inOrder_sortFew h xs
    · exact inOrder_sortInRuns h .sortNow
        (fun ys => ⟨_, rfl, pairwise_sortBy h.trans h.asymm ys⟩) xs
  | succ limit ih =>
    cases xs with
    | nil => exact ⟨[], rfl, .nil⟩
    | cons x xs =>
      unfold sortAroundPivots
      extract_lets all items pivot
      split
      · exact inOrder_sortFew h all
      · simp only [List.partition_eq_filter_filter]
        split
        · next hsame =>
          have low : ∀ y ∈ all, before y pivot = false := by
            rcases Bool.or_eq_true_iff.1 hsame with hsame | hsame
            · obtain ⟨b, rfl, hbp⟩ := (Option.any_eq_true _ _).1 hsame
              exact fun y hy => h.trans pivot b y (by simpa using hbp) (hb b rfl y hy)
            · intro y hy
              rw [List.isEmpty_iff, List.filter_eq_nil_iff] at hsame
              simpa using hsame y hy
          obtain ⟨more, hmore, horder⟩ := ih none
            (all.filter (not ∘ fun y => !before pivot y)) (by simp)
          refine ⟨_, by rw [hmore]; rfl, inOrder_append.2 ⟨?_, horder, fun y hy z hz => ?_⟩⟩
          · refine List.Pairwise.imp_of_mem (R := fun _ _ => True) ?_ (List.pairwise_of_forall
              fun _ _ => trivial)
            intro y z hy hz _
            have hy := (List.mem_filter.1 hy).2
            exact h.trans y pivot z (by simpa using hy) (low z (List.mem_filter.1 hz).1)
          · have hy := (List.mem_filter.1 hy).2
            have hz := (sortAroundPivots_perm hmore).mem_iff.1 hz
            exact h.trans y pivot z (by simpa using hy) (low z (List.mem_filter.1 hz).1)
        · obtain ⟨less, hless, hlorder⟩ := ih bound (all.filter fun y => before y pivot)
            fun b hbb y hy => hb b hbb y (List.mem_filter.1 hy).1
          obtain ⟨rest, hrest, hrorder⟩ := ih (some pivot)
            (all.filter (not ∘ fun y => before y pivot)) (by
              intro b hbb y hy
              cases hbb
              simpa using (List.mem_filter.1 hy).2)
          refine ⟨_, by rw [hless, hrest]; rfl,
            inOrder_append.2 ⟨hlorder, hrorder, fun y hy z hz => ?_⟩⟩
          have hy := (List.mem_filter.1 ((sortAroundPivots_perm hless).mem_iff.1 hy)).2
          have hz := (List.mem_filter.1 ((sortAroundPivots_perm hrest).mem_iff.1 hz)).2
          exact h.trans y pivot z (h.asymm y pivot hy) (by simpa using hz)

/-- There is a result, and it is in order, when the comparison is one of a linear preorder: no
element comes before an earlier one. -/
theorem pairwise_sortByRuns (h : IsLinear before) (xs : List α) :
    ∃ sorted, sortByRuns before xs = some sorted ∧
      sorted.Pairwise fun x y => before y x = false := by
  rw [sortByRuns]
  split
  · exact ⟨_, rfl, pairwise_sortBy h.trans h.asymm xs⟩
  · exact inOrder_sortInRuns h _
      (fun ys => inOrder_sortAroundPivots h _ none ys (by simp)) xs

end Zettel
