import Zettel.Sorting

/-!
# Merging

Two lists in order become one. A merge can start at the front, at the back, or at both ends at once;
when the comparison is one of a linear preorder it makes no difference, and otherwise the result is
settled by where it starts. A merge from both ends gives up if both take the same element, which
only a comparison that goes round in circles can bring about. Few elements are sorted in two halves,
which are merged from both ends.

Main statements: `mergeFront_perm`, `mergeBack_perm`, `mergeBothEnds_perm` and `sortFew_perm`,
nothing is lost.
-/

namespace Zettel

universe u

variable {α : Type u} {before : α → α → Bool}

/-- Merges from the front. Of equal elements the left one goes first. -/
def mergeFront (before : α → α → Bool) (left right : List α) : List α :=
  left.merge right fun x y => !before y x

/-- Merges from the back. Of equal elements the right one goes last. -/
def mergeBack (before : α → α → Bool) (left right : List α) : List α :=
  (right.reverse.merge left.reverse fun y x => !before y x).reverse

/-- Merges from the end where the shorter list is. -/
def mergeShorter (before : α → α → Bool) (left right : List α) : List α :=
  if left.length ≤ right.length then mergeFront before left right
  else mergeBack before left right

/-- What some steps of a merge take, in their order, and what they leave of the two lists. -/
structure Taken (α : Type u) where
  taken : List α
  first : List α
  second : List α

/-- The same after `x` was taken. -/
def Taken.after (x : α) (t : Taken α) : Taken α := { t with taken := x :: t.taken }

/-- The first `n` steps of a merge; `le x y` says that `x` of the first list goes before `y`. -/
def takeMerged (le : α → α → Bool) : Nat → List α → List α → Taken α
  | n + 1, x :: xs, y :: ys =>
    if le x y then (takeMerged le n xs (y :: ys)).after x
    else (takeMerged le n (x :: xs) ys).after y
  | n + 1, x :: xs, [] => (takeMerged le n xs []).after x
  | n + 1, [], y :: ys => (takeMerged le n [] ys).after y
  | _, xs, ys => ⟨[], xs, ys⟩

/-- Merges two lists of one length, or a longer right one: half of the elements are taken from the
front, half from the back, and at most one is left between them. There is no result if some element
is taken from the front and from the back. -/
def mergeBothEnds (before : α → α → Bool) (left right : List α) : Option (List α) :=
  let half := (left.length + right.length) / 2
  let front := takeMerged (fun x y => !before y x) half left right
  let back := takeMerged (fun y x => !before y x) half right.reverse left.reverse
  if left.length ≤ front.first.length + back.second.length ∧
      right.length ≤ front.second.length + back.first.length then
    let between := front.first.take (front.first.length + back.second.length - left.length) ++
      front.second.take (front.second.length + back.first.length - right.length)
    some (front.taken ++ between ++ back.taken.reverse)
  else none

/-! ## Few elements -/

/-- Two elements in order. -/
def sortTwo (before : α → α → Bool) (x y : α) : List α := if before y x then [y, x] else [x, y]

/-- Four elements in order: two pairs are ordered, their first and their last elements compared, and
then the two that are left. -/
def sortFour (before : α → α → Bool) (w x y z : α) : List α :=
  let (a, b) := if before x w then (x, w) else (w, x)
  let (c, d) := if before z y then (z, y) else (y, z)
  if before c a then
    if before d b then c :: (sortTwo before a d ++ [b]) else c :: (sortTwo before a b ++ [d])
  else
    if before d b then a :: (sortTwo before c d ++ [b]) else a :: (sortTwo before b c ++ [d])

/-- Sorts the first four elements and then places the others among them. -/
def sortFromFour (before : α → α → Bool) : List α → List α
  | w :: x :: y :: z :: rest => placeAll before (sortFour before w x y z) rest
  | xs => sortBy before xs

/-- Sorts two halves and merges them from both ends. -/
def sortFew (before : α → α → Bool) (xs : List α) : Option (List α) :=
  if xs.length < 2 then some xs
  else
    let half := xs.length / 2
    let sort := if xs.length < 8 then sortBy before else sortFromFour before
    mergeBothEnds before (sort (xs.take half)) (sort (xs.drop half))

/-! ## Nothing is lost -/

theorem mergeFront_perm (before : α → α → Bool) (left right : List α) :
    (mergeFront before left right).Perm (left ++ right) :=
  List.merge_perm_append _

theorem mergeBack_perm (before : α → α → Bool) (left right : List α) :
    (mergeBack before left right).Perm (left ++ right) := by
  rw [mergeBack]
  refine (List.reverse_perm _).trans ((List.merge_perm_append _).trans ?_)
  exact List.perm_append_comm.trans ((List.reverse_perm left).append (List.reverse_perm right))

/-- A merge from either end loses nothing and adds nothing. -/
theorem mergeShorter_perm (before : α → α → Bool) (left right : List α) :
    (mergeShorter before left right).Perm (left ++ right) := by
  rw [mergeShorter]
  split
  · exact mergeFront_perm before left right
  · exact mergeBack_perm before left right

/-- The steps and the merge of what they leave are the whole merge. -/
theorem takeMerged_append (le : α → α → Bool) (n : Nat) (xs ys : List α) :
    (takeMerged le n xs ys).taken ++
      (takeMerged le n xs ys).first.merge (takeMerged le n xs ys).second le = xs.merge ys le := by
  fun_induction takeMerged le n xs ys with
  | case1 n x xs y ys h ih => rw [List.cons_merge_cons_pos _ _ _ h, ← ih]; rfl
  | case2 n x xs y ys h ih => rw [List.cons_merge_cons_neg _ _ _ h, ← ih]; rfl
  | case3 n x xs ih => simpa [Taken.after] using ih
  | case4 n y ys ih => simpa [Taken.after] using ih
  | case5 => rfl

/-- What is taken are the beginnings of the two lists. -/
theorem exists_takeMerged (le : α → α → Bool) (n : Nat) (xs ys : List α) :
    ∃ px py, xs = px ++ (takeMerged le n xs ys).first ∧ ys = py ++ (takeMerged le n xs ys).second ∧
      (takeMerged le n xs ys).taken.Perm (px ++ py) := by
  fun_induction takeMerged le n xs ys with
  | case1 n x xs y ys h ih =>
    obtain ⟨px, py, hx, hy, hp⟩ := ih
    exact ⟨x :: px, py, congrArg (x :: ·) hx, hy, hp.cons x⟩
  | case2 n x xs y ys h ih =>
    obtain ⟨px, py, hx, hy, hp⟩ := ih
    exact ⟨px, y :: py, hx, congrArg (y :: ·) hy, (hp.cons y).trans List.perm_middle.symm⟩
  | case3 n x xs ih =>
    obtain ⟨px, py, hx, hy, hp⟩ := ih
    exact ⟨x :: px, py, congrArg (x :: ·) hx, hy, hp.cons x⟩
  | case4 n y ys ih =>
    obtain ⟨px, py, hx, hy, hp⟩ := ih
    exact ⟨px, y :: py, hx, congrArg (y :: ·) hy, (hp.cons y).trans List.perm_middle.symm⟩
  | case5 => exact ⟨[], [], rfl, rfl, .refl _⟩

theorem length_takeMerged (le : α → α → Bool) (n : Nat) (xs ys : List α) :
    (takeMerged le n xs ys).taken.length = min n (xs.length + ys.length) := by
  fun_induction takeMerged le n xs ys with
  | case5 n xs ys h₁ h₂ h₃ =>
    match n, xs, ys with
    | 0, _, _ => simp
    | n + 1, [], [] => simp
    | n + 1, x :: xs, y :: ys => exact absurd rfl (h₁ n x xs y ys rfl rfl)
    | n + 1, x :: xs, [] => exact absurd rfl (h₂ n x xs rfl rfl)
    | n + 1, [], y :: ys => exact absurd rfl (h₃ n y ys rfl rfl)
  | _ => simp only [Taken.after, List.length_cons, List.length_nil] at *; omega

/-- A list of which `fs` is taken from the front and `bs` from the back, with the middle that is
left if these do not overlap. -/
theorem eq_take_append {xs fs us bs vs : List α} (hf : xs = fs ++ us) (hb : xs.reverse = bs ++ vs)
    (h : xs.length ≤ us.length + vs.length) :
    us = us.take (us.length + vs.length - xs.length) ++ bs.reverse ∧
      vs.reverse = fs ++ us.take (us.length + vs.length - xs.length) := by
  have hboth : fs ++ us = vs.reverse ++ bs.reverse := by
    rw [← hf, ← List.reverse_append, ← hb, List.reverse_reverse]
  have hlen : xs.length = fs.length + us.length := by rw [hf, List.length_append]
  rcases List.append_eq_append_iff.1 hboth with ⟨m, hvs, hus⟩ | ⟨m, hfs, hbs⟩
  · have hm : us.length + vs.length - xs.length = m.length := by
      have := congrArg List.length hvs
      rw [List.length_reverse, List.length_append] at this
      omega
    have htake : us.take (us.length + vs.length - xs.length) = m := by
      rw [hm, hus, List.take_left]
    rw [htake]
    exact ⟨hus, hvs⟩
  · have hm : m = [] := by
      have := congrArg List.length hfs
      rw [List.length_append, List.length_reverse] at this
      exact List.length_eq_zero_iff.1 (by omega)
    have htake : us.length + vs.length - xs.length = 0 := by
      rw [hm, List.append_nil] at hfs
      rw [hlen, hfs, List.length_reverse]
      omega
    subst hm
    rw [htake, List.take_zero, List.nil_append, List.append_nil]
    exact ⟨hbs.symm, by simpa using hfs.symm⟩

/-- Each list falls into what is taken from the front, what is left, and what is taken from the
back. -/
theorem exists_of_mergeBothEnds {left right merged : List α}
    (h : mergeBothEnds before left right = some merged) :
    let half := (left.length + right.length) / 2
    let front := takeMerged (fun x y => !before y x) half left right
    let back := takeMerged (fun y x => !before y x) half right.reverse left.reverse
    ∃ fl ml bl fr mr br, left = fl ++ (ml ++ bl) ∧ right = fr ++ (mr ++ br) ∧
      front.first = ml ++ bl ∧ front.second = mr ++ br ∧ front.taken.Perm (fl ++ fr) ∧
      back.second.reverse = fl ++ ml ∧ back.first.reverse = fr ++ mr ∧
      back.taken.reverse.Perm (bl ++ br) ∧
      merged = front.taken ++ (ml ++ mr) ++ back.taken.reverse := by
  intro half front back
  obtain ⟨fl, fr, hfl, hfr, hfront⟩ := exists_takeMerged (fun x y => !before y x) half left right
  obtain ⟨br, bl, hbr, hbl, hback⟩ :=
    exists_takeMerged (fun y x => !before y x) half right.reverse left.reverse
  rw [mergeBothEnds] at h
  split at h
  case isFalse => cases h
  case isTrue hmeet =>
    obtain ⟨hleft, hleft'⟩ := eq_take_append hfl hbl hmeet.1
    obtain ⟨hright, hright'⟩ := eq_take_append hfr hbr hmeet.2
    refine ⟨fl, _, bl.reverse, fr, _, br.reverse, ?_, ?_, hleft, hright, hfront, hleft', hright',
      ?_, (Option.some.inj h).symm⟩
    · rw [← hleft]
      exact hfl
    · rw [← hright]
      exact hfr
    · refine (List.reverse_perm _).trans (hback.trans (List.perm_append_comm.trans ?_))
      exact (List.reverse_perm bl).symm.append (List.reverse_perm br).symm

/-- Two pairs of parts are put together the other way round. -/
private theorem append_append_perm (as bs cs ds : List α) :
    ((as ++ bs) ++ (cs ++ ds)).Perm ((as ++ cs) ++ (bs ++ ds)) := by
  rw [List.append_assoc, List.append_assoc]
  exact (List.perm_append_comm_assoc bs cs ds).append_left as

/-- A merge from both ends, if it gets through, loses nothing and adds nothing. -/
theorem mergeBothEnds_perm {left right merged : List α}
    (h : mergeBothEnds before left right = some merged) : merged.Perm (left ++ right) := by
  obtain ⟨fl, ml, bl, fr, mr, br, rfl, rfl, -, -, hfront, -, -, hback, rfl⟩ :=
    exists_of_mergeBothEnds h
  rw [List.append_assoc]
  exact (hfront.append (hback.append_left (ml ++ mr))).trans
    (((append_append_perm ml mr bl br).append_left _).trans (append_append_perm fl fr _ _))

theorem sortTwo_perm (before : α → α → Bool) (x y : α) : (sortTwo before x y).Perm [x, y] := by
  rw [sortTwo]
  split
  · exact .swap x y []
  · exact .refl _

theorem sortFour_perm (before : α → α → Bool) (w x y z : α) :
    (sortFour before w x y z).Perm [w, x, y, z] := by
  have pair : ∀ p q : α, ∀ a b,
      (if before q p then (q, p) else (p, q)) = (a, b) → [a, b].Perm [p, q] := by
    intro p q a b h
    split at h <;> cases h
    · exact .swap p q []
    · exact .refl _
  rw [sortFour]
  split
  next a b hab =>
  split
  next c d hcd =>
  refine List.Perm.trans ?_ ((pair w x a b hab).append (pair y z c d hcd))
  split <;> split
  · refine (((sortTwo_perm before a d).append_right [b]).cons c).trans ?_
    refine (List.Perm.swap a c [d, b]).trans (.cons a ?_)
    exact ((List.Perm.swap b d []).cons c).trans (.swap b c [d])
  · refine (((sortTwo_perm before a b).append_right [d]).cons c).trans ?_
    exact (List.Perm.swap a c [b, d]).trans (.cons a (.swap b c [d]))
  · refine (((sortTwo_perm before c d).append_right [b]).cons a).trans (.cons a ?_)
    exact ((List.Perm.swap b d []).cons c).trans (.swap b c [d])
  · exact ((sortTwo_perm before b c).append_right [d]).cons a

theorem sortFromFour_perm (before : α → α → Bool) (xs : List α) :
    (sortFromFour before xs).Perm xs := by
  rw [sortFromFour.eq_def]
  split
  · exact (placeAll_perm before _ _).trans ((sortFour_perm before _ _ _ _).append_right _)
  · exact sortBy_perm before _

theorem sortFew_perm {xs sorted : List α} (h : sortFew before xs = some sorted) :
    sorted.Perm xs := by
  unfold sortFew at h
  split at h
  · rw [Option.some.inj h]
  · extract_lets half sort at h
    have hsort : ∀ ys : List α, (sort ys).Perm ys := by
      intro ys
      simp only [sort]
      split
      · exact sortBy_perm before ys
      · exact sortFromFour_perm before ys
    refine (mergeBothEnds_perm h).trans (((hsort _).append (hsort _)).trans ?_)
    rw [List.take_append_drop]

end Zettel
