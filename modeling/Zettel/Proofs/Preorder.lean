import Mathlib.Logic.Function.Iterate
import Zettel.Proofs.Walk

/-!
# Walks in pre-order

The walk with a stack is the walk that the recursion over the successors describes: a place, then
what its first successor leads to, then what the second one leads to, and so on, with places passed
over that have been visited. So of two successors of a place the first one is visited first, unless
the walk came to the second one another way.

Main statements: `inPreorder_depthFirst`, the walk with a stack visits in pre-order,
`InPreorder.comesBefore`, in which order the successors of a place are visited,
`inPreorder_preorder`, the recursion comes to an end, and `InPreorder.turns`, a loop that takes one
place off the stack in each turn empties it.
-/

namespace Zettel

universe u

variable {α : Type u} {isPlace : α → Bool} {next : α → List α} {seen mid out xs ys : List α}
  {a b c x y : α}

/-! ## Order in lists -/

/-- In the list `x` stands somewhere before `y`. -/
def ComesBefore (xs : List α) (x y : α) : Prop := [x, y].Sublist xs

instance [DecidableEq α] (xs : List α) (x y : α) : Decidable (ComesBefore xs x y) :=
  inferInstanceAs (Decidable (List.Sublist _ _))

/-- One comes before the other if the list can be cut between them. -/
theorem comesBefore_iff : ComesBefore xs x y ↔ ∃ us vs, xs = us ++ vs ∧ x ∈ us ∧ y ∈ vs := by
  rw [ComesBefore, List.cons_sublist_iff]
  simp only [List.singleton_sublist]

theorem comesBefore_append (hx : x ∈ xs) (hy : y ∈ ys) : ComesBefore (xs ++ ys) x y :=
  comesBefore_iff.2 ⟨xs, ys, rfl, hx, hy⟩

/-- A list that goes on keeps who came before whom. -/
theorem ComesBefore.of_prefix (h : ComesBefore xs x y) (hpre : xs <+: ys) :
    ComesBefore ys x y :=
  h.trans hpre.sublist

theorem ComesBefore.mem_left (h : ComesBefore xs x y) : x ∈ xs := h.subset (by simp)

theorem ComesBefore.mem_right (h : ComesBefore xs x y) : y ∈ xs := h.subset (by simp)

/-- Nothing stands after the last member of a list in which it does not occur before. -/
theorem not_comesBefore_concat (hx : x ∉ xs) : ¬ComesBefore (xs ++ [x]) x y := by
  intro h
  obtain ⟨us, vs, heq, hus, hvs⟩ := List.sublist_append_iff.1 h
  cases us with
  | nil =>
    rw [List.nil_append] at heq
    exact absurd (heq ▸ hvs).length_le (by simp)
  | cons u us =>
    obtain ⟨rfl, -⟩ := List.cons.inj heq
    exact hx (hus.subset List.mem_cons_self)

/-- In a list without repeats what stands before a member of a prefix is in the prefix. -/
theorem ComesBefore.mem_of_prefix (h : ComesBefore ys x y) (hpre : xs <+: ys) (hnodup : ys.Nodup)
    (hy : y ∈ xs) : ComesBefore xs x y := by
  obtain ⟨zs, rfl⟩ := hpre
  obtain ⟨us, vs, heq, hx, hy'⟩ := comesBefore_iff.1 h
  rcases List.append_eq_append_iff.1 heq with ⟨ws, rfl, rfl⟩ | ⟨ws, rfl, rfl⟩
  · exact absurd hy' fun hmem => (List.nodup_append.1 hnodup).2.2 y hy y
      (List.mem_append_right ws hmem) rfl
  · rcases List.mem_append.1 hy' with hws | hzs
    · exact comesBefore_append hx hws
    · exact absurd hzs fun hmem => (List.nodup_append.1 hnodup).2.2 y hy y hmem rfl

/-! ## The recursion -/

/-- Where `seen` has been visited, walking to the places of a list visits `out` in all: a place that
has not been visited comes first, then what is reached from its successors, and then what the rest
of the list leads to. -/
inductive InPreorder (isPlace : α → Bool) (next : α → List α) : List α → List α → List α → Prop
  | done (seen : List α) : InPreorder isPlace next seen [] seen
  | skip {seen rest out : List α} {a : α} (ha : isPlace a = true → a ∈ seen)
    (hrest : InPreorder isPlace next seen rest out) : InPreorder isPlace next seen (a :: rest) out
  | visit {seen mid rest out : List α} {a : α} (ha : isPlace a = true) (hnew : a ∉ seen)
    (hnext : InPreorder isPlace next (seen ++ [a]) (next a) mid)
    (hrest : InPreorder isPlace next mid rest out) : InPreorder isPlace next seen (a :: rest) out

namespace InPreorder

/-- Walking to two lists is walking to the one and then to the other. -/
theorem split (h : InPreorder isPlace next seen (xs ++ ys) out) :
    ∃ mid, InPreorder isPlace next seen xs mid ∧ InPreorder isPlace next mid ys out := by
  generalize htodo : xs ++ ys = todo at h
  induction h generalizing xs with
  | done seen =>
    obtain ⟨rfl, rfl⟩ := List.append_eq_nil_iff.1 htodo
    exact ⟨seen, .done seen, .done seen⟩
  | @skip seen rest out a ha hrest ih =>
    cases xs with
    | nil =>
      rw [List.nil_append] at htodo
      exact ⟨seen, .done seen, htodo ▸ .skip ha hrest⟩
    | cons x xs =>
      obtain ⟨rfl, rfl⟩ := List.cons.inj htodo
      obtain ⟨mid, hxs, hys⟩ := ih rfl
      exact ⟨mid, .skip ha hxs, hys⟩
  | @visit seen mid rest out a ha hnew hnext hrest _ ih =>
    cases xs with
    | nil =>
      rw [List.nil_append] at htodo
      exact ⟨seen, .done seen, htodo ▸ .visit ha hnew hnext hrest⟩
    | cons x xs =>
      obtain ⟨rfl, rfl⟩ := List.cons.inj htodo
      obtain ⟨mid', hxs, hys⟩ := ih rfl
      exact ⟨mid', .visit ha hnew hnext hxs, hys⟩

theorem skips (h : InPreorder isPlace next seen ys out)
    (hxs : ∀ a ∈ xs, isPlace a = true → a ∈ seen) :
    InPreorder isPlace next seen (xs ++ ys) out := by
  induction xs with
  | nil => exact h
  | cons x xs ih =>
    rw [List.forall_mem_cons] at hxs
    exact .skip hxs.1 (ih hxs.2)

/-- A walk appends to what was seen. -/
theorem prefix_out (h : InPreorder isPlace next seen xs out) : seen <+: out := by
  induction h with
  | done => exact List.prefix_rfl
  | skip _ _ ih => exact ih
  | visit _ _ _ _ ihnext ihrest => exact ((List.prefix_append _ _).trans ihnext).trans ihrest

theorem nodup (h : InPreorder isPlace next seen xs out) (hseen : seen.Nodup) : out.Nodup := by
  induction h with
  | done => exact hseen
  | skip _ _ ih => exact ih hseen
  | @visit seen mid rest out a _ hnew _ _ ihnext ihrest =>
    refine ihrest (ihnext ?_)
    rw [← List.concat_eq_append]
    exact .concat hnew hseen

/-- The places of the list are visited in the end. -/
theorem mem_of_mem (h : InPreorder isPlace next seen xs out) (hx : x ∈ xs)
    (hplace : isPlace x = true) : x ∈ out := by
  induction h with
  | done => cases hx
  | skip ha hrest ih =>
    rcases List.mem_cons.1 hx with rfl | hx
    · exact hrest.prefix_out.subset (ha hplace)
    · exact ih hx
  | visit _ _ hnext hrest _ ih =>
    rcases List.mem_cons.1 hx with rfl | hx
    · exact hrest.prefix_out.subset (hnext.prefix_out.subset (by simp))
    · exact ih hx

/-- What is visited is in the list, or the walk comes to it from a place that it visits before. -/
theorem found (h : InPreorder isPlace next seen xs out) (hx : x ∈ out) (hnew : x ∉ seen) :
    x ∈ xs ∨ ∃ m, m ∉ seen ∧ x ∈ next m ∧ ComesBefore out m x := by
  induction h with
  | done => exact absurd hx hnew
  | skip _ _ ih => exact (ih hx hnew).imp_left (List.mem_cons_of_mem _)
  | @visit seen mid rest out a _ hna hnext hrest ihnext ihrest =>
    by_cases hmid : x ∈ mid
    · by_cases hxa : x ∈ seen ++ [a]
      · left
        exact List.mem_cons.2 (Or.inl (by simpa [hnew] using hxa))
      · right
        rcases ihnext hmid hxa with hsucc | ⟨m, hm, hsucc, hbefore⟩
        · refine ⟨a, hna, hsucc, ComesBefore.of_prefix ?_ hrest.prefix_out⟩
          obtain ⟨new, rfl⟩ := hnext.prefix_out
          exact comesBefore_append (by simp) ((List.mem_append.1 hmid).resolve_left hxa)
        · exact ⟨m, fun hmem => hm (List.mem_append_left _ hmem), hsucc,
            hbefore.of_prefix hrest.prefix_out⟩
    · rcases ihrest hx hmid with hlist | ⟨m, hm, hsucc, hbefore⟩
      · exact Or.inl (List.mem_cons_of_mem _ hlist)
      · refine Or.inr ⟨m, fun hmem => hm ?_, hsucc, hbefore⟩
        exact hnext.prefix_out.subset (List.mem_append_left _ hmem)

/-- From each place that is visited the walk goes on to its successors. -/
theorem exists_visit (h : InPreorder isPlace next seen xs out) (hx : x ∈ out) (hnew : x ∉ seen) :
    ∃ before after, x ∉ before ∧ InPreorder isPlace next (before ++ [x]) (next x) after ∧
      after <+: out := by
  induction h with
  | done => exact absurd hx hnew
  | skip _ _ ih => exact ih hx hnew
  | @visit seen mid rest out a _ hna hnext hrest ihnext ihrest =>
    by_cases hmid : x ∈ mid
    · by_cases hxa : x ∈ seen ++ [a]
      · obtain rfl : x = a := by simpa [hnew] using hxa
        exact ⟨seen, mid, hna, hnext, hrest.prefix_out⟩
      · obtain ⟨before, after, hbefore, hvisit, hafter⟩ := ihnext hmid hxa
        exact ⟨before, after, hbefore, hvisit, hafter.trans hrest.prefix_out⟩
    · exact ihrest hx hmid

/-- **Of two successors of a place that is visited, the first one is visited first**, unless the
walk comes to the second one from the list or from another place that it visits before it. -/
theorem comesBefore {todo : List α} (h : InPreorder isPlace next [] todo out) (hx : x ∈ out)
    (hnext : (next x).Nodup) (hab : ComesBefore (next x) a b) (ha : isPlace a = true)
    (hb : isPlace b = true) :
    ComesBefore out a b ∨ b ∈ todo ∨ ∃ m, m ≠ x ∧ b ∈ next m ∧ ComesBefore out m b := by
  have hnodup := h.nodup List.nodup_nil
  obtain ⟨before, after, hxbefore, hvisit, hafter⟩ := h.exists_visit hx (by simp)
  obtain ⟨us, vs, heq, hau, hbv⟩ := comesBefore_iff.1 hab
  rw [heq] at hvisit hnext
  obtain ⟨mid, hus, hvs⟩ := hvisit.split
  have hmid : mid <+: out := hvs.prefix_out.trans hafter
  have hbout : b ∈ out := hafter.subset (hvs.mem_of_mem hbv hb)
  by_cases hbmid : b ∈ mid
  · by_cases hbseen : b ∈ before ++ [x]
    · -- `b` was visited before `x` or is `x`, so that the walk did not come to it from `x`
      refine Or.inr ((h.found hbout (by simp)).imp_right ?_)
      rintro ⟨m, -, hsucc, hbefore⟩
      have hpre := hus.prefix_out.trans hmid
      have hm := hbefore.mem_of_prefix hpre hnodup hbseen
      refine ⟨m, ?_, hsucc, hbefore⟩
      rintro rfl
      exact not_comesBefore_concat hxbefore hm
    · rcases hus.found hbmid hbseen with hbu | ⟨m, hm, hsucc, hbefore⟩
      · exact absurd rfl ((List.nodup_append.1 hnext).2.2 b hbu b hbv)
      · refine Or.inr (Or.inr ⟨m, ?_, hsucc, hbefore.of_prefix hmid⟩)
        rintro rfl
        exact hm (by simp)
  · left
    obtain ⟨new, rfl⟩ := hvs.prefix_out
    refine ComesBefore.of_prefix (comesBefore_append (hus.mem_of_mem hau ha) ?_) hafter
    exact (List.mem_append.1 (hvs.mem_of_mem hbv hb)).resolve_left hbmid

/-- What is visited is determined. -/
theorem unique (h : InPreorder isPlace next seen xs out) {out' : List α}
    (h' : InPreorder isPlace next seen xs out') : out = out' := by
  induction h generalizing out' with
  | done => cases h'; rfl
  | skip ha _ ih =>
    cases h' with
    | skip _ hrest => exact ih hrest
    | visit hplace hnew _ _ => exact absurd (ha hplace) hnew
  | visit hplace hnew _ _ ihnext ihrest =>
    cases h' with
    | skip ha _ => exact absurd (ha hplace) hnew
    | visit _ _ hnext hrest =>
      obtain rfl := ihnext hnext
      exact ihrest hrest

end InPreorder

/-! ## The walk with a stack -/

/-- **The walk with a stack visits in pre-order**, if it may visit as many places as there are. The
induction is on the steps: what waits on the stack is the list that is still to be walked to. -/
theorem inPreorder_depthFirst [DecidableEq α] {places : List α}
    (hplaces : ∀ a, isPlace a = true ↔ a ∈ places) (next : α → List α) :
    ∀ (steps : Nat) (stack seen : List α), seen.Nodup → seen ⊆ places →
      places.length ≤ steps + seen.length →
      InPreorder isPlace next seen stack (depthFirst isPlace next steps stack seen) := by
  intro steps
  induction steps with
  | zero =>
    intro stack seen hnodup hsub hlen
    have hall : places ⊆ seen := subset_of_length_le hnodup hsub (by omega)
    rw [← List.append_nil stack]
    exact (InPreorder.done seen).skips fun a _ ha => hall ((hplaces a).1 ha)
  | succ steps ih =>
    intro stack seen hnodup hsub hlen
    -- what is dropped from the stack is no place or has been visited
    have hdropped : ∀ a ∈ stack.takeWhile fun a => !isPlace a || seen.contains a,
        isPlace a = true → a ∈ seen := by
      intro a ha hplace
      simpa [hplace] using List.mem_takeWhile_imp ha
    suffices h : InPreorder isPlace next seen
        (stack.dropWhile fun a => !isPlace a || seen.contains a)
        (depthFirst isPlace next (steps + 1) stack seen) by
      simpa only [List.takeWhile_append_dropWhile] using h.skips hdropped
    rw [depthFirst]
    split
    · rename_i hnil
      rw [hnil]
      exact .done seen
    · rename_i c rest hc
      obtain ⟨hplace, hnew⟩ := of_dropWhile_eq_cons hc
      have hnodup' : (seen ++ [c]).Nodup := by
        rw [← List.concat_eq_append]
        exact .concat hnew hnodup
      have hsub' : seen ++ [c] ⊆ places :=
        List.append_subset.2 ⟨hsub, by simpa using (hplaces c).1 hplace⟩
      obtain ⟨mid, hnext, hrest⟩ := (ih (next c ++ rest) (seen ++ [c]) hnodup' hsub'
        (by rw [List.length_append, List.length_singleton]; omega)).split
      rw [hc]
      exact .visit hplace hnew hnext hrest

/-! ## The recursion as a function -/

section Recursion

variable [DecidableEq α]

/-- A visit leaves fewer places that have not been visited. -/
theorem length_filter_not_mem_lt {places seen' : List α} (hsub : seen ⊆ seen') (hplace : a ∈ places)
    (hnew : a ∉ seen) (hvisited : a ∈ seen') :
    (places.filter (· ∉ seen')).length < (places.filter (· ∉ seen)).length := by
  have hkept : (places.filter (· ∉ seen')).Sublist (places.filter (· ∉ seen)) :=
    List.monotone_filter_right _ fun x hx => by
      simp only [decide_eq_true_eq] at hx ⊢
      exact fun hmem => hx (hsub hmem)
  refine lt_of_le_of_ne hkept.length_le fun hlen => ?_
  have hmem : a ∈ places.filter (· ∉ seen) := List.mem_filter.2 ⟨hplace, by simpa using hnew⟩
  rw [← hkept.eq_of_length hlen] at hmem
  exact absurd hvisited (by simpa using (List.mem_filter.1 hmem).2)

/-- The recursion: where `seen` has been visited, walks to each place of a list in turn. A place
that has not been visited is put behind those that have, and the walk to its successors comes before
the walk to the rest of the list. What has been visited is handed on from one walk to the next. -/
def preorder (places : List α) (next : α → List α) (todo seen : List α) :
    { out : List α // seen ⊆ out } :=
  match todo with
  | [] => ⟨seen, List.Subset.refl seen⟩
  | a :: rest =>
    if _h : a ∈ places ∧ a ∉ seen then
      let mid := preorder places next (next a) (seen ++ [a])
      let out := preorder places next rest mid.1
      ⟨out.1, fun _ hx => out.2 (mid.2 (List.mem_append_left _ hx))⟩
    else preorder places next rest seen
termination_by ((places.filter (· ∉ seen)).length, todo.length)
decreasing_by
  · exact Prod.Lex.left _ _
      (length_filter_not_mem_lt (List.subset_append_left _ _) _h.1 _h.2 (by simp))
  · exact Prod.Lex.left _ _
      (length_filter_not_mem_lt (fun _ hx => mid.2 (List.mem_append_left _ hx)) _h.1 _h.2
        (mid.2 (by simp)))
  · exact Prod.Lex.right _ (Nat.lt_succ_self _)

/-- **The recursion comes to an end, and visits in pre-order.** -/
theorem inPreorder_preorder {places : List α} (hplaces : ∀ a, isPlace a = true ↔ a ∈ places)
    (next : α → List α) (todo seen : List α) :
    InPreorder isPlace next seen todo (preorder places next todo seen).1 := by
  fun_induction preorder places next todo seen with
  | case1 seen => exact .done seen
  | case2 seen a rest h mid out hnext hrest => exact .visit ((hplaces a).2 h.1) h.2 hnext hrest
  | case3 seen a rest h hrest =>
    refine .skip (fun ha => ?_) hrest
    by_contra hnew
    exact h ⟨(hplaces a).1 ha, hnew⟩

end Recursion

/-! ## The loop -/

section Loop

variable [DecidableEq α]

/-- One turn of the loop: takes the place on top off the stack and, if it has not been visited,
visits it and puts its successors on the stack. With an empty stack the loop has come to its end. -/
def turn (isPlace : α → Bool) (next : α → List α) : List α × List α → List α × List α
  | ([], seen) => ([], seen)
  | (a :: stack, seen) =>
    if isPlace a && !seen.contains a then (next a ++ stack, seen ++ [a]) else (stack, seen)

/-- How many turns it takes to walk to the places of a list, if `visited` are the places that are
visited by this: each entry of the stack takes one. -/
def turnsFor (next : α → List α) (todo visited : List α) : Nat :=
  (todo ++ visited.flatMap next).length

/-- **The loop works off the stack in pre-order**, and leaves what is below alone. The induction is
on the recursion: what it walks to is on top of the stack. -/
theorem InPreorder.turns (h : InPreorder isPlace next seen xs out) : ∃ visited,
    out = seen ++ visited ∧ ∀ stack,
      (turn isPlace next)^[turnsFor next xs visited] (xs ++ stack, seen) = (stack, out) := by
  induction h with
  | done seen => exact ⟨[], by simp, fun stack => rfl⟩
  | @skip seen rest out a ha _ ih =>
    obtain ⟨visited, rfl, hturns⟩ := ih
    refine ⟨visited, rfl, fun stack => ?_⟩
    have hcount : turnsFor next (a :: rest) visited = turnsFor next rest visited + 1 := by
      rw [turnsFor, List.cons_append, List.length_cons, turnsFor]
    have hturn : turn isPlace next (a :: rest ++ stack, seen) = (rest ++ stack, seen) :=
      if_neg (by simpa using ha)
    rw [hcount, Function.iterate_succ_apply, hturn, hturns]
  | @visit seen mid rest out a ha hnew _ _ ihnext ihrest =>
    obtain ⟨below, rfl, hbelow⟩ := ihnext
    obtain ⟨behind, rfl, hbehind⟩ := ihrest
    refine ⟨a :: (below ++ behind), by simp, fun stack => ?_⟩
    have hcount : turnsFor next (a :: rest) (a :: (below ++ behind)) =
        turnsFor next rest behind + turnsFor next (next a) below + 1 := by
      simp only [turnsFor, List.flatMap_cons, List.flatMap_append, List.length_append,
        List.length_cons]
      omega
    have hturn : turn isPlace next (a :: rest ++ stack, seen) =
        (next a ++ (rest ++ stack), seen ++ [a]) :=
      if_pos (by simp [ha, hnew])
    rw [hcount, Function.iterate_succ_apply, hturn, Function.iterate_add_apply, hbelow, hbehind]

end Loop

end Zettel
