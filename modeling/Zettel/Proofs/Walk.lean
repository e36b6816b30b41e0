import Mathlib.Data.List.Nodup
import Mathlib.Data.List.Perm.Subperm
import Mathlib.Data.List.TakeWhile
import Mathlib.Logic.Relation
import Zettel.Walk

/-!
# What a walk visits

Both walks visit exactly the places that can be reached, if they may visit as many places as there
are: `mem_depthFirst_iff` for the walk with a stack, and `mem_breadthFirst_iff` for the walk in
rounds.
-/

namespace Zettel

universe u

variable {α : Type u} [DecidableEq α]

/-! ## New members -/

theorem addNew_append (seen xs ys : List α) :
    addNew seen (xs ++ ys) = addNew (addNew seen xs) ys := List.foldl_append

/-- `addNew` only appends. -/
theorem exists_addNew_eq_append (seen xs : List α) : ∃ new, addNew seen xs = seen ++ new := by
  induction xs generalizing seen with
  | nil => exact ⟨[], by simp [addNew]⟩
  | cons x xs ih =>
    rw [addNew, List.foldl_cons]
    obtain ⟨new, h⟩ := ih (if seen.contains x then seen else seen ++ [x])
    rw [addNew] at h
    rw [h]
    by_cases hx : seen.contains x
    · exact ⟨new, by rw [if_pos hx]⟩
    · exact ⟨x :: new, by rw [if_neg hx, List.append_assoc, List.singleton_append]⟩

theorem nodup_addNew {seen : List α} (h : seen.Nodup) (xs : List α) : (addNew seen xs).Nodup := by
  induction xs generalizing seen with
  | nil => exact h
  | cons x xs ih =>
    rw [addNew, List.foldl_cons]
    refine ih ?_
    by_cases hx : seen.contains x
    · rwa [if_pos hx]
    · rw [if_neg hx]
      have hx' : x ∉ seen := by simpa using hx
      rw [← List.concat_eq_append]
      exact .concat hx' h

/-- What is there already is not added. -/
theorem addNew_of_subset {seen xs : List α} (h : ∀ x ∈ xs, x ∈ seen) :
    addNew seen xs = seen := by
  induction xs with
  | nil => rfl
  | cons x xs ih =>
    rw [List.forall_mem_cons] at h
    have hstep : addNew seen (x :: xs) =
        addNew (if seen.contains x then seen else seen ++ [x]) xs := rfl
    rw [hstep, if_pos (by simpa using h.1), ih h.2]

/-- What has occurred elsewhere does not matter. -/
theorem addNew_append_of_disjoint {xs : List α} (seen seen' : List α) (h : ∀ x ∈ xs, x ∉ seen) :
    addNew (seen ++ seen') xs = seen ++ addNew seen' xs := by
  induction xs generalizing seen' with
  | nil => rfl
  | cons x xs ih =>
    rw [List.forall_mem_cons] at h
    have hstep : ∀ s : List α,
        addNew s (x :: xs) = addNew (if s.contains x then s else s ++ [x]) xs := fun _ => rfl
    have hmem : (seen ++ seen').contains x = seen'.contains x := by simp [h.1]
    rw [hstep, hstep, hmem, ← ih _ h.2]
    split
    · rfl
    · rw [List.append_assoc]

omit [DecidableEq α] in
/-- A list without repeats that is as long as the list of all places holds every place. -/
theorem subset_of_length_le {places seen : List α} (hnd : seen.Nodup) (hsub : seen ⊆ places)
    (hlen : places.length ≤ seen.length) : places ⊆ seen :=
  ((hnd.subperm hsub).perm_of_length_le hlen).symm.subset

/-! ## The walk with a stack -/

section DepthFirst

variable {isPlace : α → Bool} {next : α → List α}

/-- The place that the walk takes from the stack is a place and has not been visited. -/
theorem of_dropWhile_eq_cons {stack seen rest : List α} {a : α}
    (h : (stack.dropWhile fun a => !isPlace a || seen.contains a) = a :: rest) :
    isPlace a = true ∧ a ∉ seen := by
  have hhead := List.head?_dropWhile_not (fun a => !isPlace a || seen.contains a) stack
  rw [h] at hhead
  simpa using hhead

/-- A step of the walk leads to a successor that is a place. -/
def StepsTo (isPlace : α → Bool) (next : α → List α) (a b : α) : Prop :=
  b ∈ next a ∧ isPlace b = true

/-- What the walk visits had been visited before, or can be reached from the stack. -/
theorem reached_of_mem_depthFirst : ∀ (steps : Nat) (stack seen : List α) {a : α},
    a ∈ depthFirst isPlace next steps stack seen → a ∈ seen ∨
      ∃ s ∈ stack, isPlace s = true ∧ Relation.ReflTransGen (StepsTo isPlace next) s a := by
  intro steps
  induction steps with
  | zero => intro stack seen a ha; exact Or.inl ha
  | succ steps ih =>
    intro stack seen a ha
    rw [depthFirst] at ha
    split at ha
    · exact Or.inl ha
    · rename_i b rest hb
      have hrest : b :: rest ⊆ stack := hb ▸ (List.dropWhile_sublist _).subset
      have hplace : isPlace b = true := (of_dropWhile_eq_cons hb).1
      rcases ih _ _ ha with h | ⟨s, hs, hsp, hsa⟩
      · rcases List.mem_append.1 h with h | h
        · exact Or.inl h
        · rw [List.mem_singleton] at h
          exact Or.inr ⟨b, hrest List.mem_cons_self, hplace, h ▸ .refl⟩
      · rcases List.mem_append.1 hs with h | h
        · exact Or.inr ⟨b, hrest List.mem_cons_self, hplace, .head ⟨h, hsp⟩ hsa⟩
        · exact Or.inr ⟨s, hrest (List.mem_cons_of_mem _ h), hsp, hsa⟩

/-- With enough steps, the walk visits the places on the stack, and with a place its successors.
The invariant is that successors of visited places have been visited or wait on the stack. -/
theorem depthFirst_closed {places : List α} (hplaces : ∀ a, isPlace a = true ↔ a ∈ places)
    (next : α → List α) :
    ∀ (steps : Nat) (stack seen : List α), seen.Nodup → seen ⊆ places →
      places.length ≤ steps + seen.length →
      (∀ a ∈ seen, ∀ b, StepsTo isPlace next a b → b ∈ seen ∨ b ∈ stack) →
      (∀ a ∈ stack, isPlace a = true → a ∈ depthFirst isPlace next steps stack seen) ∧
      ∀ a ∈ depthFirst isPlace next steps stack seen, ∀ b, StepsTo isPlace next a b →
        b ∈ depthFirst isPlace next steps stack seen := by
  intro steps
  induction steps with
  | zero =>
    intro stack seen hnd hsub hlen _
    have hall : places ⊆ seen := subset_of_length_le hnd hsub (by omega)
    exact ⟨fun a _ hp => hall ((hplaces a).1 hp), fun a _ b hb => hall ((hplaces b).1 hb.2)⟩
  | succ steps ih =>
    intro stack seen hnd hsub hlen hinv
    -- what is dropped from the stack is no place or has been visited
    have hdrop : ∀ a ∈ stack, isPlace a = true → a ∈ seen ∨
        a ∈ stack.dropWhile fun a => !isPlace a || seen.contains a := by
      intro a ha hp
      rw [← List.takeWhile_append_dropWhile (p := fun a => !isPlace a || seen.contains a)
        (l := stack)] at ha
      rcases List.mem_append.1 ha with h | h
      · have := List.mem_takeWhile_imp h
        exact Or.inl (by simpa [hp] using this)
      · exact Or.inr h
    rw [depthFirst]
    split
    · rename_i hnil
      rw [hnil] at hdrop
      have hstack : ∀ a ∈ stack, isPlace a = true → a ∈ seen := by simpa using hdrop
      refine ⟨hstack, fun a ha b hb => ?_⟩
      rcases hinv a ha b hb with h | h
      · exact h
      · exact hstack b h hb.2
    · rename_i c rest hc
      obtain ⟨hcp, hcs⟩ := of_dropWhile_eq_cons hc
      rw [hc] at hdrop
      have hnd' : (seen ++ [c]).Nodup := by
        rw [← List.concat_eq_append]
        exact .concat hcs hnd
      have hsub' : seen ++ [c] ⊆ places :=
        List.append_subset.2 ⟨hsub, by simpa using (hplaces c).1 hcp⟩
      obtain ⟨hstack, hclosed⟩ := ih (next c ++ rest) (seen ++ [c]) hnd' hsub'
        (by rw [List.length_append, List.length_singleton]; omega) (by
          intro a ha b hb
          rcases List.mem_append.1 ha with h | h
          · rcases hinv a h b hb with h' | h'
            · exact Or.inl (List.mem_append_left _ h')
            · rcases hdrop b h' hb.2 with h'' | h''
              · exact Or.inl (List.mem_append_left _ h'')
              · rcases List.mem_cons.1 h'' with rfl | h'''
                · exact Or.inl (by simp)
                · exact Or.inr (List.mem_append_right _ h''')
          · rw [List.mem_singleton] at h
            subst h
            exact Or.inr (List.mem_append_left _ hb.1))
      refine ⟨fun a ha hp => ?_, hclosed⟩
      rcases hdrop a ha hp with h | h
      · exact subset_depthFirst _ _ _ _ _ (List.mem_append_left _ h)
      · rcases List.mem_cons.1 h with rfl | h'
        · exact subset_depthFirst _ _ _ _ _ (by simp)
        · exact hstack a (List.mem_append_right _ h') hp

/-- **The walk with a stack visits what can be reached.** -/
theorem mem_depthFirst_iff {places : List α} (hplaces : ∀ a, isPlace a = true ↔ a ∈ places)
    {steps : Nat} (hsteps : places.length ≤ steps) {s a : α} :
    a ∈ depthFirst isPlace next steps [s] [] ↔
      isPlace s = true ∧ Relation.ReflTransGen (StepsTo isPlace next) s a := by
  constructor
  · intro ha
    rcases reached_of_mem_depthFirst steps [s] [] ha with h | ⟨t, ht, htp, hta⟩
    · exact absurd h (by simp)
    · rw [List.mem_singleton] at ht
      exact ht ▸ ⟨htp, hta⟩
  · rintro ⟨hs, hsa⟩
    obtain ⟨hstack, hclosed⟩ := depthFirst_closed hplaces next steps [s] []
      List.nodup_nil (by simp) (by simpa using hsteps) (by simp)
    induction hsa with
    | refl => exact hstack s (by simp) hs
    | tail _ hbc ih => exact hclosed _ ih _ hbc

end DepthFirst

/-! ## The walk in rounds -/

section BreadthFirst

variable {next : α → List α}

theorem reached_of_mem_breadthFirst : ∀ (rounds : Nat) (last seen : List α) {a : α},
    last ⊆ seen → a ∈ breadthFirst next rounds last seen →
      ∃ s ∈ seen, Relation.ReflTransGen (fun a b => b ∈ next a) s a := by
  intro rounds
  induction rounds with
  | zero => intro last seen a _ ha; exact ⟨a, ha, .refl⟩
  | succ rounds ih =>
    intro last seen a hlast ha
    simp only [breadthFirst] at ha
    split at ha
    · exact ⟨a, ha, .refl⟩
    · obtain ⟨s, hs, hsa⟩ := ih _ _ (List.drop_subset _ _) ha
      rcases mem_addNew.1 hs with h | h
      · exact ⟨s, h, hsa⟩
      · obtain ⟨b, hb, hbs⟩ := List.mem_flatMap.1 h
        exact ⟨b, hlast hb, .head hbs hsa⟩

/-- With enough rounds, the walk visits with a place its successors. Those of places that were
visited before the last round have been visited. -/
theorem breadthFirst_closed {places : List α} (hplaces : ∀ a b, b ∈ next a → b ∈ places) :
    ∀ (rounds : Nat) (last seen : List α), seen.Nodup → seen ⊆ places →
      places.length < rounds + seen.length →
      (∀ a ∈ seen, a ∈ last ∨ next a ⊆ seen) →
      ∀ a ∈ breadthFirst next rounds last seen, next a ⊆ breadthFirst next rounds last seen := by
  intro rounds
  induction rounds with
  | zero =>
    intro last seen hnd hsub hlen _
    have := (hnd.subperm hsub).length_le
    omega
  | succ rounds ih =>
    intro last seen hnd hsub hlen hinv
    simp only [breadthFirst]
    obtain ⟨new, hnew⟩ := exists_addNew_eq_append seen (last.flatMap next)
    have hlast : ∀ a ∈ last, next a ⊆ addNew seen (last.flatMap next) := by
      intro a ha b hb
      exact mem_addNew.2 (Or.inr (List.mem_flatMap.2 ⟨a, ha, hb⟩))
    have hdrop : (addNew seen (last.flatMap next)).drop seen.length = new := by simp [hnew]
    split
    · rename_i hnil
      have : addNew seen (last.flatMap next) = seen := by rw [hnew, ← hdrop, hnil]; simp
      rw [this] at hlast
      intro a ha
      rcases hinv a ha with h | h
      · exact hlast a h
      · exact h
    · rename_i hne
      have hpos : 0 < new.length := List.length_pos_iff.2 (by rw [← hdrop]; exact hne)
      refine ih _ _ (nodup_addNew hnd _) ?_ ?_ ?_
      · intro a ha
        rcases mem_addNew.1 ha with h | h
        · exact hsub h
        · obtain ⟨b, _, hb⟩ := List.mem_flatMap.1 h
          exact hplaces b a hb
      · rw [hnew, List.length_append]; omega
      · intro a ha
        rw [hdrop]
        rw [hnew] at ha
        rcases List.mem_append.1 ha with h | h
        · rcases hinv a h with h' | h'
          · exact Or.inr (hlast a h')
          · exact Or.inr fun b hb => subset_addNew _ _ (h' hb)
        · exact Or.inl h

/-- **The walk in rounds visits what can be reached.** -/
theorem mem_breadthFirst_iff {places : List α} (hplaces : ∀ a b, b ∈ next a → b ∈ places)
    {rounds : Nat} (hrounds : places.length ≤ rounds) {s a : α} (hs : s ∈ places) :
    a ∈ breadthFirst next rounds [s] [s] ↔ Relation.ReflTransGen (fun a b => b ∈ next a) s a := by
  constructor
  · intro ha
    obtain ⟨t, ht, hta⟩ := reached_of_mem_breadthFirst rounds [s] [s] (by simp) ha
    rw [List.mem_singleton] at ht
    exact ht ▸ hta
  · intro hsa
    have hclosed := breadthFirst_closed hplaces rounds [s] [s] (List.nodup_singleton s)
      (by simpa using hs) (by rw [List.length_singleton]; omega) (fun a ha => Or.inl ha)
    induction hsa with
    | refl => exact subset_breadthFirst _ _ _ _ (by simp)
    | tail _ hbc ih => exact hclosed _ ih hbc

end BreadthFirst

end Zettel
