import Zettel.Proofs.Search.Pointwise

/-!
# Evaluation only narrows

Whatever an expression asks for, its outcome is made of the set that it is evaluated for in a few
ways: members are chosen, what was chosen is joined, and it is put in order and cut down. So what
these ways respect holds between each set and the outcome for it. In particular nothing is found
that was not a member.

Main statements: `IsRespected.of_outcome`, what holds between a set and the outcome for it, and
`subset_of_outcome`, what is found is a member.
-/

namespace Zettel.Search

open Query

variable {scope : Scope} {memo : Memo} {e : Expression} {s found : NoteSet}
  {R : NoteSet → NoteSet → Prop}

/-! ## What holds between a set and an outcome -/

/-- What holds between sets respects the ways in which an outcome is made, except for the order. -/
structure IsRespected (R : NoteSet → NoteSet → Prop) : Prop where
  refl (s : NoteSet) : R s s
  trans {s t u : NoteSet} : R s t → R t u → R s u
  filter (s : NoteSet) (p : NoteId → Bool) : R s (s.filter p)
  empty (s : NoteSet) : R s .empty
  addAll {s t u : NoteSet} : R s t → R s u → R s (t.addAll u)
  truncate (s : NoteSet) (k : Nat) : R s (s.truncate k)

theorem bind_eq_ok {α β : Type} {x : Except Failure α} {f : α → Except Failure β} {b : β}
    (h : x >>= f = .ok b) : ∃ a, x = .ok a ∧ f a = .ok b := by
  cases x with
  | ok a => exact ⟨a, rfl, h⟩
  | error failure => cases h

theorem IsRespected.of_tests (hR : IsRespected R) (h : Tests scope memo (evaluate scope e))
    (hfound : outcome scope memo e s = .ok found) : R s found := by
  obtain ⟨v, hv⟩ := h
  rw [outcome_eq (hv s)] at hfound
  cases v with
  | ok test => exact Except.ok.inj hfound ▸ hR.filter s test
  | error failure => cases hfound

/-- Members that are chosen by what another evaluation comes to are members that are chosen. -/
theorem IsRespected.of_filter (hR : IsRespected R) {x : Except Failure NoteSet}
    {p : NoteSet → NoteId → Bool}
    (hfound : (do return s.filter (p (← x))) = Except.ok found) : R s found := by
  obtain ⟨t, -, ht⟩ := bind_eq_ok hfound
  exact Except.ok.inj ht ▸ hR.filter s (p t)

theorem IsRespected.of_allOf (hR : IsRespected R) {parts : List Expression}
    (h : ∀ e ∈ parts, ∀ s found, outcome scope memo e s = .ok found → R s found)
    (hfound : outcome scope memo (.allOf parts) s = .ok found) : R s found := by
  induction parts generalizing s with
  | nil =>
    rw [outcome_allOf_nil] at hfound
    exact Except.ok.inj hfound ▸ hR.refl s
  | cons e parts ih =>
    rw [List.forall_mem_cons] at h
    rw [outcome_allOf_cons] at hfound
    obtain ⟨t, ht, hrest⟩ := bind_eq_ok hfound
    exact hR.trans (h.1 s t ht) (ih h.2 hrest)

/-- The alternatives are followed from any set of notes that were found so far. -/
theorem IsRespected.of_foldlM (hR : IsRespected R) {parts : List Expression} {start : NoteSet}
    (h : ∀ e ∈ parts, ∀ s found, outcome scope memo e s = .ok found → R s found)
    (hstart : R s start)
    (hfound : parts.foldlM (fun t e => return t.addAll (← outcome scope memo e s)) start =
      .ok found) : R s found := by
  induction parts generalizing start with
  | nil => exact Except.ok.inj hfound ▸ hstart
  | cons e parts ih =>
    rw [List.forall_mem_cons] at h
    rw [List.foldlM_cons] at hfound
    obtain ⟨t, ht, hrest⟩ := bind_eq_ok hfound
    obtain ⟨u, hu, hjoined⟩ := bind_eq_ok ht
    obtain rfl := Except.ok.inj hjoined
    exact ih h.2 (hR.addAll hstart (h.1 s u hu)) hrest

theorem IsRespected.of_ordered (hR : IsRespected R) {inner : Expression} {order : List OrderTerm}
    {limit : Option Nat}
    (h : ∀ s found, outcome scope memo inner s = .ok found → R s found)
    (horder : order = [] ∨ ∀ s t, inOrder scope memo s order = .ok t → R s t)
    (hfound : outcome scope memo (.orderByAndLimit inner order limit) s = .ok found) :
    R s found := by
  rw [outcome_eq (delivers_orderByAndLimit (delivers_evaluate scope memo inner) order limit s)]
    at hfound
  obtain ⟨t, ht, hrest⟩ := bind_eq_ok hfound
  split_ifs at hrest with hnone
  · exact Except.ok.inj hrest ▸ h s t ht
  · obtain ⟨u, hu, hcut⟩ := bind_eq_ok hrest
    have hsorted := horder.resolve_left (by simpa using hnone) t u hu
    refine hR.trans (h s t ht) (hR.trans hsorted ?_)
    obtain rfl := Except.ok.inj hcut
    cases limit with
    | none => exact hR.refl u
    | some k => exact hR.truncate u k

/-- **What respects the ways in which outcomes are made holds between a set and the outcome for
it**, if the expression orders nothing, or sorting is respected as well. -/
theorem IsRespected.of_outcome (hR : IsRespected R)
    (horder : e.hasOrder = false ∨
      ∀ order s t, inOrder scope memo s order = .ok t → R s t)
    (hfound : outcome scope memo e s = .ok found) : R s found := by
  have hsettled := delivers_evaluate scope memo
  rw [Expression.hasOrder] at horder
  induction e using Expression.inductionOn generalizing s found with
  | allOf parts ih =>
    rw [Expression.anyOrdering, Expression.anyOrderingOf_eq_false] at horder
    exact hR.of_allOf (fun e he s found => ih e he (horder.imp_left fun h => h e he)) hfound
  | anyOf parts ih =>
    rw [Expression.anyOrdering, Expression.anyOrderingOf_eq_false] at horder
    rw [outcome_eq (delivers_anyOf (fun e _ => hsettled e) s)] at hfound
    exact hR.of_foldlM (fun e he s found => ih e he (horder.imp_left fun h => h e he))
      (hR.empty s) hfound
  | not part =>
    rw [outcome_eq (delivers_not (hsettled part) s)] at hfound
    exact hR.of_filter hfound
  | fulltext tokens => exact hR.of_tests (tests_fulltext scope memo tokens) hfound
  | noteContent op tokens => exact hR.of_tests (tests_noteContent scope memo op tokens) hfound
  | protectedContent op tokens =>
    exact hR.of_tests (tests_protectedContent scope memo op tokens) hfound
  | attributeExists kind name byBeginning =>
    exact hR.of_tests (tests_attributeExists scope memo kind name byBeginning) hfound
  | attributeCompare kind name c =>
    exact hR.of_tests (tests_attributeCompare scope memo kind name c) hfound
  | relationWhere name target =>
    exact hR.of_tests (tests_relationWhere (hsettled target) name) hfound
  | descendantOf ancestor => exact hR.of_tests (tests_descendantOf (hsettled ancestor)) hfound
  | childOf parent =>
    rw [outcome_eq (delivers_childOf (hsettled parent) s)] at hfound
    exact hR.of_filter hfound
  | parentOf child =>
    rw [outcome_eq (delivers_parentOf (hsettled child) s)] at hfound
    exact hR.of_filter hfound
  | propertyComparison p c => exact hR.of_tests (tests_propertyComparison scope memo p c) hfound
  | orderByAndLimit inner order limit ih =>
    rw [Expression.anyOrdering, Bool.or_eq_false_iff, Bool.not_eq_false', List.isEmpty_iff]
      at horder
    exact hR.of_ordered (fun s found => ih (horder.imp_left And.right))
      (horder.imp And.left fun h => h order) hfound

/-! ## Members -/

theorem mem_of_mem_addIds {s : NoteSet} {ns : List NoteId} {n : NoteId}
    (h : n ∈ (s.addIds ns).ids) : n ∈ s.ids ∨ n ∈ ns := by
  induction ns generalizing s with
  | nil => exact Or.inl h
  | cons m ns ih =>
    rcases ih h with hadded | hrest
    · rw [NoteSet.ids_add] at hadded
      split_ifs at hadded with hm
      · exact Or.inl hadded
      · exact (List.mem_append.1 hadded).imp_right fun h =>
          List.mem_cons.2 (Or.inl (List.mem_singleton.1 h))
    · exact Or.inr (List.mem_cons_of_mem m hrest)

theorem isRespected_subset : IsRespected fun s found => found.ids ⊆ s.ids where
  refl _ := List.Subset.refl _
  trans hst htu := List.Subset.trans htu hst
  filter _ _ _ hn := (NoteSet.mem_filter.1 hn).1
  empty _ := List.nil_subset _
  addAll ht hu _ hn := (mem_of_mem_addIds hn).elim (fun h => ht h) fun h => hu h
  truncate _ _ := List.take_subset _ _

theorem subset_of_inOrder {order : List OrderTerm} (h : inOrder scope memo s order = .ok found) :
    found.ids ⊆ s.ids := by
  have hset : IsSetOf (inOrder scope memo s order) (· ∈ s.ids) := isSetOf_inOrder s order
  rcases hset with habort | ⟨sorted, hsorted, -, hmem⟩
  · rw [habort] at h
    cases h
  · obtain rfl := Except.ok.inj (hsorted.symm.trans h)
    exact fun n hn => (hmem n).1 hn

/-- **Nothing is found that is not a member of the set.** -/
theorem subset_of_outcome (hfound : outcome scope memo e s = .ok found) : found.ids ⊆ s.ids :=
  isRespected_subset.of_outcome (Or.inr fun _ _ _ => subset_of_inOrder) hfound

end Zettel.Search
