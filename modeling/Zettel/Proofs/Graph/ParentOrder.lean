import Zettel.Proofs.Graph.Attachment
import Zettel.Proofs.Inheritance.Plain
import Zettel.Proofs.Walk

/-!
# The order of parents

The parents of a note stand in the order in which it was placed below them, those that archive their
subtrees behind the others. They are put in order again whenever such a label comes or goes, from
the order that they have then; so a parent that is archived for a while ends up behind the others.

Main statements: `parents_foldl_resortParents_eq` and `parents_resortBelow_eq`, which lists of
parents are put in order, and `addNew_behind`, putting some members behind the others commutes with
leaving out what has occurred before.
-/

namespace Zettel

/-! ## Putting some members behind the others -/

section Behind

variable {α β : Type} {test test' : α → Bool} {xs ys : List α}

/-- The members of a list, those that pass the test behind the others. -/
def behind (test : α → Bool) (xs : List α) : List α := xs.filter (!test ·) ++ xs.filter test

theorem behind_congr (h : ∀ x ∈ xs, test' x = test x) : behind test' xs = behind test xs := by
  rw [behind, behind, List.filter_congr h,
    List.filter_congr fun x hx => congrArg (!·) (h x hx)]

theorem perm_behind (test : α → Bool) (xs : List α) : (behind test xs).Perm xs := by
  have h := List.filter_append_perm (fun x => !test x) xs
  simpa [behind] using h

theorem mem_behind {x : α} : x ∈ behind test xs ↔ x ∈ xs := (perm_behind test xs).mem_iff

theorem filter_behind (keep test : α → Bool) (xs : List α) :
    (behind test xs).filter keep = behind test (xs.filter keep) := by
  rw [behind, behind, List.filter_append, List.filter_comm, List.filter_comm _ test]

theorem map_behind (f : β → α) (test : α → Bool) (xs : List β) :
    (behind (test ∘ f) xs).map f = behind test (xs.map f) := by
  rw [behind, behind, List.map_append, List.filter_map, List.filter_map]
  rfl

/-- Members that are behind the others already stay where they are, and more can be added. -/
theorem behind_behind_append (test : α → Bool) (xs ys : List α) :
    behind test (behind test xs ++ ys) = behind test (xs ++ ys) := by
  simp [behind, List.filter_append, List.filter_filter]

theorem behind_behind (test : α → Bool) (xs : List α) :
    behind test (behind test xs) = behind test xs := by
  simpa using behind_behind_append test xs []

variable [DecidableEq α]

/-- **It makes no difference whether the members are put behind the others first, or those left out
first that have occurred before.** -/
theorem addNew_behind (test : α → Bool) (xs : List α) :
    addNew [] (behind test xs) = behind test (addNew [] xs) := by
  have hfilter : ∀ keep : α → Bool, addNew [] (xs.filter keep) = (addNew [] xs).filter keep :=
    fun keep => addNew_filter keep [] xs
  have hapart : ∀ x ∈ xs.filter test, x ∉ addNew [] (xs.filter (!test ·)) := by
    intro x hx hx'
    rw [hfilter, List.mem_filter, Bool.not_eq_true'] at hx'
    exact Bool.false_ne_true (hx'.2.symm.trans (List.mem_filter.1 hx).2)
  have happend := addNew_append_of_disjoint (addNew [] (xs.filter (!test ·))) [] hapart
  rw [List.append_nil] at happend
  rw [behind, addNew_append, happend, hfilter, hfilter, behind]

end Behind

namespace Graph

variable {g g' : Graph} {a : Attribute} {n m : NoteId}

/-! ## Which parents are put in order -/

theorem archivedLast_congr (h : g'.archivesSubtree = g.archivesSubtree) (ps : List NoteId) :
    g'.archivedLast ps = g.archivedLast ps := by
  rw [archivedLast, archivedLast, h]

/-- Exactly the parents of the given notes are put in order, however often a note is given. -/
theorem parents_foldl_resortParents_eq (g : Graph) (ns : List NoteId) (m : NoteId) :
    (ns.foldl resortParents g).parents m =
      if m ∈ ns then g.archivedLast (g.parents m) else g.parents m := by
  induction ns generalizing g with
  | nil => rfl
  | cons n ns ih =>
    have harchives : (g.resortParents n).archivesSubtree = g.archivesSubtree := funext fun _ =>
      archivesSubtree_congr (by simp) (by simp)
    have htwice : g.archivedLast (g.archivedLast (g.parents m)) = g.archivedLast (g.parents m) :=
      behind_behind _ _
    rw [List.foldl_cons, ih, archivedLast_congr harchives, parents_resortParents]
    by_cases hm : m = n
    · rw [if_pos hm, htwice, ite_self, if_pos (hm ▸ List.mem_cons_self)]
    · simp only [List.mem_cons, hm, false_or, if_false]

/-- A label that archives puts the parents of the notes below its owner in order. -/
theorem parents_resortBelow_eq (g : Graph) (a : Attribute) (m : NoteId) :
    (g.resortBelow a).parents m =
      if (a.isLabel && a.name = Attribute.archivedName) = true ∧ m ∈ g.children a.owner then
        g.archivedLast (g.parents m)
      else g.parents m := by
  rw [resortBelow]
  by_cases harchived : (a.isLabel && a.name = Attribute.archivedName) = true
  · simp only [harchived, if_true, true_and, parents_foldl_resortParents_eq]
  · rw [if_neg harchived, if_neg fun h => harchived h.1]

end Graph

end Zettel
