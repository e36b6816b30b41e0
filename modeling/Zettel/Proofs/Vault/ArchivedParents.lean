import Zettel.Proofs.Graph.ParentOrder
import Zettel.Proofs.Vault.Waiting

/-!
# Archived parents

Parents that archive their subtrees are put behind the others when a branch places a note, when a
note arrives below its parents, and when a label that archives comes or goes. They are not when a
parent arrives after the branch that places a note below it: the new parent goes behind all others,
archived or not.

Main statement: `archivedLast_run_iff`, in a run the archived parents of a note stand behind the
others exactly as long as no parent arrives late below an archived one.
-/

namespace Zettel

theorem pairwise_behind {α : Type} (test : α → Bool) (xs : List α) :
    (behind test xs).Pairwise fun x y => test x = true → test y = true := by
  have hfalse : ∀ x ∈ xs.filter (!test ·), test x = false := fun x hx => by
    simpa using (List.mem_filter.1 hx).2
  have htrue : ∀ x ∈ xs.filter test, test x = true := fun x hx => (List.mem_filter.1 hx).2
  refine List.pairwise_append.2 ⟨?_, ?_, ?_⟩
  · exact List.pairwise_of_forall_mem_list fun x hx y _ h => absurd h (by simp [hfalse x hx])
  · exact List.pairwise_of_forall_mem_list fun _ _ y hy _ => htrue y hy
  · exact fun _ _ y hy _ => htrue y hy

namespace Graph

variable {g g' : Graph} {b : Branch} {a : Attribute} {row : NoteRow} {n m p : NoteId}

/-! ## Which notes archive -/

theorem archivesSubtree_of_unknown (hn : ¬g.hasNote n = true) : g.archivesSubtree n = false := by
  rw [archivesSubtree, owned, edges_of_unknown hn]
  rfl

theorem archivesSubtree_arrive (hn : ¬g.hasNote row.id = true) :
    (g.arrive row).archivesSubtree p = g.archivesSubtree p :=
  archivesSubtree_congr (owned_arrive hn) fun _ _ => by rw [attributes_arrive]

theorem archivesSubtree_iff : g.archivesSubtree p = true ↔
    ∃ id ∈ g.owned p, ∃ a, g.attributes.get? id = some a ∧ a.archivesSubtree = true := by
  simp only [archivesSubtree, List.any_eq_true, Option.any_eq_true]

/-- Taking an attribute off changes only whether its owner archives, and only if it does itself. -/
theorem Attached.archivesSubtree_removeAttribute (h : g.Attached)
    (ha : g.attributes.get? a.id = some a) (hp : p ≠ a.owner ∨ a.archivesSubtree = false) :
    (g.removeAttribute a).archivesSubtree p = g.archivesSubtree p := by
  have hmem : ∀ id, id ∈ (g.removeAttribute a).owned p ∧ id ≠ a.id ↔
      id ∈ g.owned p ∧ id ≠ a.id := by
    intro id
    rw [owned_removeAttribute]
    split_ifs <;> simp
  rw [Bool.eq_iff_iff, archivesSubtree_iff, archivesSubtree_iff]
  refine exists_congr fun id => ?_
  rw [attributes_removeAttribute, Table.get?_erase]
  by_cases hid : id = a.id
  · -- the attribute itself archives nothing
    rw [if_pos hid, hid, ha]
    refine iff_of_false (by simp) ?_
    rintro ⟨howned, a', ha', harchives⟩
    obtain rfl := Option.some.inj ha'
    obtain ⟨a', ha', howner⟩ := h.owned_stored howned
    obtain rfl := Option.some.inj (ha.symm.trans ha')
    exact hp.elim (fun hne => hne howner.symm) fun hnot => by simp [hnot] at harchives
  · rw [if_neg hid]
    have hsame := hmem id
    simp only [hid, ne_eq, not_false_eq_true, and_true] at hsame
    rw [hsame]

theorem Attached.archivesSubtree_attach (h : g.Attached) (hn : g.hasNote a.owner = true)
    (hfree : g.attributes.get? a.id = none) (hp : p ≠ a.owner ∨ a.archivesSubtree = false) :
    (g.attach a).archivesSubtree p = g.archivesSubtree p := by
  rw [Bool.eq_iff_iff, archivesSubtree_iff, archivesSubtree_iff]
  refine exists_congr fun id => ?_
  rw [attributes_attach, Table.get?_insert, owned_attach hn]
  by_cases hid : id = a.id
  · rw [if_pos hid]
    refine iff_of_false ?_ ?_
    · rintro ⟨howned, a', ha', harchives⟩
      obtain rfl := Option.some.inj ha'
      rcases hp with hne | hnot
      · rw [if_neg hne] at howned
        obtain ⟨a', ha', -⟩ := h.owned_stored howned
        rw [hid, hfree] at ha'
        cases ha'
      · simp [hnot] at harchives
    · rintro ⟨-, a', ha', -⟩
      rw [hid, hfree] at ha'
      cases ha'
  · rw [if_neg hid]
    split_ifs <;> simp [hid]

/-! ## Archived parents last -/

/-- No parent of the note `n` that archives its subtree stands before one that does not. -/
def ArchivedLastAt (g : Graph) (n : NoteId) : Prop :=
  (g.parents n).Pairwise fun p q => g.archivesSubtree p = true → g.archivesSubtree q = true

instance (g : Graph) (n : NoteId) : Decidable (g.ArchivedLastAt n) :=
  inferInstanceAs (Decidable (List.Pairwise _ _))

/-- Fewer parents, which archive as they did, stand as they did. -/
theorem ArchivedLastAt.of_sublist (h : g.ArchivedLastAt n)
    (hparents : (g'.parents n).Sublist (g.parents n))
    (harchives : ∀ p ∈ g'.parents n, g'.archivesSubtree p = g.archivesSubtree p) :
    g'.ArchivedLastAt n := by
  refine (h.sublist hparents).imp_of_mem fun hp hq hle => ?_
  rwa [harchives _ hp, harchives _ hq]

theorem archivedLastAt_resortParents (g : Graph) (n : NoteId) :
    (g.resortParents n).ArchivedLastAt n := by
  have harchives : (g.resortParents n).archivesSubtree = g.archivesSubtree := funext fun _ =>
    archivesSubtree_congr (by simp) (by simp)
  rw [ArchivedLastAt, harchives, parents_resortParents, if_pos rfl]
  exact pairwise_behind _ _

theorem ArchivedLastAt.resortParents (h : g.ArchivedLastAt n) (m : NoteId) :
    (g.resortParents m).ArchivedLastAt n := by
  by_cases hn : n = m
  · rw [hn]
    exact archivedLastAt_resortParents g m
  · refine h.of_sublist ?_ fun _ _ => archivesSubtree_congr (by simp) (by simp)
    rw [parents_resortParents, if_neg hn]

/-- When an attribute has come or gone, and the parents below its owner are put in order if it is a
label that may archive, then all parents are in order. -/
theorem ArchivedLastAt.resortBelow (h : g.ArchivedLastAt n) (hg' : g'.Linked)
    (hparents : g'.parents n = g.parents n) (harchives : ∀ p, p ≠ a.owner ∨
      a.archivesSubtree = false → g'.archivesSubtree p = g.archivesSubtree p) :
    (g'.resortBelow a).ArchivedLastAt n := by
  have hsame : (g'.resortBelow a).archivesSubtree = g'.archivesSubtree := funext fun _ =>
    archivesSubtree_congr (by simp) (by simp)
  have hsorted := parents_resortBelow_eq g' a n
  split_ifs at hsorted with hbelow
  · rw [ArchivedLastAt, hsame, hsorted]
    exact pairwise_behind _ _
  · rw [hparents] at hsorted
    refine h.of_sublist (hsorted ▸ .refl _) fun p hp => ?_
    rw [hsame]
    refine harchives p ?_
    by_contra hnot
    obtain ⟨rfl, hlabel⟩ := not_or.1 hnot |>.imp not_not.1 id
    rw [hsorted, ← hparents] at hp
    refine hbelow ⟨?_, hg'.mirror.2 hp⟩
    rw [Bool.not_eq_false, Attribute.archivesSubtree, Bool.and_eq_true] at hlabel
    exact hlabel.1

/-! ## Changes of the graph -/

theorem ArchivedLastAt.eraseBranch (h : g.ArchivedLastAt n) :
    (g.eraseBranch b).ArchivedLastAt n := by
  refine h.of_sublist ?_ fun _ _ => archivesSubtree_congr (by simp) (by simp)
  rw [parents_eraseBranch]
  split_ifs
  · exact List.erase_sublist
  · exact .refl _

/-- The parents of the note that a branch places are put in order, and no others are added to. -/
theorem ArchivedLastAt.placeBranch (h : g.ArchivedLastAt n) (row : BranchRow) :
    (Vault.placeBranch g row).ArchivedLastAt n := by
  by_cases hn : n = row.child
  · rw [hn]
    exact archivedLastAt_resortParents _ row.child
  · have hadded : (g.addBranch (.ofRow row)).ArchivedLastAt n := by
      rw [addBranch_eq]
      refine h.of_sublist ?_ fun _ _ => archivesSubtree_congr (by simp) (by simp)
      rw [parents_linkBranch, if_neg fun hj => hn hj.2]
      exact .refl _
    have hsorted : ((g.addBranch (.ofRow row)).sortChildren row.parent).ArchivedLastAt n :=
      hadded.of_sublist (by simp) fun _ _ => archivesSubtree_congr (by simp) (by simp)
    exact hsorted.resortParents row.child

theorem ArchivedLastAt.eraseNote (h : g.ArchivedLastAt n) (hg : g.Linked)
    (hbranches : ∀ id b, g.branches.get? id = some b → b.child ≠ m ∧ b.parent ≠ m) :
    (g.eraseNote m).ArchivedLastAt n := by
  have hparents : (g.eraseNote m).parents n = if n = m then [] else g.parents n := by
    rw [parents, edges_eraseNote]
    split_ifs <;> rfl
  refine h.of_sublist ?_ fun p hp => ?_
  · rw [hparents]
    split_ifs
    · exact List.nil_sublist _
    · exact .refl _
  · have hp' : p ∈ g.parents n := by
      rw [hparents] at hp
      split_ifs at hp
      · cases hp
      · exact hp
    obtain ⟨id, b, hb, -, rfl⟩ := hg.placement_stored hp'
    refine archivesSubtree_congr ?_ fun _ _ => rfl
    rw [owned, edges_eraseNote, if_neg (hbranches id b hb).2, owned]

/-- **A parent that arrives goes behind the others**, and so behind those that are archived. -/
theorem ArchivedLastAt.arrive_iff (h : g.ArchivedLastAt n) (hg : g.Linked)
    (hknown : g.PlacesKnown) (hn : ¬g.hasNote row.id = true) : (g.arrive row).ArchivedLastAt n ↔
      ¬(g.HasBranch n row.id ∧ ∃ p ∈ g.parents n, g.archivesSubtree p = true) := by
  have harchives : (g.arrive row).archivesSubtree = g.archivesSubtree := funext fun _ =>
    archivesSubtree_arrive hn
  by_cases hrow : n = row.id
  · have hnone : g.parents n = [] := by rw [parents, edges_of_unknown (hrow ▸ hn)]
    refine iff_of_true ?_ (by simp [hnone])
    rw [hrow]
    exact archivedLastAt_resortParents _ row.id
  · rw [ArchivedLastAt, harchives, hknown.parents_arrive_of_ne hn hrow]
    have hjoins : (∃ p ∈ g.parents n, g.archivesSubtree p = true) →
        ((g.arrive row).CanJoin n row.id ↔ g.HasBranch n row.id) := by
      rintro ⟨p, hp, -⟩
      simp [CanJoin, HasBranch, hasNote_arrive, hg.child_ne_root hp, hasNote_of_mem_parents hp]
    split_ifs with hjoined
    · have hbranch : g.HasBranch n row.id := by simpa [HasBranch] using hjoined.2.2.2
      have hold : List.Pairwise (fun p q => g.archivesSubtree p = true →
        g.archivesSubtree q = true) (g.parents n) := h
      simp [List.pairwise_append, hold, hbranch, archivesSubtree_of_unknown hn]
    · exact iff_of_true h fun hboth => hjoined ((hjoins hboth.2).2 hboth.1)

end Graph

/-! ## Updates -/

/-- The update puts a note into the graph that a stored branch places `n` under, and that comes to
stand behind an archived parent of `n`. -/
def Update.Misplaces (g : Graph) (n : NoteId) : Update → Prop
  | .upsertNote row => ¬g.hasNote row.id = true ∧ g.HasBranch n row.id ∧
      ∃ p ∈ g.parents n, g.archivesSubtree p = true
  | _ => False

namespace Vault

variable {v : Vault} {n m : NoteId}

theorem archivedLastAt_deleteBranch (hg : v.graph.Consistent) (h : v.graph.ArchivedLastAt n)
    (id : BranchId) : (v.deleteBranch id).graph.ArchivedLastAt n := by
  rcases deleteBranch_cases hg.keyed id with ⟨-, heq⟩ | ⟨b, -, -, heq⟩
  · rwa [heq]
  · rw [heq]
    exact h.eraseBranch

theorem archivedLastAt_deleteAttribute (hg : v.graph.Consistent) (h : v.graph.ArchivedLastAt n)
    (id : AttributeId) : (v.deleteAttribute id).graph.ArchivedLastAt n := by
  rcases deleteAttribute_cases hg.keyed id with ⟨-, heq⟩ | ⟨old, -, hold, heq⟩
  · rwa [heq]
  · rw [heq]
    exact h.resortBelow (hg.removeAttribute hold).toLinked (by simp) fun p hp =>
      hg.toAttached.archivesSubtree_removeAttribute hold hp

theorem archivedLastAt_upsertAttribute (hg : v.graph.Consistent) (h : v.graph.ArchivedLastAt n)
    (row : AttributeRow) : (v.upsertAttribute row).graph.ArchivedLastAt n := by
  have hdeleted := archivedLastAt_deleteAttribute hg h row.id
  have hg' := consistent_deleteAttribute hg row.id
  have hfree : (v.deleteAttribute row.id).graph.attributes.get? row.id = none := by
    rw [get?_attributes_deleteAttribute hg.keyed, if_pos rfl]
  rw [upsertAttribute_eq]
  dsimp only
  split_ifs with howner
  · exact hdeleted.resortBelow (hg'.attach howner hfree).toLinked (by simp) fun p hp =>
      hg'.toAttached.archivesSubtree_attach howner hfree hp
  · exact hdeleted

theorem archivedLastAt_upsertBranch (hg : v.graph.Consistent) (h : v.graph.ArchivedLastAt n)
    (row : BranchRow) : (v.upsertBranch row).graph.ArchivedLastAt n := by
  have hdeleted := archivedLastAt_deleteBranch hg h row.id
  rw [upsertBranch_eq]
  split_ifs
  · exact hdeleted
  · exact hdeleted.placeBranch row

theorem archivedLastAt_deleteNote (hg : v.graph.Consistent) (h : v.graph.ArchivedLastAt n)
    (m : NoteId) : (v.deleteNote m).graph.ArchivedLastAt n := by
  by_cases hm : v.graph.hasNote m = true
  · have hstripped : (v.strip m).graph.Consistent ∧ (v.strip m).graph.ArchivedLastAt n := by
      refine strip_induction (P := fun w => w.graph.Consistent ∧ w.graph.ArchivedLastAt n)
        ?_ ?_ ⟨hg, h⟩ m
      · exact fun w id hw =>
          ⟨consistent_deleteAttribute hw.1 id, archivedLastAt_deleteAttribute hw.1 hw.2 id⟩
      · exact fun w id hw =>
          ⟨consistent_deleteBranch hw.1 id, archivedLastAt_deleteBranch hw.1 hw.2 id⟩
    rw [deleteNote_of_known hm, graph_foldl_forgetSubtree]
    exact hstripped.2.eraseNote hstripped.1.toLinked (strip_cases hg m).2.1
  · rwa [deleteNote, if_neg hm]

theorem archivedLastAt_upsertNote_iff (hv : v.Reachable) (h : v.graph.ArchivedLastAt n)
    (row : NoteRow) : (v.upsertNote row).graph.ArchivedLastAt n ↔
      ¬(Update.upsertNote row).Misplaces v.graph n := by
  rw [Update.Misplaces]
  by_cases hn : v.graph.hasNote row.id = true
  · rw [upsertNote_of_known hn]
    refine iff_of_true ?_ fun hmisplaces => hmisplaces.1 hn
    exact h.of_sublist (by simp [Graph.parents]) fun _ _ =>
      Graph.archivesSubtree_congr (by simp [Graph.owned]) (by simp)
  · obtain ⟨memo, -, heq⟩ := upsertNote_of_new hn
    rw [heq, and_iff_right hn]
    exact h.arrive_iff hv.consistent.toLinked hv.placesKnown hn

/-- **A step keeps the archived parents of a note behind the others, exactly if it does not misplace
a parent.** -/
theorem archivedLastAt_apply_iff (hv : v.Reachable) (h : v.graph.ArchivedLastAt n) (u : Update) :
    (v.apply u).graph.ArchivedLastAt n ↔ ¬u.Misplaces v.graph n := by
  have hg := hv.consistent
  cases u with
  | upsertNote row => exact archivedLastAt_upsertNote_iff hv h row
  | deleteNote m => exact iff_of_true (archivedLastAt_deleteNote hg h m) not_false
  | upsertBranch row => exact iff_of_true (archivedLastAt_upsertBranch hg h row) not_false
  | deleteBranch id => exact iff_of_true (archivedLastAt_deleteBranch hg h id) not_false
  | upsertAttribute row => exact iff_of_true (archivedLastAt_upsertAttribute hg h row) not_false
  | deleteAttribute id => exact iff_of_true (archivedLastAt_deleteAttribute hg h id) not_false

/-- **In a run from the empty vault the archived parents of a note stand behind the others all the
time, exactly if no update misplaces a parent of it.** -/
theorem archivedLast_run_iff (us : List Update) (n : NoteId) :
    (∀ us', us' <+: us → (us'.foldl apply .empty).graph.ArchivedLastAt n) ↔
      ∀ us' u, us' ++ [u] <+: us → ¬u.Misplaces (us'.foldl apply .empty).graph n :=
  run_iff (P := fun v => v.graph.ArchivedLastAt n) (fun _ hv h u => archivedLastAt_apply_iff hv h u)
    .nil us

/-- A note lies below an archived one, and a branch places it below another note that is not there
yet. This one is put behind the archived one when it comes. -/
theorem misplaced_lateParent : let v := [Update.upsertNote { id := "n", title := "n" },
      .upsertNote { id := "q", title := "q" },
      .upsertAttribute (AttributeRow.label "a" "q" "archived" "").inheritable,
      .upsertBranch { id := "nq", child := "n", parent := "q" },
      .upsertBranch { id := "np", child := "n", parent := "p" },
      .upsertNote { id := "p", title := "p" }].foldl apply .empty
    v.graph.parents "n" = ["q", "p"] ∧ v.graph.archivesSubtree "q" = true ∧
      v.graph.archivesSubtree "p" = false ∧ ¬v.graph.ArchivedLastAt "n" := by
  decide +kernel

end Vault

end Zettel
