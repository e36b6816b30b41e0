import Mathlib.Data.List.Induction
import Zettel.Proofs.Vault.Departure
import Zettel.Proofs.Vault.Reachable

/-!
# Edges and stored branches

A note lies below another one exactly if some stored branch places it there. Several branches may do
so; one of them is looked up for the pair. Edges follow the branches when branches and notes come in
any order, and when notes go. They stop to follow them when one of several branches between the same
notes goes: this separates the notes, and no other branch joins them again.

Main statement: `edgesFollow_run_iff`, in a run the edges follow the branches exactly as long as no
update severs notes in this way.
-/

namespace Zettel.Graph

variable {g g' : Graph} {b b' : Branch} {bs : List Branch} {n m c p : NoteId}

/-! ## Placements are between known notes -/

/-- Where a placement is looked up, both notes are known, and the lower one is not the root note. -/
def PlacesKnown (g : Graph) : Prop := ∀ ⦃c p⦄, g.placements.contains (c, p) = true →
  c ≠ rootId ∧ g.hasNote c = true ∧ g.hasNote p = true

theorem PlacesKnown.of_eq (h : g.PlacesKnown) (hnote : ∀ n, g.hasNote n = true → g'.hasNote n = true)
    (hplacements : g'.placements = g.placements) : g'.PlacesKnown := by
  intro c p hcp
  rw [hplacements] at hcp
  obtain ⟨hroot, hc, hp⟩ := h hcp
  exact ⟨hroot, hnote c hc, hnote p hp⟩

theorem PlacesKnown.linkBranch (h : g.PlacesKnown) (b : Branch) : (g.linkBranch b).PlacesKnown := by
  intro c p hcp
  rw [hasNote_linkBranch, hasNote_linkBranch]
  rcases contains_placements_linkBranch.1 hcp with hcp | ⟨⟨hroot, hc, hp, -⟩, rfl, rfl⟩
  · exact h hcp
  · exact ⟨hroot, hc, hp⟩

theorem PlacesKnown.linkAll (h : g.PlacesKnown) (bs : List Branch) : (g.linkAll bs).PlacesKnown :=
  List.foldlRecOn bs _ h fun _ h b _ => (h.linkBranch b).of_eq (by simp) (by simp)

theorem PlacesKnown.arrive {row : NoteRow} (h : g.PlacesKnown) : (g.arrive row).PlacesKnown := by
  have hput : (Vault.putNote g row).PlacesKnown :=
    h.of_eq (fun n hn => by rw [hasNote_putNote, hn, Bool.or_true]) rfl
  exact (hput.linkAll ((Vault.putNote g row).branchesAt row.id)).of_eq
    (by simp [Graph.arrive]) (by simp [Graph.arrive])

theorem Linked.placesKnown_eraseBranch (hg : g.Linked) (hb : g.branches.get? b.id = some b)
    (h : g.PlacesKnown) : (g.eraseBranch b).PlacesKnown := by
  intro c p hcp
  rw [Table.contains, Option.isSome_iff_exists] at hcp
  obtain ⟨id, hid⟩ := hcp
  have hplaced := ((hg.get?_placements_eraseBranch hb).1 hid).1
  simpa using h (c := c) (p := p) (by rw [Table.contains, hplaced]; rfl)

/-- A placement leaves with its branch, so it leaves before its notes. -/
theorem Linked.placesKnown_eraseNote (hg : g.Linked)
    (hbranches : ∀ id b, g.branches.get? id = some b → b.child ≠ n ∧ b.parent ≠ n)
    (h : g.PlacesKnown) : (g.eraseNote n).PlacesKnown := by
  intro c p hcp
  rw [placements_eraseNote] at hcp
  obtain ⟨hroot, hc, hp⟩ := h hcp
  rw [Table.contains, Option.isSome_iff_exists] at hcp
  obtain ⟨id, hid⟩ := hcp
  obtain ⟨b, hb, rfl, rfl⟩ := hg.placed hid
  simp [hasNote_eraseNote, hroot, hc, hp, hbranches id b hb]

theorem isKept_placesKnown : IsKept PlacesKnown where
  bare _ _ _ hplacements c p hcp := by
    rw [hplacements] at hcp
    exact absurd hcp (by simp [Table.contains])
  loaded h := h
  sortChildren n h := h.of_eq (by simp) (by simp)
  resortParents n h := h.of_eq (by simp) (by simp)
  addBranch _ _ h := by
    rw [addBranch_eq]
    exact PlacesKnown.linkBranch (h.of_eq (by simp) (by simp)) _
  eraseBranch hg hb h := hg.toLinked.placesKnown_eraseBranch hb h
  attach _ _ _ h := h.of_eq (by simp) (by simp)
  removeAttribute _ _ h := h.of_eq (by simp) (by simp)
  renewNote hn h := h.of_eq (by simp [hasNote_renewNote hn]) (by simp)
  arrive _ _ h := h.arrive
  eraseNote hg hbranches _ h := hg.toLinked.placesKnown_eraseNote hbranches h

/-! ## Edges that follow the branches -/

/-- The edges follow the stored branches: an existing note other than the root note lies below
another one, and a branch is found between them, exactly if a stored branch places it there. -/
def EdgesFollow (g : Graph) : Prop :=
  ∀ c p, c ≠ rootId → g.hasNote c = true → g.hasNote p = true →
    ((p ∈ g.parents c ∧ c ∈ g.children p ∧ (g.branchBetween? c p).isSome = true) ↔
      ∃ id b, g.branches.get? id = some b ∧ b.child = c ∧ b.parent = p)

/-- The branch could join its notes: they exist, and the lower one is not the root note. -/
def Joinable (g : Graph) (b : Branch) : Prop :=
  b.child ≠ rootId ∧ g.hasNote b.child = true ∧ g.hasNote b.parent = true

/-- Where edges are consistent with the branches, it remains that every stored branch that could
join its notes does so. -/
theorem Linked.edgesFollow_iff (hg : g.Linked) : g.EdgesFollow ↔
    ∀ id b, g.branches.get? id = some b → g.Joinable b → b.parent ∈ g.parents b.child := by
  constructor
  · intro h id b hb ⟨hroot, hc, hp⟩
    exact ((h b.child b.parent hroot hc hp).2 ⟨id, b, hb, rfl, rfl⟩).1
  · intro h c p hroot hc hp
    constructor
    · rintro ⟨hmem, -, -⟩
      exact hg.placement_stored hmem
    · rintro ⟨id, b, hb, rfl, rfl⟩
      have hmem := h id b hb ⟨hroot, hc, hp⟩
      have hplaced := hg.parent_placed hmem
      rw [Table.contains, Option.isSome_iff_exists] at hplaced
      obtain ⟨id', hid'⟩ := hplaced
      obtain ⟨b', hb', -⟩ := hg.placed hid'
      refine ⟨hmem, hg.mirror.2 hmem, ?_⟩
      rw [branchBetween?, hid', Option.bind_some, hb']
      rfl

/-- What leaves notes, stored branches and the set of parents alone has no bearing on this. -/
theorem Linked.edgesFollow_congr (hg : g.Linked) (hg' : g'.Linked)
    (hbranches : g'.branches = g.branches) (hnote : ∀ n, g'.hasNote n = g.hasNote n)
    (hparents : ∀ n, (g'.parents n).Perm (g.parents n)) : g'.EdgesFollow ↔ g.EdgesFollow := by
  rw [hg.edgesFollow_iff, hg'.edgesFollow_iff, hbranches]
  refine forall_congr' fun id => forall_congr' fun b => imp_congr_right fun _ => ?_
  rw [Joinable, Joinable, hnote, hnote, (hparents _).mem_iff]

/-! ## Joining -/

/-- Notes lie below each other where a placement is looked up. -/
def PlacesJoined (g : Graph) : Prop :=
  ∀ ⦃c p⦄, g.placements.contains (c, p) = true → p ∈ g.parents c

theorem EdgesFollow.placesJoined (h : g.EdgesFollow) (hg : g.Linked) (hknown : g.PlacesKnown) :
    g.PlacesJoined := by
  intro c p hcp
  obtain ⟨hroot, hc, hp⟩ := hknown hcp
  rw [Table.contains, Option.isSome_iff_exists] at hcp
  obtain ⟨id, hid⟩ := hcp
  obtain ⟨b, hb, hbc, hbp⟩ := hg.placed hid
  exact ((h c p hroot hc hp).2 ⟨id, b, hb, hbc, hbp⟩).1

/-- A branch that is linked joins its notes, unless another one does. -/
theorem PlacesJoined.mem_parents_linkBranch (h : g.PlacesJoined) (hb : g.Joinable b) :
    b.parent ∈ (g.linkBranch b).parents b.child := by
  rw [Graph.mem_parents_linkBranch]
  cases hfree : g.placements.contains (b.child, b.parent) with
  | true => exact Or.inl (h hfree)
  | false => exact Or.inr ⟨⟨hb.1, hb.2.1, hb.2.2, hfree⟩, rfl, rfl⟩

theorem PlacesJoined.linkBranch (h : g.PlacesJoined) (b : Branch) :
    (g.linkBranch b).PlacesJoined := by
  intro c p hcp
  rw [Graph.mem_parents_linkBranch]
  exact (contains_placements_linkBranch.1 hcp).imp_left fun hcp => h hcp

/-- Linking many branches joins the notes of each. -/
theorem PlacesJoined.mem_parents_linkAll (h : g.PlacesJoined) (hb : b ∈ bs) (hj : g.Joinable b) :
    b.parent ∈ (g.linkAll bs).parents b.child := by
  rw [Graph.mem_parents_linkAll]
  cases hfree : g.placements.contains (b.child, b.parent) with
  | true => exact Or.inl (h hfree)
  | false => exact Or.inr ⟨b, hb, ⟨hj.1, hj.2.1, hj.2.2, hfree⟩, rfl, rfl⟩

/-- **A note that arrives is joined by the branches that waited for it.** -/
theorem EdgesFollow.arrive {row : NoteRow} (h : g.EdgesFollow) (hg : g.Consistent)
    (hknown : g.PlacesKnown) (hn : ¬g.hasNote row.id = true) : (g.arrive row).EdgesFollow := by
  have hput := hg.toLinked.putNote hn
  have hparents : ∀ m, (Vault.putNote g row).parents m = g.parents m := fun m =>
    congrArg Edges.parents (edges_putNote_of_new hn m)
  have hjoined : (Vault.putNote g row).PlacesJoined := by
    intro c p hcp
    rw [hparents]
    exact h.placesJoined hg.toLinked hknown hcp
  have hperm : ∀ m, ((g.arrive row).parents m).Perm
      (((Vault.putNote g row).linkAll ((Vault.putNote g row).branchesAt row.id)).parents m) := by
    intro m
    refine (parents_resortParents_perm _ _ _).trans ?_
    rw [parents_pointAll]
  rw [(hg.arrive hn).toLinked.edgesFollow_iff]
  intro id b hb hj
  have hb' : g.branches.get? id = some b := by simpa [Graph.arrive] using hb
  have hj' : (Vault.putNote g row).Joinable b := by simpa [Joinable, Graph.arrive] using hj
  obtain rfl := hg.branch_id hb'
  rw [(hperm _).mem_iff]
  by_cases hat : b.child = row.id ∨ b.parent = row.id
  · exact hjoined.mem_parents_linkAll ((mem_branchesAt hput.branch_id).2 ⟨hb', hat⟩) hj'
  · obtain ⟨hc, hp⟩ := not_or.1 hat
    refine parents_subset_linkAll ?_
    rw [hparents]
    refine hg.toLinked.edgesFollow_iff.1 h b.id b hb' ?_
    simpa [Joinable, hasNote_putNote, hc, hp] using hj'

/-- **A new branch joins its notes, unless another one does.** -/
theorem EdgesFollow.addBranch (h : g.EdgesFollow) (hg : g.Consistent) (hknown : g.PlacesKnown)
    (hfree : g.branches.get? b.id = none) : (g.addBranch b).EdgesFollow := by
  have hjoined : (g.setBranches (g.branches.insert b.id b)).PlacesJoined :=
    h.placesJoined hg.toLinked hknown
  rw [(hg.addBranch hfree).toLinked.edgesFollow_iff, addBranch_eq]
  intro id b' hb' hj
  have hj' : g.Joinable b' := by simpa [Joinable] using hj
  rw [branches_linkBranch, branches_setBranches, Table.get?_insert] at hb'
  split_ifs at hb' with hid
  · obtain rfl := Option.some.inj hb'
    exact hjoined.mem_parents_linkBranch hj'
  · exact mem_parents_linkBranch.2 (Or.inl (hg.toLinked.edgesFollow_iff.1 h id b' hb' hj'))

/-! ## Separating -/

/-- Another branch is stored between the notes of the branch, and could join them. -/
def HasTwin (g : Graph) (b : Branch) : Prop :=
  g.Joinable b ∧ ∃ id b', g.branches.get? id = some b' ∧ id ≠ b.id ∧ b'.child = b.child ∧
    b'.parent = b.parent

theorem Linked.not_mem_parents_eraseBranch (hg : g.Linked) :
    b.parent ∉ (g.eraseBranch b).parents b.child := fun hmem =>
  (hg.mem_parents_eraseBranch.1 hmem).2 ⟨rfl, rfl⟩

/-- **Without a branch the edges follow the others, unless one of these is between the same
notes.** -/
theorem EdgesFollow.eraseBranch_iff (h : g.EdgesFollow) (hg : g.Linked)
    (hb : g.branches.get? b.id = some b) : (g.eraseBranch b).EdgesFollow ↔ ¬g.HasTwin b := by
  rw [(hg.eraseBranch hb).edgesFollow_iff]
  constructor
  · rintro hfollow ⟨hj, id, b', hb', hid, hc, hp⟩
    refine hg.not_mem_parents_eraseBranch (b := b) ?_
    rw [← hc, ← hp]
    refine hfollow id b' ?_ ?_
    · rwa [branches_eraseBranch, Table.get?_erase, if_neg hid]
    · simpa [Joinable, hc, hp] using hj
  · intro htwin id b' hb' hj
    have hj' : g.Joinable b' := by simpa [Joinable] using hj
    rw [branches_eraseBranch, Table.get?_erase] at hb'
    split_ifs at hb' with hid
    refine hg.mem_parents_eraseBranch.2 ⟨hg.edgesFollow_iff.1 h id b' hb' hj', ?_⟩
    rintro ⟨hc, hp⟩
    refine htwin ⟨?_, id, b', hb', hid, hc, hp⟩
    simpa [Joinable, hc, hp] using hj'

/-- The place of a branch with a twin is free once the branch is gone, if it was the one looked up;
otherwise it is taken. -/
theorem Linked.contains_placements_eraseBranch (hg : g.Linked)
    (hb : g.branches.get? b.id = some b) (hmem : b.parent ∈ g.parents b.child) :
    (g.eraseBranch b).placements.contains (b.child, b.parent) = false ↔
      g.placements.get? (b.child, b.parent) = some b.id := by
  have hplaced := hg.parent_placed hmem
  rw [Table.contains, Option.isSome_iff_exists] at hplaced
  obtain ⟨id, hid⟩ := hplaced
  rw [← Bool.not_eq_true, Table.contains, Option.isSome_iff_exists, hid, Option.some.injEq]
  simp only [hg.get?_placements_eraseBranch hb, hid, Option.some.injEq]
  constructor
  · intro hnone
    by_contra hne
    exact hnone ⟨id, rfl, hne⟩
  · rintro rfl ⟨_, rfl, hne⟩
    exact hne rfl

/-- **A branch that is put in place of one with a twin joins the notes again, exactly if it is
between the same notes and the old branch was the one looked up.** Otherwise the place of the old
branch is taken, or the new branch is elsewhere. -/
theorem EdgesFollow.addBranch_eraseBranch_iff (h : g.EdgesFollow) (hg : g.Consistent)
    (hb : g.branches.get? b.id = some b) (hid : b'.id = b.id) (htwin : g.HasTwin b) :
    ((g.eraseBranch b).addBranch b').EdgesFollow ↔ b'.child = b.child ∧ b'.parent = b.parent ∧
      g.placements.get? (b.child, b.parent) = some b.id := by
  have hfree : (g.eraseBranch b).branches.get? b'.id = none := by
    rw [hid, branches_eraseBranch, Table.get?_erase, if_pos rfl]
  have hfollow := hg.toLinked.edgesFollow_iff.1 h
  have hmem : b.parent ∈ g.parents b.child := hfollow b.id b hb htwin.1
  rw [((hg.eraseBranch hb).addBranch hfree).toLinked.edgesFollow_iff,
    ← hg.contains_placements_eraseBranch hb hmem, addBranch_eq]
  constructor
  · intro hall
    obtain ⟨hj, id, twin, hstored, hne, hc, hp⟩ := htwin
    have htwin' := hall id twin ?_ (by simpa [Joinable, hc, hp] using hj)
    · rw [hc, hp] at htwin'
      rcases mem_parents_linkBranch.1 htwin' with hold | ⟨hjoins, hc', hp'⟩
      · exact absurd hold hg.not_mem_parents_eraseBranch
      · refine ⟨hc'.symm, hp'.symm, ?_⟩
        rw [hc', hp']
        exact hjoins.2.2.2
    · rw [branches_linkBranch, branches_setBranches, Table.get?_insert, if_neg (hid ▸ hne),
        branches_eraseBranch, Table.get?_erase, if_neg hne]
      exact hstored
  · rintro ⟨hc, hp, hplace⟩ id b'' hb'' hj
    rw [mem_parents_linkBranch]
    by_cases hends : b''.child = b.child ∧ b''.parent = b.parent
    · right
      obtain ⟨hroot, hchild, hparent⟩ := htwin.1
      refine ⟨⟨?_, ?_, ?_, ?_⟩, hends.1.trans hc.symm, hends.2.trans hp.symm⟩
      · rwa [hc]
      · simpa [hc] using hchild
      · simpa [hp] using hparent
      · rw [hc, hp]
        exact hplace
    · left
      rw [branches_linkBranch, branches_setBranches, Table.get?_insert] at hb''
      split_ifs at hb'' with hnew
      · obtain rfl := Option.some.inj hb''
        exact absurd ⟨hc, hp⟩ hends
      · rw [branches_eraseBranch, Table.get?_erase, if_neg (hid ▸ hnew)] at hb''
        refine hg.mem_parents_eraseBranch.2 ⟨?_, hends⟩
        exact hfollow id b'' hb'' (by simpa [Joinable] using hj)

end Zettel.Graph

namespace Zettel

/-! ## Updates -/

/-- The update takes one of several branches between the same notes away and so separates the notes.
A branch that is put in its place joins them again only if it is between the same notes and the old
one was the one looked up. -/
def Update.Severs (g : Graph) : Update → Prop
  | .deleteBranch id => ∃ b, g.branches.get? id = some b ∧ g.HasTwin b
  | .upsertBranch row => ∃ b, g.branches.get? row.id = some b ∧ g.HasTwin b ∧
      ¬(row.isDeleted = false ∧ row.child = b.child ∧ row.parent = b.parent ∧
        g.placements.get? (b.child, b.parent) = some b.id)
  | _ => False

namespace Vault

variable {v : Vault}

theorem Reachable.placesKnown (hv : v.Reachable) : v.graph.PlacesKnown :=
  hv.of_isKept Graph.isKept_placesKnown

theorem edgesFollow_deleteAttribute (hg : v.graph.Consistent) (id : AttributeId) :
    (v.deleteAttribute id).graph.EdgesFollow ↔ v.graph.EdgesFollow := by
  rcases deleteAttribute_cases hg.keyed id with ⟨-, heq⟩ | ⟨old, -, hold, heq⟩
  · rw [heq]
  · rw [heq]
    have hremoved := hg.removeAttribute hold
    refine hg.toLinked.edgesFollow_congr (hremoved.resortBelow old).toLinked (by simp) (by simp)
      fun n => ?_
    have hperm := Graph.parents_resortBelow_perm (v.graph.removeAttribute old) old n
    rwa [Graph.parents_removeAttribute] at hperm

theorem edgesFollow_upsertAttribute (hg : v.graph.Consistent) (row : AttributeRow) :
    (v.upsertAttribute row).graph.EdgesFollow ↔ v.graph.EdgesFollow := by
  have hg' := consistent_deleteAttribute hg row.id
  have hresult := Graph.isKept_consistent.upsertAttribute hg row hg
  rw [← edgesFollow_deleteAttribute hg row.id]
  rw [upsertAttribute_eq] at hresult ⊢
  dsimp only at hresult ⊢
  split_ifs at hresult ⊢
  · refine hg'.toLinked.edgesFollow_congr hresult.toLinked (by simp) (by simp) fun n => ?_
    have hperm := Graph.parents_resortBelow_perm
      ((v.deleteAttribute row.id).graph.attach (.ofRow row)) (.ofRow row) n
    rwa [Graph.parents_attach] at hperm
  · rfl

theorem edgesFollow_upsertNote (hv : v.Reachable) (h : v.graph.EdgesFollow) (row : NoteRow) :
    (v.upsertNote row).graph.EdgesFollow := by
  have hg := hv.consistent
  by_cases hn : v.graph.hasNote row.id = true
  · rw [upsertNote_of_known hn]
    refine (hg.toLinked.edgesFollow_congr (hg.renewNote hn).toLinked rfl ?_ ?_).2 h
    · exact fun n => Graph.hasNote_renewNote hn
    · simp [Graph.parents]
  · obtain ⟨memo, -, heq⟩ := upsertNote_of_new hn
    rw [heq]
    exact h.arrive hg hv.placesKnown hn

/-- With a note all its branches go, so none of them leaves a twin. -/
theorem edgesFollow_deleteNote (hg : v.graph.Consistent) (h : v.graph.EdgesFollow) (n : NoteId) :
    (v.deleteNote n).graph.EdgesFollow := by
  by_cases hn : v.graph.hasNote n = true
  · have hresult := Graph.isKept_consistent.deleteNote hg n hg
    obtain ⟨hlost, -, -⟩ := strip_spec (n := n) hg
    rw [deleteNote_of_known hn, graph_foldl_forgetSubtree] at hresult ⊢
    rw [hresult.toLinked.edgesFollow_iff]
    intro id b hb ⟨hroot, hchild, hparent⟩
    rw [Graph.hasNote_eraseNote, Bool.and_eq_true, decide_eq_true_eq, hlost.hasNote]
      at hchild hparent
    rw [Graph.parents, Graph.edges_eraseNote, if_neg hchild.1]
    refine hlost.parents_kept _ _ hchild.1 hparent.1 ?_
    exact hg.toLinked.edgesFollow_iff.1 h id b (hlost.branches id b hb)
      ⟨hroot, hchild.2, hparent.2⟩
  · rwa [deleteNote, if_neg hn]

theorem edgesFollow_deleteBranch_iff (hg : v.graph.Consistent) (h : v.graph.EdgesFollow)
    (id : BranchId) : (v.deleteBranch id).graph.EdgesFollow ↔
      ¬(Update.deleteBranch id).Severs v.graph := by
  rw [Update.Severs]
  rcases deleteBranch_cases hg.keyed id with ⟨hnone, heq⟩ | ⟨b, rfl, hb, heq⟩
  · rw [heq, hnone]
    simpa using h
  · rw [heq, hb]
    simpa using h.eraseBranch_iff hg.toLinked hb

theorem edgesFollow_placeBranch {g : Graph} {row : BranchRow}
    (hg : (g.addBranch (.ofRow row)).Consistent) :
    (placeBranch g row).EdgesFollow ↔ (g.addBranch (.ofRow row)).EdgesFollow := by
  have hsorted := hg.sortChildren row.parent
  have hplaced : (placeBranch g row).Consistent := hsorted.resortParents row.child
  refine hg.toLinked.edgesFollow_congr hplaced.toLinked rfl (by simp [placeBranch]) fun n => ?_
  refine (Graph.parents_resortParents_perm _ _ _).trans ?_
  rw [Graph.parents_sortChildren]

theorem edgesFollow_upsertBranch_iff (hv : v.Reachable) (h : v.graph.EdgesFollow)
    (row : BranchRow) : (v.upsertBranch row).graph.EdgesFollow ↔
      ¬(Update.upsertBranch row).Severs v.graph := by
  have hg := hv.consistent
  have hfree : (v.deleteBranch row.id).graph.branches.get? (Branch.ofRow row).id = none := by
    rw [get?_branches_deleteBranch hg.keyed]
    exact if_pos rfl
  have hadded := (consistent_deleteBranch hg row.id).addBranch hfree
  rw [upsertBranch_eq]
  split_ifs with hdeleted
  · rw [edgesFollow_deleteBranch_iff hg h, Update.Severs, Update.Severs, hdeleted]
    simp
  · rw [edgesFollow_placeBranch hadded, Update.Severs]
    rcases deleteBranch_cases hg.keyed row.id with ⟨hnone, heq⟩ | ⟨b, hid, hb, heq⟩
    · rw [heq] at hfree ⊢
      rw [hnone]
      simpa using h.addBranch hg hv.placesKnown hfree
    · rw [heq] at hfree ⊢
      rw [← hid, hb]
      -- without a twin the erased graph is in line, and the new branch only has to join its notes
      by_cases htwin : v.graph.HasTwin b
      · rw [h.addBranch_eraseBranch_iff hg hb hid.symm htwin]
        simp [htwin, hdeleted, Branch.ofRow]
      · have hrest := (h.eraseBranch_iff hg.toLinked hb).2 htwin
        have hknown := hg.toLinked.placesKnown_eraseBranch hb hv.placesKnown
        simpa [htwin] using hrest.addBranch (hg.eraseBranch hb) hknown hfree

/-- **A step keeps the edges in line with the branches, exactly if it does not sever notes.** -/
theorem edgesFollow_apply_iff (hv : v.Reachable) (h : v.graph.EdgesFollow) (u : Update) :
    (v.apply u).graph.EdgesFollow ↔ ¬u.Severs v.graph := by
  have hg := hv.consistent
  cases u with
  | upsertNote row => exact iff_of_true (edgesFollow_upsertNote hv h row) not_false
  | deleteNote n => exact iff_of_true (edgesFollow_deleteNote hg h n) not_false
  | upsertBranch row => exact edgesFollow_upsertBranch_iff hv h row
  | deleteBranch id => exact edgesFollow_deleteBranch_iff hg h id
  | upsertAttribute row => exact iff_of_true ((edgesFollow_upsertAttribute hg row).2 h) not_false
  | deleteAttribute id => exact iff_of_true ((edgesFollow_deleteAttribute hg id).2 h) not_false

/-- **In a run from the empty vault the edges follow the stored branches all the time, exactly if no
update severs notes.** -/
theorem edgesFollow_run_iff (us : List Update) :
    (∀ us', us' <+: us → (us'.foldl apply .empty).graph.EdgesFollow) ↔
      ∀ us' u, us' ++ [u] <+: us → ¬u.Severs (us'.foldl apply .empty).graph := by
  have hstep : ∀ us' u, (us'.foldl apply .empty).graph.EdgesFollow →
      (((us' ++ [u]).foldl apply .empty).graph.EdgesFollow ↔
        ¬u.Severs (us'.foldl apply .empty).graph) := by
    intro us' u h
    rw [List.foldl_append]
    exact edgesFollow_apply_iff (.foldl_apply us' .empty) h u
  constructor
  · intro hall us' u hprefix
    have hbefore := hall us' ((List.prefix_append us' [u]).trans hprefix)
    exact (hstep us' u hbefore).1 (hall _ hprefix)
  · intro hnone us' hprefix
    induction us' using List.reverseRecOn with
    | nil =>
      intro c p _ hc _
      exact absurd hc (by simp [empty, Graph.hasNote, Table.contains])
    | append_singleton us' u ih =>
      have hbefore := ih ((List.prefix_append us' [u]).trans hprefix)
      exact (hstep us' u hbefore).2 (hnone us' u hprefix)

/-- Two branches place a note under another one. When the second one goes, the first one is still
stored and found, but the notes are separated. -/
theorem severed_twins : let v := [Update.upsertNote { id := "p", title := "p" },
      .upsertNote { id := "c", title := "c" },
      .upsertBranch { id := "b1", child := "c", parent := "p" },
      .upsertBranch { id := "b2", child := "c", parent := "p" },
      .deleteBranch "b2"].foldl apply .empty
    v.graph.branches.get? "b1" = some (.ofRow { id := "b1", child := "c", parent := "p" }) ∧
      (v.graph.branchBetween? "c" "p").isSome = true ∧ v.graph.parents "c" = [] ∧
      v.graph.children "p" = [] ∧ ¬v.graph.EdgesFollow := by
  have hstored : ([Update.upsertNote { id := "p", title := "p" },
      .upsertNote { id := "c", title := "c" },
      .upsertBranch { id := "b1", child := "c", parent := "p" },
      .upsertBranch { id := "b2", child := "c", parent := "p" },
      .deleteBranch "b2"].foldl apply .empty).graph.branches.get? "b1" =
        some (.ofRow { id := "b1", child := "c", parent := "p" }) := by decide +kernel
  refine ⟨hstored, by decide +kernel, by decide +kernel, by decide +kernel, fun h => ?_⟩
  have hmem := ((h "c" "p" (by decide) (by decide +kernel) (by decide +kernel)).2
    ⟨"b1", _, hstored, rfl, rfl⟩).1
  exact absurd hmem (by decide +kernel)

end Vault

end Zettel
