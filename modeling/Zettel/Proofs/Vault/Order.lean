import Zettel.Proofs.Vault.Loading
import Zettel.Proofs.Vault.Tended

/-!
# The order of children

Whenever a branch joins two notes, the children of the upper one are put in the order of their
positions, and no other change moves children or alters the position of one that stays. A load joins
all notes first and then sorts.

Main statements: `Tended.inOrder`, in a tended vault the children of a note stand in the order of
their positions, and `Tended.notedOnce`, no branch is noted twice on its child.
-/

namespace Zettel

/-- Sorting by a key puts smaller keys first. -/
theorem pairwise_sortOn {α β : Type} [LinearOrder β] (key : α → β) (xs : List α) :
    (sortOn key xs).Pairwise fun x y => key x ≤ key y := by
  have hsorted : (sortOn key xs).Pairwise fun x y => decide (key y < key x) = false := by
    refine pairwise_sortBy (fun x y z hyx hzy => ?_) (fun x y hxy => ?_) xs
    · rw [decide_eq_false_iff_not, not_lt] at hyx hzy ⊢
      exact hyx.trans hzy
    · rw [decide_eq_true_iff] at hxy
      rw [decide_eq_false_iff_not, not_lt]
      exact hxy.le
  exact hsorted.imp fun h => by rwa [decide_eq_false_iff_not, not_lt] at h

namespace Graph

variable {g g' : Graph} {b : Branch} {n c p : NoteId}

/-! ## Positions -/

/-- The children of every note stand in the order of their positions. -/
def InOrder (g : Graph) : Prop :=
  ∀ n, (g.children n).Pairwise fun c c' => g.positionUnder n c ≤ g.positionUnder n c'

/-- A position depends on the branch between the two notes only. -/
theorem positionUnder_congr (h : g'.branchBetween? c p = g.branchBetween? c p) :
    g'.positionUnder p c = g.positionUnder p c := by
  rw [positionUnder, positionUnder, h]

/-- The look-ups of branches read two tables. -/
theorem branchBetween?_congr (hbranches : g'.branches = g.branches)
    (hplacements : g'.placements = g.placements) :
    g'.branchBetween? c p = g.branchBetween? c p := by
  rw [branchBetween?, branchBetween?, hbranches, hplacements]

/-- Linking a branch changes no look-up for other notes. -/
theorem branchBetween?_linkBranch (h : ¬(c = b.child ∧ p = b.parent)) :
    (g.linkBranch b).branchBetween? c p = g.branchBetween? c p := by
  rw [branchBetween?, branchBetween?, placements_linkBranch, branches_linkBranch]
  split_ifs
  · rw [Table.get?_insert, if_neg fun heq => h (Prod.mk.inj heq)]
  · rfl

/-- A branch with a new id has not been looked up before. -/
theorem Linked.branchBetween?_setBranches_insert (hg : g.Linked)
    (hfree : g.branches.get? b.id = none) :
    (g.setBranches (g.branches.insert b.id b)).branchBetween? c p = g.branchBetween? c p := by
  rw [branchBetween?, branchBetween?, placements_setBranches, branches_setBranches]
  cases hid : g.placements.get? (c, p) with
  | none => rfl
  | some id =>
    obtain ⟨b', hb', -⟩ := hg.placed hid
    rw [Option.bind_some, Option.bind_some, Table.get?_insert, if_neg]
    rintro rfl
    rw [hfree] at hb'
    exact absurd hb' (by simp)

/-- A branch that goes takes no look-up for other notes with it. -/
theorem Linked.branchBetween?_eraseBranch (hg : g.Linked) (hb : g.branches.get? b.id = some b)
    (h : ¬(c = b.child ∧ p = b.parent)) :
    (g.eraseBranch b).branchBetween? c p = g.branchBetween? c p := by
  have hother : ∀ id, g.placements.get? (c, p) = some id → id ≠ b.id := by
    rintro id hid rfl
    obtain ⟨b', hb', hends⟩ := hg.placed hid
    obtain rfl := Option.some.inj (hb.symm.trans hb')
    exact h ⟨hends.1.symm, hends.2.symm⟩
  have hplaced : (g.eraseBranch b).placements.get? (c, p) = g.placements.get? (c, p) := by
    refine Option.ext fun id => ?_
    rw [hg.get?_placements_eraseBranch hb]
    exact and_iff_left_of_imp (hother id)
  rw [branchBetween?, branchBetween?, hplaced, branches_eraseBranch]
  refine Option.bind_congr fun id hid => ?_
  rw [Table.get?_erase, if_neg (hother id hid)]

/-! ## Children in order -/

/-- Fewer children, with the positions that they had, are in order as well. -/
theorem InOrder.of_sublist (h : g.InOrder) (hchildren : ∀ n, (g'.children n).Sublist (g.children n))
    (hpositions : ∀ n, ∀ c ∈ g'.children n, g'.positionUnder n c = g.positionUnder n c) :
    g'.InOrder := by
  intro n
  refine ((h n).sublist (hchildren n)).imp_of_mem fun hc hc' hle => ?_
  rwa [hpositions n _ hc, hpositions n _ hc']

/-- The order depends on the branches and on who is whose child. -/
theorem InOrder.of_eq (h : g.InOrder) (hbranches : g'.branches = g.branches)
    (hplacements : g'.placements = g.placements) (hchildren : ∀ n, g'.children n = g.children n) :
    g'.InOrder :=
  h.of_sublist (fun n => hchildren n ▸ List.Sublist.refl _) fun _ _ _ =>
    positionUnder_congr (branchBetween?_congr hbranches hplacements)

/-- Sorting puts the children of a note in the order of their positions. -/
theorem pairwise_children_sortChildren (g : Graph) (n : NoteId) :
    ((g.sortChildren n).children n).Pairwise fun c c' =>
      g.positionUnder n c ≤ g.positionUnder n c' := by
  rw [children_sortChildren, if_pos rfl]
  exact pairwise_sortOn _ _

/-- A branch that is linked puts the children of its parent in order, and leaves others alone. -/
theorem InOrder.linkBranch (h : g.InOrder) (b : Branch) :
    ((g.linkBranch b).sortChildren b.parent).InOrder := by
  intro n
  by_cases hn : n = b.parent
  · rw [hn]
    exact pairwise_children_sortChildren (g.linkBranch b) b.parent
  · have hposition : ∀ c, ((g.linkBranch b).sortChildren b.parent).positionUnder n c =
        g.positionUnder n c := fun c =>
      positionUnder_congr (branchBetween?_linkBranch fun hends => hn hends.2)
    rw [children_sortChildren, if_neg hn, children_linkBranch, if_neg fun hj => hn hj.2]
    simpa only [hposition] using h n

/-- A new branch keeps the order, if the children of its parent are sorted afterwards. -/
theorem InOrder.addBranch (h : g.InOrder) (hg : g.Linked) (hfree : g.branches.get? b.id = none) :
    ((g.addBranch b).sortChildren b.parent).InOrder := by
  have hstored : (g.setBranches (g.branches.insert b.id b)).InOrder :=
    h.of_sublist (fun _ => .refl _) fun _ _ _ =>
      positionUnder_congr (hg.branchBetween?_setBranches_insert hfree)
  rw [addBranch_eq]
  exact hstored.linkBranch b

theorem InOrder.eraseBranch (h : g.InOrder) (hg : g.Linked)
    (hb : g.branches.get? b.id = some b) : (g.eraseBranch b).InOrder := by
  refine h.of_sublist (fun n => ?_) fun n c hc => positionUnder_congr ?_
  · rw [children_eraseBranch]
    split_ifs
    · exact List.erase_sublist
    · exact .refl _
  · exact hg.branchBetween?_eraseBranch hb (hg.mem_children_eraseBranch.1 hc).2

theorem InOrder.arrive {row : NoteRow} (h : g.InOrder) (hn : ¬g.hasNote row.id = true) :
    (g.arrive row).InOrder := by
  have hput : (Vault.putNote g row).InOrder :=
    h.of_eq rfl rfl fun m => congrArg Edges.children (edges_putNote_of_new hn m)
  have hlinked : ((Vault.putNote g row).linkAll
      ((Vault.putNote g row).branchesAt row.id)).InOrder :=
    List.foldlRecOn _ _ (motive := InOrder) hput fun _ h b _ => h.linkBranch b
  refine hlinked.of_eq (by simp [Graph.arrive]) (by simp [Graph.arrive]) fun m => ?_
  rw [Graph.arrive, children_resortParents, children_pointAll]

/-- **No change of an update brings children out of order.** -/
theorem isUpheld_inOrder : IsUpheld fun g => g.Linked ∧ g.InOrder where
  resortParents n h := ⟨h.1.resortParents n, h.2.of_eq rfl rfl (by simp)⟩
  addBranch _ hfree h := ⟨(h.1.addBranch hfree).sortChildren _, h.2.addBranch h.1 hfree⟩
  eraseBranch _ hb h := ⟨h.1.eraseBranch hb, h.2.eraseBranch h.1 hb⟩
  attach _ _ _ h := ⟨h.1.attach _, h.2.of_eq (by simp) (by simp) (by simp)⟩
  removeAttribute _ _ h := ⟨h.1.removeAttribute _, h.2.of_eq (by simp) (by simp) (by simp)⟩
  renewNote hn h := ⟨h.1.renewNote hn, h.2.of_eq rfl rfl (by simp [Graph.children])⟩
  arrive _ hn h := ⟨h.1.arrive hn, h.2.arrive hn⟩
  eraseNote _ hbranches _ h := ⟨h.1.eraseNote hbranches,
    h.2.of_eq rfl rfl fun m => (h.1.edges_eraseNote hbranches m).2.1⟩

/-- Without children there is nothing out of order. -/
theorem Bare.inOrder (h : g.Bare) : g.InOrder := by
  intro n
  rw [children, h.edges]
  exact .nil

/-! ## Branches noted on their children -/

/-- No branch is noted twice on its child. -/
def NotedOnce (g : Graph) : Prop := ∀ n, (g.parentBranches n).Nodup

/-- This depends on the noted branches only. -/
theorem NotedOnce.of_eq (h : g.NotedOnce) (hnoted : ∀ n, g'.parentBranches n = g.parentBranches n) :
    g'.NotedOnce := fun n => hnoted n ▸ h n

/-- A branch is noted only where it has not been noted yet. -/
theorem NotedOnce.linkBranch (h : g.NotedOnce) (b : Branch) : (g.linkBranch b).NotedOnce := by
  intro n
  rw [parentBranches_linkBranch]
  split_ifs with hnew
  · exact (List.nodup_cons.2 ⟨hnew.2, h n⟩).perm (List.perm_append_singleton _ _).symm
  · exact h n

theorem NotedOnce.addBranch (h : g.NotedOnce) (b : Branch) : (g.addBranch b).NotedOnce := by
  have hstored : (g.setBranches (g.branches.insert b.id b)).NotedOnce := h
  rw [addBranch_eq]
  exact hstored.linkBranch b

theorem NotedOnce.putNote (h : g.NotedOnce) (row : NoteRow) :
    (Vault.putNote g row).NotedOnce := by
  intro n
  rw [parentBranches, edges_putNote]
  split_ifs
  · exact .nil
  · exact h n

/-- A note that arrives is joined by branches that have not been noted. -/
theorem NotedOnce.arrive (h : g.NotedOnce) (row : NoteRow) : (g.arrive row).NotedOnce := by
  have hlinked : ((Vault.putNote g row).linkAll
      ((Vault.putNote g row).branchesAt row.id)).NotedOnce :=
    List.foldlRecOn _ _ (motive := NotedOnce) (h.putNote row) fun _ h b _ =>
      (h.linkBranch b).of_eq (by simp)
  refine hlinked.of_eq fun n => ?_
  rw [Graph.arrive, parentBranches_resortParents, parentBranches_pointAll]

/-- **No change of an update notes a branch twice.** -/
theorem isUpheld_notedOnce : IsUpheld NotedOnce where
  resortParents _ h := h.of_eq (by simp)
  addBranch {_ b} _ _ h := (h.addBranch b).of_eq (by simp)
  eraseBranch _ _ h n := by
    rw [parentBranches_eraseBranch]
    split_ifs
    · exact (h n).filter _
    · exact h n
  attach _ _ _ h := h.of_eq (by simp)
  removeAttribute _ _ h := h.of_eq (by simp)
  renewNote _ h := h.of_eq (by simp [Graph.parentBranches])
  arrive _ _ h := h.arrive _
  eraseNote _ _ _ h n := by
    rw [parentBranches, edges_eraseNote]
    split_ifs
    · exact .nil
    · exact h n

theorem Bare.notedOnce (h : g.Bare) : g.NotedOnce := by
  intro n
  rw [parentBranches, h.edges]
  exact .nil

/-! ## Sorting many notes -/

/-- Sorting the children of some notes puts those of each of them in order. -/
theorem pairwise_children_sortAll {ns : List NoteId} (h : n ∈ ns ∨
      (g.children n).Pairwise fun c c' => g.positionUnder n c ≤ g.positionUnder n c') :
    ((g.sortAll ns).children n).Pairwise fun c c' =>
      g.positionUnder n c ≤ g.positionUnder n c' := by
  induction ns generalizing g with
  | nil => exact h.resolve_left (by simp)
  | cons m ns ih =>
    refine ih (g := g.sortChildren m) ?_
    by_cases hn : n = m
    · right
      rw [hn]
      exact pairwise_children_sortChildren g m
    · rw [children_sortChildren, if_neg hn]
      exact h.imp_left fun hmem => (List.mem_cons.1 hmem).resolve_left hn

end Graph

namespace Vault

variable {v : Vault} {s : Snapshot}

/-- The notes that have children after a load are among those that are sorted. -/
theorem inOrder_ofSnapshot (hs : s.HasDistinctBranches) : (ofSnapshot s).graph.InOrder := by
  have hlinked := linked_ofSnapshot hs
  intro n
  by_cases hn : n ∈ s.placingNotes
  · -- what a load does after the sorting moves no children and changes no positions
    obtain ⟨ns, -, heq⟩ := graph_load empty s
    have hsorted : ((ofSnapshot s).graph.children n) =
        ((empty.placedBy s).sortAll s.placingNotes).children n := by
      rw [ofSnapshot, heq]
      refine (Graph.resortAll_of (Graph.children · n) (by simp) _ ns).trans ?_
      exact Graph.attachAll_of (Graph.children · n) (by simp) _ _
    have hposition : ∀ c, (ofSnapshot s).graph.positionUnder n c =
        (empty.placedBy s).positionUnder n c := fun c =>
      Graph.positionUnder_congr (Graph.branchBetween?_congr branches_load placements_load)
    rw [hsorted]
    simp only [hposition]
    exact Graph.pairwise_children_sortAll (Or.inl hn)
  · have hnone : (ofSnapshot s).graph.children n = [] := by
      refine List.eq_nil_iff_forall_not_mem.2 fun c hc => hn ?_
      obtain ⟨id, b, hb, -, rfl⟩ := hlinked.placement_stored (hlinked.mirror.1 hc)
      rw [Snapshot.placingNotes, mem_addNew]
      exact Or.inr (List.mem_map_of_mem (branches_ofSnapshot hb))
    rw [hnone]
    exact .nil

/-- **In a tended vault children stand in the order of their positions.** -/
theorem Tended.inOrder (h : v.Tended Snapshot.HasDistinctBranches) : v.graph.InOrder :=
  (h.of_isUpheld Graph.isUpheld_inOrder ⟨Graph.Bare.empty.linked, Graph.Bare.empty.inOrder⟩
    fun _ hs => ⟨linked_ofSnapshot hs, inOrder_ofSnapshot hs⟩).2

theorem notedOnce_ofSnapshot (s : Snapshot) : (ofSnapshot s).graph.NotedOnce := by
  refine ofSnapshot_induction (P := Graph.NotedOnce) ?_ ?_ ?_ ?_ ?_ ?_
  · exact fun _ hg => hg.notedOnce
  · exact fun _ b _ h => h.addBranch b
  · exact fun _ _ _ _ h => h.of_eq (by simp)
  · exact fun _ _ h => h.of_eq (by simp)
  · exact fun _ _ h => h.of_eq (by simp)
  · exact fun _ h => h.of_eq fun _ => rfl

/-- **In a tended vault no branch is noted twice on its child**, whatever snapshots fit. -/
theorem Tended.notedOnce {Fits : Snapshot → Prop} (h : v.Tended Fits) : v.graph.NotedOnce :=
  h.of_isUpheld Graph.isUpheld_notedOnce Graph.Bare.empty.notedOnce
    fun s _ => notedOnce_ofSnapshot s

end Vault

end Zettel
