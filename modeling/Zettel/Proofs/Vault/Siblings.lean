import Zettel.Proofs.Graph.Descent
import Zettel.Proofs.Vault.Order

/-!
# Siblings

The children of a note stand in the order of the branches that place them, and the walk below a note
takes them in this order. A note can have several parents, and the walk visits it once: one that is
met below an earlier sibling, or below a note visited before, does not wait for its turn.

Main statement: `Tended.walksInBranchOrder`, in a tended vault children stand in the order of their
branches, and the walk below a note is the walk in pre-order over these lists.
-/

namespace Zettel

namespace Graph

variable {g : Graph} {c c' n p top : NoteId} {out : List NoteId}

/-- Branches place the children of a note, which stand in the order of the positions of these. -/
structure FollowsBranches (g : Graph) (p : NoteId) : Prop where
  placed : ∀ c ∈ g.children p, ∃ b, g.branchBetween? c p = some b ∧ b.child = c ∧ b.parent = p
  sorted : (g.children p).Pairwise fun c c' => ∀ b b', g.branchBetween? c p = some b →
    g.branchBetween? c' p = some b' → b.position ≤ b'.position

/-- The walk below `top` comes to the note `c`, a child of `n`, another way: it begins there, or
it visits another parent of `c` before. -/
def MetElsewhere (g : Graph) (top n c : NoteId) : Prop :=
  c = top ∨ ∃ m, m ≠ n ∧ c ∈ g.children m ∧ ComesBefore (g.subtree top) m c

theorem positionUnder_of_branch {b : Branch} (hb : g.branchBetween? c p = some b) :
    g.positionUnder p c = b.position := by
  rw [positionUnder, hb]

theorem Linked.followsBranches (h : g.Linked) (hsorted : g.InOrder) (p : NoteId) :
    g.FollowsBranches p where
  placed _ hc := h.branchBetween?_of_mem_parents (h.mirror.1 hc)
  sorted := (hsorted p).imp fun hle b b' hb hb' => by
    rwa [positionUnder_of_branch hb, positionUnder_of_branch hb'] at hle

theorem Linked.hasNote_of_mem_children (h : g.Linked) (hc : c ∈ g.children p) :
    g.hasNote c = true :=
  hasNote_of_mem_parents (h.mirror.1 hc)

/-! ## The walk below a note -/

/-- The notes below a note are listed in pre-order. -/
theorem inPreorder_subtree (g : Graph) (top : NoteId) :
    InPreorder g.hasNote g.children [] [top] (g.subtree top) :=
  g.inPreorder_walkDown g.children top

theorem inPreorder_iff_eq_subtree :
    InPreorder g.hasNote g.children [] [top] out ↔ out = g.subtree top :=
  ⟨fun h => h.unique (g.inPreorder_subtree top), fun h => h ▸ g.inPreorder_subtree top⟩

/-- The walk takes the children of a note in turn, except those that it meets elsewhere. -/
theorem Linked.comesBefore_subtree (h : g.Linked) (hn : n ∈ g.subtree top)
    (hcc' : ComesBefore (g.children n) c c') :
    ComesBefore (g.subtree top) c c' ∨ g.MetElsewhere top n c' := by
  have hturn := (g.inPreorder_subtree top).comesBefore hn (h.nodup_children n) hcc'
    (h.hasNote_of_mem_children hcc'.mem_left) (h.hasNote_of_mem_children hcc'.mem_right)
  rwa [List.mem_singleton] at hturn

end Graph

namespace Vault

variable {v : Vault}

/-- **In a tended vault the children of every note stand in the order of their branches, and the
walk below a note is the one in pre-order that takes them in turn**, except those that it meets
elsewhere. -/
theorem Tended.walksInBranchOrder (h : v.Tended Snapshot.HasDistinctBranches) (p : NoteId) :
    v.graph.FollowsBranches p ∧
    (∀ out, InPreorder v.graph.hasNote v.graph.children [] [p] out ↔ out = v.graph.subtree p) ∧
    ∀ n ∈ v.graph.subtree p, ∀ c c', ComesBefore (v.graph.children n) c c' →
      ComesBefore (v.graph.subtree p) c c' ∨ v.graph.MetElsewhere p n c' :=
  ⟨h.linked.followsBranches h.inOrder p, fun _ => Graph.inPreorder_iff_eq_subtree,
    fun _ hn _ _ hcc' => h.linked.comesBefore_subtree hn hcc'⟩

/-- The last child of a note is also a child of the first one. -/
def sharedSnapshot : Snapshot where
  notes := [{ id := "p", title := "p" }, { id := "a", title := "a" }, { id := "b", title := "b" },
    { id := "c", title := "c" }]
  branches := [{ id := "pa", child := "a", parent := "p", position := 10 },
    { id := "pb", child := "b", parent := "p", position := 20 },
    { id := "pc", child := "c", parent := "p", position := 30 },
    { id := "ac", child := "c", parent := "a" }]
  attributes := []

/-- The first child is moved between the other two. -/
def movedVault : Vault :=
  (ofSnapshot sharedSnapshot).apply
    (.upsertBranch { id := "pa", child := "a", parent := "p", position := 25 })

theorem walksInBranchOrder_movedVault : movedVault.Tended Snapshot.HasDistinctBranches ∧
    movedVault.graph.FollowsBranches "p" ∧
    InPreorder movedVault.graph.hasNote movedVault.graph.children [] ["p"] ["p", "b", "a", "c"] ∧
    (ComesBefore (movedVault.graph.subtree "p") "b" "a" ∨
      movedVault.graph.MetElsewhere "p" "p" "a") := by
  have h : movedVault.Tended Snapshot.HasDistinctBranches :=
    (Tended.ofSnapshot (by decide : sharedSnapshot.HasDistinctBranches)).apply _
  obtain ⟨hfollows, hwalk, hturn⟩ := h.walksInBranchOrder "p"
  exact ⟨h, hfollows, (hwalk _).2 (by decide +kernel),
    hturn "p" (by decide +kernel) "b" "a" (by decide +kernel)⟩

/-- The last child is met below the first one, before the one in the middle. -/
theorem outOfTurn_sharedSnapshot : let g := (ofSnapshot sharedSnapshot).graph
    (ofSnapshot sharedSnapshot).Tended Snapshot.HasDistinctBranches ∧
    g.children "p" = ["a", "b", "c"] ∧ g.positionUnder "p" "b" < g.positionUnder "p" "c" ∧
    g.subtree "p" = ["p", "a", "c", "b"] ∧ ¬ComesBefore (g.subtree "p") "b" "c" :=
  ⟨.ofSnapshot (by decide), by decide +kernel⟩

end Vault

end Zettel
