import Zettel.Proofs.Vault.Reachable

/-!
# Tended vaults

Besides following the store by updates, a vault can be reset, loaded again, and have the parents of
a note put in order at any time. The snapshots that it is loaded from need only fit in some respect,
such as that no two branches have the same id.

Main statements: `Tended.of_isUpheld`, what no change of an update takes away holds of every tended
vault, if it holds of the empty one and of those that are loaded from a fitting snapshot, and
`Tended.mirrored`, in a tended vault the lists of parents and of children mirror each other.
-/

namespace Zettel

/-- No two branches have the same id. -/
def Snapshot.HasDistinctBranches (s : Snapshot) : Prop := (s.branches.map BranchRow.id).Nodup

instance (s : Snapshot) : Decidable s.HasDistinctBranches :=
  inferInstanceAs (Decidable (List.Nodup _))

/-- No two attributes have the same id. -/
def Snapshot.HasDistinctAttributes (s : Snapshot) : Prop :=
  (s.attributes.map AttributeRow.id).Nodup

instance (s : Snapshot) : Decidable s.HasDistinctAttributes :=
  inferInstanceAs (Decidable (List.Nodup _))

namespace Vault

/-- The vaults that come about where every snapshot that is loaded fits. -/
inductive Tended (Fits : Snapshot → Prop) : Vault → Prop
  | empty : Tended Fits .empty
  | ofSnapshot {s : Snapshot} (h : Fits s) : Tended Fits (.ofSnapshot s)
  | apply {v : Vault} (h : Tended Fits v) (u : Update) : Tended Fits (v.apply u)
  | resortParents {v : Vault} (h : Tended Fits v) (n : NoteId) : Tended Fits (v.resortParents n)
  | reset {v : Vault} (h : Tended Fits v) : Tended Fits v.reset
  | reload {source : Except LoadError Snapshot} (h : ∀ s, source = .ok s → Fits s) :
    Tended Fits (reload source).2
  | ask {v : Vault} (h : Tended Fits v) (q : ViewQuery) : Tended Fits (v.ask q)

variable {Fits : Snapshot → Prop} {v : Vault}

/-- A reachable vault is tended, if snapshots without double ids fit. -/
theorem Reachable.tended (h : v.Reachable) (hfits : ∀ s, s.HasDistinctIds → Fits s) :
    v.Tended Fits := by
  induction h with
  | empty => exact .empty
  | ofSnapshot hs => exact .ofSnapshot (hfits _ hs)
  | apply _ u ih => exact ih.apply u
  | ask _ q ih => exact ih.ask q

theorem Tended.foldl_apply (us : List Update) (h : v.Tended Fits) :
    (us.foldl Vault.apply v).Tended Fits :=
  List.foldlRecOn us Vault.apply h fun _ h u _ => h.apply u

/-- A loaded graph stores branches and attributes under their own ids. -/
theorem keyed_ofSnapshot (s : Snapshot) : (ofSnapshot s).graph.Keyed := by
  refine ofSnapshot_induction (P := Graph.Keyed) ?_ ?_ ?_ ?_ ?_ ?_
  · intro g hg
    constructor
    · simp [hg.branches]
    · simp [hg.attributes]
  · exact fun _ b _ h => h.addBranch b
  · exact fun _ _ _ _ h => h.attach _
  · exact fun _ _ h => h.of_eq rfl rfl
  · exact fun _ _ h => h.of_eq rfl rfl
  · exact fun _ h => h.of_eq rfl rfl

theorem keyed_empty : empty.graph.Keyed := ⟨by simp [empty], by simp [empty]⟩

/-- **What no change of an update takes away holds of every tended vault**, if it holds to begin
with. -/
theorem Tended.of_isUpheld {P : Graph → Prop} (hupheld : Graph.IsUpheld P) (hempty : P .empty)
    (hloaded : ∀ s, Fits s → P (Vault.ofSnapshot s).graph) (h : v.Tended Fits) : P v.graph := by
  suffices hboth : v.graph.Keyed ∧ P v.graph from hboth.2
  induction h with
  | empty => exact ⟨keyed_empty, hempty⟩
  | ofSnapshot hs => exact ⟨keyed_ofSnapshot _, hloaded _ hs⟩
  | apply _ u ih => exact ⟨Graph.isUpheld_keyed.apply ih.1 u ih.1, hupheld.apply ih.1 u ih.2⟩
  | resortParents _ n ih =>
    exact ⟨Graph.isUpheld_keyed.resortParents n ih.1, hupheld.resortParents n ih.2⟩
  | reset => exact ⟨keyed_empty, hempty⟩
  | @reload source hs =>
    cases source with
    | ok s => exact ⟨keyed_ofSnapshot s, hloaded s (hs s rfl)⟩
    | error => exact ⟨keyed_empty, hempty⟩
  | ask _ _ ih => exact ih

theorem Tended.keyed (h : v.Tended Fits) : v.graph.Keyed :=
  h.of_isUpheld Graph.isUpheld_keyed keyed_empty fun s _ => keyed_ofSnapshot s

end Vault

/-! ## Parents and children -/

namespace Graph

/-- Parents and children mirror each other: each edge between two notes stands once in the list of
either, both notes exist, and a stored branch that places the one under the other is looked up for
them. The root note is no one's child. -/
structure Mirrored (g : Graph) : Prop where
  mirror : ∀ c p, p ∈ g.parents c ↔ c ∈ g.children p
  once_in_parents : ∀ c p, (g.parents c).count p ≤ 1
  once_in_children : ∀ c p, (g.children p).count c ≤ 1
  known : ∀ c p, p ∈ g.parents c → g.hasNote c = true ∧ g.hasNote p = true
  placed : ∀ c p, p ∈ g.parents c → ∃ id b, g.placements.get? (c, p) = some id ∧
    g.branches.get? id = some b ∧ b.id = id ∧ b.child = c ∧ b.parent = p
  rootless : g.parents rootId = []
  root_not_below : ∀ p, rootId ∉ g.children p

variable {g : Graph}

/-- **No change of an update brings the edges out of line with the branches.** -/
theorem isUpheld_linked : IsUpheld Linked where
  resortParents n h := h.resortParents n
  addBranch _ hb h := (h.addBranch hb).sortChildren _
  eraseBranch _ hb h := h.eraseBranch hb
  attach _ _ _ h := h.attach _
  removeAttribute _ _ h := h.removeAttribute _
  renewNote hn h := h.renewNote hn
  arrive _ hn h := h.arrive hn
  eraseNote _ hbranches _ h := h.eraseNote hbranches

theorem Bare.linked (h : g.Bare) : g.Linked :=
  (isKept_consistent.bare h.edges h.branches h.attributes h.placements).toLinked

end Graph

namespace Vault

variable {v : Vault}

/-- A load joins notes by the branches of the snapshot, whatever notes and attributes there are
twice. -/
theorem linked_ofSnapshot {s : Snapshot} (hs : s.HasDistinctBranches) :
    (ofSnapshot s).graph.Linked := by
  refine ofSnapshot_induction (P := Graph.Linked) ?_ ?_ ?_ ?_ ?_ ?_
  · exact fun _ hg => hg.linked
  · exact fun _ _ hfree h => h.addBranch (hfree hs)
  · exact fun _ _ _ _ h => h.attach _
  · exact fun _ n h => h.sortChildren n
  · exact fun _ n h => h.resortParents n
  · exact fun _ h => h.of_perm (fun _ _ _ hp => hp) rfl rfl (fun _ => .refl _) (fun _ => .refl _)
      fun _ => rfl

theorem Tended.linked (h : v.Tended Snapshot.HasDistinctBranches) : v.graph.Linked :=
  h.of_isUpheld Graph.isUpheld_linked Graph.Bare.empty.linked fun _ hs => linked_ofSnapshot hs

/-- **In a tended vault parents and children mirror each other.** -/
theorem Tended.mirrored (h : v.Tended Snapshot.HasDistinctBranches) : v.graph.Mirrored where
  mirror c p := (h.linked.mirror (c := c) (p := p)).symm
  once_in_parents c := List.nodup_iff_count_le_one.1 (h.linked.nodup_parents c)
  once_in_children c p := List.nodup_iff_count_le_one.1 (h.linked.nodup_children p) c
  known c p hp := ⟨Graph.hasNote_of_mem_parents hp, h.linked.parent_known hp⟩
  placed c p hp := by
    have hplaced := h.linked.parent_placed hp
    rw [Table.contains, Option.isSome_iff_exists] at hplaced
    obtain ⟨id, hid⟩ := hplaced
    obtain ⟨b, hb, hends⟩ := h.linked.placed hid
    exact ⟨id, b, hid, hb, h.linked.branch_id hb, hends⟩
  rootless := h.linked.rootless
  root_not_below p hmem := h.linked.child_ne_root (h.linked.mirror.1 hmem) rfl

/-- Two branches place a note under another one, a branch places a note under itself, one lacks its
child and one its parent, and one would place the root note. -/
def tangledSnapshot : Snapshot where
  notes := [{ id := "root", title := "Root" }, { id := "a", title := "A" },
    { id := "b", title := "B" }]
  branches := [{ id := "ab", child := "a", parent := "b" },
    { id := "again", child := "a", parent := "b", position := 1 },
    { id := "loop", child := "b", parent := "b" },
    { id := "waiting", child := "c", parent := "a" },
    { id := "hanging", child := "b", parent := "gone" },
    { id := "up", child := "root", parent := "a" }]

/-- The missing note comes, a note goes and comes back, and a branch moves. -/
def tangledVault : Vault :=
  ([.upsertNote { id := "c", title := "C" }, .deleteNote "a",
    .upsertNote { id := "a", title := "A" },
    .upsertBranch { id := "loop", child := "a", parent := "b" },
    .upsertBranch { id := "ca", child := "c", parent := "a" }].foldl apply
      (reload (.ok tangledSnapshot)).2).resortParents "a"

theorem mirrored_tangledVault : tangledVault.Tended Snapshot.HasDistinctBranches ∧
    tangledVault.graph.Mirrored :=
  have htended : tangledVault.Tended Snapshot.HasDistinctBranches := by
    refine .resortParents (.foldl_apply _ (.reload fun s hs => ?_)) "a"
    obtain rfl := Except.ok.inj hs
    decide
  ⟨htended, htended.mirrored⟩

example : tangledVault.graph.parents "a" = ["b"] ∧ tangledVault.graph.children "a" = ["c"] := by
  decide +kernel

end Vault

end Zettel
