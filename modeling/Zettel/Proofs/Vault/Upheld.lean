import Zettel.Proofs.Vault.Steps

/-!
# What the updates keep

An update changes the graph in a few ways only, and throughout branches and attributes are stored
under their own ids. `IsUpheld` says of a property that none of these ways takes it away; such a
property is kept by every update. That ids are in order is one: `isUpheld_keyed`.
-/

namespace Zettel.Graph

/-- A property that none of the changes of an update takes away. A branch is put in with the
children of its parent in order, under an id that is free, and a note leaves when no branch mentions
it and nothing that it owns is stored. -/
structure IsUpheld (P : Graph → Prop) : Prop where
  resortParents : ∀ {g : Graph} (n : NoteId), P g → P (g.resortParents n)
  addBranch : ∀ {g : Graph} {b : Branch}, g.Keyed → g.branches.get? b.id = none → P g →
    P ((g.addBranch b).sortChildren b.parent)
  eraseBranch : ∀ {g : Graph} {b : Branch}, g.Keyed → g.branches.get? b.id = some b → P g →
    P (g.eraseBranch b)
  attach : ∀ {g : Graph} {row : AttributeRow}, g.Keyed → g.hasNote row.owner = true →
    g.attributes.get? row.id = none → P g → P (g.attach (.ofRow row))
  removeAttribute : ∀ {g : Graph} {a : Attribute}, g.Keyed →
    g.attributes.get? a.id = some a → P g → P (g.removeAttribute a)
  renewNote : ∀ {g : Graph} {row : NoteRow}, g.hasNote row.id = true → P g → P (g.renewNote row)
  arrive : ∀ {g : Graph} {row : NoteRow}, g.Keyed → ¬g.hasNote row.id = true → P g →
    P (g.arrive row)
  eraseNote : ∀ {g : Graph} {n : NoteId}, g.Keyed →
    (∀ id b, g.branches.get? id = some b → b.child ≠ n ∧ b.parent ≠ n) →
    (∀ id ∈ g.owned n, g.attributes.get? id = none) → P g → P (g.eraseNote n)

namespace IsUpheld

variable {P : Graph → Prop} (hupheld : IsUpheld P) {g : Graph} {v : Vault}
include hupheld

theorem foldl_resortParents (ns : List NoteId) (h : P g) :
    P (ns.foldl Graph.resortParents g) :=
  List.foldlRecOn ns _ h fun _ h n _ => hupheld.resortParents n h

theorem resortBelow (a : Attribute) (h : P g) : P (g.resortBelow a) := by
  rw [Graph.resortBelow]
  split_ifs
  · exact hupheld.foldl_resortParents _ h
  · exact h

/-! ## Branches -/

theorem deleteBranch (hg : v.graph.Keyed) (id : BranchId) (h : P v.graph) :
    P (v.deleteBranch id).graph := by
  rcases Vault.deleteBranch_cases hg id with ⟨-, heq⟩ | ⟨b, -, hb, heq⟩
  · rwa [heq]
  · rw [heq]
    exact hupheld.eraseBranch hg hb h

theorem upsertBranch (hg : v.graph.Keyed) (row : BranchRow) (h : P v.graph) :
    P (v.upsertBranch row).graph := by
  have hdeleted := hupheld.deleteBranch hg row.id h
  rw [Vault.upsertBranch_eq]
  split_ifs
  · exact hdeleted
  · have hfree : (v.deleteBranch row.id).graph.branches.get? (Branch.ofRow row).id = none := by
      rw [Vault.get?_branches_deleteBranch hg]
      exact if_pos rfl
    refine hupheld.resortParents row.child ?_
    exact hupheld.addBranch (Vault.keyed_deleteBranch hg row.id) hfree hdeleted

/-! ## Attributes -/

theorem deleteAttribute (hg : v.graph.Keyed) (id : AttributeId) (h : P v.graph) :
    P (v.deleteAttribute id).graph := by
  rcases Vault.deleteAttribute_cases hg id with ⟨-, heq⟩ | ⟨old, -, hold, heq⟩
  · rwa [heq]
  · rw [heq]
    exact hupheld.resortBelow old (hupheld.removeAttribute hg hold h)

theorem upsertAttribute (hg : v.graph.Keyed) (row : AttributeRow) (h : P v.graph) :
    P (v.upsertAttribute row).graph := by
  have hdeleted := hupheld.deleteAttribute hg row.id h
  rw [Vault.upsertAttribute_eq]
  dsimp only
  split_ifs with howner
  · have hfree : (v.deleteAttribute row.id).graph.attributes.get? row.id = none := by
      rw [Vault.get?_attributes_deleteAttribute hg, if_pos rfl]
    refine hupheld.resortBelow _ (hupheld.attach ?_ howner hfree hdeleted)
    exact Vault.keyed_deleteAttribute hg row.id
  · exact hdeleted

/-! ## Notes -/

theorem upsertNote (hg : v.graph.Keyed) (row : NoteRow) (h : P v.graph) :
    P (v.upsertNote row).graph := by
  by_cases hn : v.graph.hasNote row.id = true
  · rw [Vault.upsertNote_of_known hn]
    exact hupheld.renewNote hn h
  · obtain ⟨memo, -, heq⟩ := Vault.upsertNote_of_new hn
    rw [heq]
    exact hupheld.arrive hg hn h

theorem strip (hg : v.graph.Keyed) (n : NoteId) (h : P v.graph) : P (v.strip n).graph := by
  have hboth : (v.strip n).graph.Keyed ∧ P (v.strip n).graph := by
    refine Vault.strip_induction (P := fun w => w.graph.Keyed ∧ P w.graph) ?_ ?_ ⟨hg, h⟩ n
    · exact fun w id hw =>
        ⟨Vault.keyed_deleteAttribute hw.1 id, hupheld.deleteAttribute hw.1 id hw.2⟩
    · exact fun w id hw => ⟨Vault.keyed_deleteBranch hw.1 id, hupheld.deleteBranch hw.1 id hw.2⟩
  exact hboth.2

theorem deleteNote (hg : v.graph.Keyed) (n : NoteId) (h : P v.graph) :
    P (v.deleteNote n).graph := by
  by_cases hn : v.graph.hasNote n = true
  · obtain ⟨hg', hbranches, hattributes⟩ := Vault.strip_bare hg n
    rw [Vault.deleteNote_of_known hn, Vault.graph_foldl_forgetSubtree]
    exact hupheld.eraseNote hg' hbranches hattributes (hupheld.strip hg n h)
  · rw [Vault.deleteNote, if_neg hn]
    exact h

end IsUpheld

variable {g : Graph}

theorem Keyed.arrive (h : g.Keyed) (row : NoteRow) : (g.arrive row).Keyed :=
  h.of_eq (by simp [Graph.arrive]) (by simp [Graph.arrive])

/-- **Updates store branches and attributes under their own ids.** -/
theorem isUpheld_keyed : IsUpheld Keyed where
  resortParents _ h := h.of_eq rfl rfl
  addBranch _ _ h := (h.addBranch _).of_eq rfl rfl
  eraseBranch _ _ h := h.eraseBranch _
  attach _ _ _ h := h.attach _
  removeAttribute _ _ h := h.removeAttribute _
  renewNote _ h := h.of_eq rfl rfl
  arrive _ _ h := h.arrive _
  eraseNote _ _ _ h := h.of_eq rfl rfl

end Zettel.Graph
