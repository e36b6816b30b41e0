import Zettel.Proofs.Vault.Upheld

/-!
# What every change keeps

Loading and updating change the graph in a few ways only. `IsKept` says of a property that none of
these takes it away from a consistent graph, and that notes alone have it; such a property is kept
by every update. Consistency itself is one: `isKept_consistent`.
-/

namespace Zettel

/-! ## The changes of the graph -/

namespace Graph

/-- A property that every change keeps. The changes are to a consistent graph: ids are not used
twice, and a note leaves after its branches and attributes. -/
structure IsKept (P : Graph → Prop) : Prop where
  bare : ∀ {g : Graph}, (∀ n, g.edges n = {}) → g.branches = ∅ → g.attributes = ∅ →
    g.placements = ∅ → P g
  loaded : ∀ {g : Graph}, P g → P { g with isLoaded := true }
  sortChildren : ∀ {g : Graph} (n : NoteId), P g → P (g.sortChildren n)
  resortParents : ∀ {g : Graph} (n : NoteId), P g → P (g.resortParents n)
  addBranch : ∀ {g : Graph} {b : Branch}, g.Consistent → g.branches.get? b.id = none → P g →
    P (g.addBranch b)
  eraseBranch : ∀ {g : Graph} {b : Branch}, g.Consistent → g.branches.get? b.id = some b → P g →
    P (g.eraseBranch b)
  attach : ∀ {g : Graph} {a : Attribute}, g.Consistent → g.hasNote a.owner = true →
    g.attributes.get? a.id = none → P g → P (g.attach a)
  removeAttribute : ∀ {g : Graph} {a : Attribute}, g.Consistent →
    g.attributes.get? a.id = some a → P g → P (g.removeAttribute a)
  renewNote : ∀ {g : Graph} {row : NoteRow}, g.hasNote row.id = true → P g → P (g.renewNote row)
  arrive : ∀ {g : Graph} {row : NoteRow}, g.Consistent → ¬g.hasNote row.id = true → P g →
    P (g.arrive row)
  eraseNote : ∀ {g : Graph} {n : NoteId}, g.Consistent →
    (∀ id b, g.branches.get? id = some b → b.child ≠ n ∧ b.parent ≠ n) →
    (∀ id a, g.attributes.get? id = some a → a.owner ≠ n) → P g → P (g.eraseNote n)

namespace IsKept

variable {P : Graph → Prop} (hkept : IsKept P) {v : Vault}
include hkept

/-! ## Updates -/

/-- Together with consistency, the property is kept by the updates. -/
theorem isUpheld : IsUpheld fun g => g.Consistent ∧ P g where
  resortParents n h := ⟨h.1.resortParents n, hkept.resortParents n h.2⟩
  addBranch _ hb h :=
    ⟨(h.1.addBranch hb).sortChildren _, hkept.sortChildren _ (hkept.addBranch h.1 hb h.2)⟩
  eraseBranch _ hb h := ⟨h.1.eraseBranch hb, hkept.eraseBranch h.1 hb h.2⟩
  attach _ hn ha h := ⟨h.1.attach hn ha, hkept.attach h.1 hn ha h.2⟩
  removeAttribute _ ha h := ⟨h.1.removeAttribute ha, hkept.removeAttribute h.1 ha h.2⟩
  renewNote hn h := ⟨h.1.renewNote hn, hkept.renewNote hn h.2⟩
  arrive _ hn h := ⟨h.1.arrive hn, hkept.arrive h.1 hn h.2⟩
  eraseNote {g n} _ hbranches howned h := by
    have hattributes : ∀ id a, g.attributes.get? id = some a → a.owner ≠ n := by
      rintro id a ha rfl
      rw [howned id (h.1.owner ha)] at ha
      exact absurd ha (by simp)
    exact ⟨h.1.eraseNote hbranches hattributes,
      hkept.eraseNote h.1 hbranches hattributes h.2⟩

theorem upsertBranch (hg : v.graph.Consistent) (row : BranchRow) (h : P v.graph) :
    P (v.upsertBranch row).graph :=
  (hkept.isUpheld.upsertBranch hg.keyed row ⟨hg, h⟩).2

theorem upsertAttribute (hg : v.graph.Consistent) (row : AttributeRow) (h : P v.graph) :
    P (v.upsertAttribute row).graph :=
  (hkept.isUpheld.upsertAttribute hg.keyed row ⟨hg, h⟩).2

theorem deleteNote (hg : v.graph.Consistent) (n : NoteId) (h : P v.graph) :
    P (v.deleteNote n).graph :=
  (hkept.isUpheld.deleteNote hg.keyed n ⟨hg, h⟩).2

end IsKept

/-- **Every change keeps a graph consistent.** -/
theorem isKept_consistent : IsKept Consistent where
  bare hedges hbranches hattributes hplacements := by
    constructor
    · constructor <;> simp [hbranches, hplacements, parents, children, parentBranches, hedges]
    · constructor <;> simp [hattributes, owned, hedges]
    · simp [hbranches]
    · simp [hattributes]
  loaded h :=
    ⟨h.toLinked.of_perm (fun _ _ _ h => h) rfl rfl (fun _ => .refl _) (fun _ => .refl _)
      fun _ => rfl, h.toAttached.of_eq rfl fun _ => rfl, h.noted, h.pointed⟩
  sortChildren n h := h.sortChildren n
  resortParents n h := h.resortParents n
  addBranch h hb _ := h.addBranch hb
  eraseBranch h hb _ := h.eraseBranch hb
  attach h hn ha _ := h.attach hn ha
  removeAttribute h ha _ := h.removeAttribute ha
  renewNote hn h := h.renewNote hn
  arrive h hn _ := h.arrive hn
  eraseNote h hbranches hattributes _ := h.eraseNote hbranches hattributes

end Graph

end Zettel
