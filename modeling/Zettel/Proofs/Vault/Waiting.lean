import Zettel.Proofs.Vault.Placement

/-!
# What waits for a note

A branch may be stored before its notes are there. When one of these arrives and the other one is
there, the branch joins the two. A new parent goes behind the parents that a note has.

Main statements: `mem_parents_arrive`, which notes are joined when a note arrives, and
`parents_arrive_of_ne`, where the new note stands among the parents of another one.
-/

namespace Zettel.Graph

variable {g : Graph} {b : Branch} {row : NoteRow} {m c p : NoteId}

/-! ## Branches between two notes -/

/-- A stored branch places the note `c` under `p`. -/
def HasBranch (g : Graph) (c p : NoteId) : Prop :=
  ∃ b ∈ g.branches.values, b.child = c ∧ b.parent = p

instance (g : Graph) (c p : NoteId) : Decidable (g.HasBranch c p) :=
  inferInstanceAs (Decidable (∃ b ∈ g.branches.values, b.child = c ∧ b.parent = p))

/-- A stored branch could join the notes `c` and `p`: they are there, and the lower one is not the
root note. -/
def CanJoin (g : Graph) (c p : NoteId) : Prop :=
  c ≠ rootId ∧ g.hasNote c = true ∧ g.hasNote p = true ∧ g.HasBranch c p

instance (g : Graph) (c p : NoteId) : Decidable (g.CanJoin c p) :=
  inferInstanceAs (Decidable (_ ∧ _ ∧ _ ∧ _))

/-! ## Arrival -/

/-- No branch at a new note has joined it before. -/
theorem PlacesKnown.joins_putNote (hknown : g.PlacesKnown) (hn : ¬g.hasNote row.id = true)
    (hat : b.child = row.id ∨ b.parent = row.id) :
    (Vault.putNote g row).Joins b ↔ (Vault.putNote g row).Joinable b := by
  have hfree : (Vault.putNote g row).placements.contains (b.child, b.parent) = false := by
    rw [← Bool.not_eq_true, placements_putNote]
    intro hplaced
    obtain ⟨-, hc, hp⟩ := hknown hplaced
    rcases hat with hat | hat
    · exact hn (hat ▸ hc)
    · exact hn (hat ▸ hp)
  simp only [Joins, Joinable, hfree, and_true]

/-- The branches at a new note that join their notes are those that could. -/
theorem PlacesKnown.exists_joins_iff (hknown : g.PlacesKnown) (hn : ¬g.hasNote row.id = true) :
    (∃ b ∈ (Vault.putNote g row).branchesAt row.id, (Vault.putNote g row).Joins b ∧ c = b.child ∧
      p = b.parent) ↔ (c = row.id ∨ p = row.id) ∧ (g.arrive row).CanJoin c p := by
  have hnote : ∀ n, (g.arrive row).hasNote n = (Vault.putNote g row).hasNote n := fun n => by
    rw [hasNote_arrive, hasNote_putNote]
  simp only [CanJoin, HasBranch, branches_arrive, hnote, branchesAt, List.mem_filter,
    Bool.or_eq_true, decide_eq_true_eq, branches_putNote]
  constructor
  · rintro ⟨b, ⟨hb, hat⟩, hj, rfl, rfl⟩
    obtain ⟨hroot, hc, hp⟩ := (hknown.joins_putNote hn hat).1 hj
    exact ⟨hat, hroot, hc, hp, b, hb, rfl, rfl⟩
  · rintro ⟨hat, hroot, hc, hp, b, hb, rfl, rfl⟩
    exact ⟨b, ⟨hb, hat⟩, (hknown.joins_putNote hn hat).2 ⟨hroot, hc, hp⟩, rfl, rfl⟩

/-- **A note that arrives is joined to the notes that a stored branch can join it to.** -/
theorem PlacesKnown.mem_parents_arrive (hknown : g.PlacesKnown) (hn : ¬g.hasNote row.id = true) :
    p ∈ (g.arrive row).parents c ↔
      p ∈ g.parents c ∨ (c = row.id ∨ p = row.id) ∧ (g.arrive row).CanJoin c p := by
  rw [← hknown.exists_joins_iff hn, Graph.arrive, (parents_resortParents_perm _ _ _).mem_iff,
    parents_pointAll, mem_parents_linkAll, parents, edges_putNote_of_new hn, parents]

/-- **A new parent goes behind the others.** -/
theorem PlacesKnown.parents_arrive_of_ne (hknown : g.PlacesKnown) (hn : ¬g.hasNote row.id = true)
    (hm : m ≠ row.id) : (g.arrive row).parents m =
      if (g.arrive row).CanJoin m row.id then g.parents m ++ [row.id] else g.parents m := by
  have hat : ∀ b ∈ (Vault.putNote g row).branchesAt row.id,
      b.child = row.id ∨ b.parent = row.id := fun b hb => by
    simpa using (List.mem_filter.1 hb).2
  have hjoined : (∃ b ∈ (Vault.putNote g row).branchesAt row.id,
      (Vault.putNote g row).Joins b ∧ b.child = m) ↔ (g.arrive row).CanJoin m row.id := by
    refine Iff.trans ?_ ((hknown.exists_joins_iff hn).trans (and_iff_right (Or.inr rfl)))
    refine exists_congr fun b => and_congr_right fun hb => and_congr_right fun _ => ?_
    constructor
    · rintro rfl
      exact ⟨rfl, ((hat b hb).resolve_left hm).symm⟩
    · exact fun h => h.1.symm
  have hold : (Vault.putNote g row).parents m = g.parents m :=
    congrArg Edges.parents (edges_putNote_of_new hn m)
  rw [Graph.arrive, parents_resortParents, if_neg hm, parents_pointAll, parents_linkAll hat hm,
    ← Graph.arrive, hold]
  simp only [hjoined]

end Zettel.Graph
