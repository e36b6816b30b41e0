import Zettel.Proofs.Inheritance.Gathering

/-!
# Notes that no cycle can be reached from

A note is *settled* if drawing from it never comes back to a note. The collection at a settled note
is cut nowhere and does not depend on the path (`gather_of_settled`), and a collection that was cut
nowhere was at a settled note (`settled_of_isComplete`). So a complete collection may be kept for
every path that leads to the note.
-/

namespace Zettel.Graph

variable {g : Graph}

/-- The attributes of a note, collected with nothing remembered. -/
def attributesAt (g : Graph) (n : NoteId) : Attributes :=
  (g.gather (g.noteCount + 1) [] n).attributes

theorem attributesAt_eq_gather {d : Nat} (hd : g.noteCount < d) (n : NoteId) :
    g.attributesAt n = (g.gather d [] n).attributes := by
  rw [attributesAt, gather_eq_of_roomy _ d [] n (.start g) (roomy_nil hd)]

/-- Drawing from `n` comes to an end. -/
def Settled (g : Graph) (n : NoteId) : Prop := Acc (fun a b => g.Draws b a) n

theorem Settled.of_transGen {n m : NoteId} (h : g.Settled n)
    (hnm : Relation.TransGen g.Draws n m) : g.Settled m :=
  h.inv_of_transGen (Relation.transGen_swap.2 hnm)

/-- A settled note does not draw on itself. -/
theorem Settled.not_transGen_self {n : NoteId} (h : g.Settled n) :
    ¬Relation.TransGen g.Draws n n := by
  induction h with
  | intro n _ ih =>
    intro hn
    obtain ⟨m, hnm, hmn⟩ := Relation.TransGen.head'_iff.1 hn
    exact ih m hnm (.tail' hmn hnm)

/-- **The collection at a settled note is complete and does not depend on the path.** The notes on
the path draw on the note, so it cannot draw on them. -/
theorem gather_of_settled {n : NoteId} (h : g.Settled n) :
    ∀ {d d' : Nat} {path path' : List NoteId}, g.Roomy d path → g.Roomy d' path' →
      (∀ q ∈ path, Relation.TransGen g.Draws q n) →
      (∀ q ∈ path', Relation.TransGen g.Draws q n) →
        g.gather d path n = g.gather d' path' n ∧ (g.gather d path n).isComplete = true := by
  have hacc : Acc (Relation.TransGen fun a b => g.Draws b a) n := Acc.transGen h
  induction hacc with
  | intro n _ ih =>
    intro d d' path path' hroom hroom' hpath hpath'
    obtain ⟨d, rfl⟩ := hroom.ne_zero
    obtain ⟨d', rfl⟩ := hroom'.ne_zero
    by_cases hn : g.hasNote n = true
    · have hnp : n ∉ path := fun hq => h.not_transGen_self (hpath n hq)
      have hnp' : n ∉ path' := fun hq => h.not_transGen_self (hpath' n hq)
      have hbelow : ∀ {m : NoteId}, Relation.TransGen g.Draws n m →
          g.gather d (n :: path) m = g.gather d' (n :: path') m ∧
            (g.gather d (n :: path) m).isComplete = true := by
        intro m hnm
        refine ih m (Relation.transGen_swap.2 hnm) (h.of_transGen hnm) (hroom.cons hn hnp)
          (hroom'.cons hn hnp') ?_ ?_
        · intro q hq
          rcases List.mem_cons.1 hq with rfl | hq
          · exact hnm
          · exact (hpath q hq).trans hnm
        · intro q hq
          rcases List.mem_cons.1 hq with rfl | hq
          · exact hnm
          · exact (hpath' q hq).trans hnm
      have hparent : ∀ p ∈ g.inheritsFrom n, Relation.TransGen g.Draws n p :=
        fun p hp => .single (Or.inl hp)
      have htemplate : ∀ t ∈ g.templateTargets (g.gatherBase (g.gather d (n :: path)) n).1,
          Relation.TransGen g.Draws n t := fun t ht =>
        drawsOn_of_templateTarget (fun _ hid => owner_of_mem_gatherBase_gather hid) ht
      rw [gather_of_not_mem hn hnp, gather_of_not_mem hn hnp']
      constructor
      · rw [gatherAll_congr (fun p hp => (hbelow (hparent p hp)).1)
          fun t ht => (hbelow (htemplate t ht)).1]
      · refine isComplete_gatherFrom.2 ⟨isComplete_gatherFrom.2 ⟨rfl, fun p hp => ?_⟩,
          fun t ht => ?_⟩
        · exact (hbelow (hparent p hp)).2
        · exact (hbelow (htemplate t ht)).2
    · rw [Bool.not_eq_true] at hn
      rw [gather_of_not_hasNote hn, gather_of_not_hasNote hn]
      exact ⟨rfl, rfl⟩

/-- **A collection that was cut nowhere was at a settled note**, since it followed everything that
the note draws on. -/
theorem settled_of_isComplete : ∀ (d : Nat) (path : List NoteId) (n : NoteId),
    (g.gather d path n).isComplete = true → g.Settled n := by
  intro d
  induction d with
  | zero => intro path n h; exact absurd h (by simp [gather, Collected.cut])
  | succ d ih =>
    intro path n h
    by_cases hn : g.hasNote n = true
    · by_cases hp : n ∈ path
      · rw [gather_of_mem hn hp] at h
        exact absurd h (by simp [Collected.cut])
      · rw [gather_of_not_mem hn hp] at h
        obtain ⟨hbase, htemplates⟩ := isComplete_gatherFrom.1 h
        obtain ⟨-, hparents⟩ := isComplete_gatherFrom.1 hbase
        refine ⟨n, fun m hnm => ?_⟩
        rcases hnm with hm | hm
        · exact ih _ m (hparents m hm)
        · refine ih _ m (htemplates m ?_)
          obtain ⟨id, hid, hto⟩ := mem_templateTargets.1 hm
          exact mem_templateTargets.2
            ⟨id, mem_gatherFrom.2 (Or.inl (mem_addNew.2 (Or.inr hid))), hto⟩
    · exact ⟨n, fun m hnm => absurd (Draws.hasNote hnm) hn⟩

/-- At a settled note every path collects the attributes of the note. -/
theorem gather_eq_attributesAt {n : NoteId} (h : g.Settled n) {d : Nat} {path : List NoteId}
    (hroom : g.Roomy d path) (hpath : ∀ q ∈ path, Relation.TransGen g.Draws q n) :
    g.gather d path n = ⟨g.attributesAt n, true⟩ := by
  obtain ⟨hsame, hcomplete⟩ := gather_of_settled h hroom (.start g) hpath (by simp)
  rw [attributesAt, ← hsame, ← hcomplete]

end Zettel.Graph
