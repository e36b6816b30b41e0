import Zettel.Graph.Views
import Zettel.Proofs.Inheritance.Locality

/-!
# Climbing to the ancestors

The climb from a note visits each ancestor once, and may go as deep as there are notes. This is
always deep enough: `climb_eq_of_roomy`, the depth has no bearing on the result.
-/

namespace Zettel.Graph

variable {g g' : Graph} {S : Set NoteId} {d : Nat} {n p : NoteId} {seen : List NoteId}

/-- Visits a parent and what is above it, unless it has been visited. -/
def climbTo (g : Graph) (d : Nat) (seen : List NoteId) (p : NoteId) : List NoteId :=
  if seen.contains p then seen else g.climb d p (seen ++ [p])

theorem climb_succ (g : Graph) (d : Nat) (n : NoteId) (seen : List NoteId) :
    g.climb (d + 1) n seen = (g.parents n).foldl (g.climbTo d) seen := rfl

/-- The notes that are parents exist. -/
def ParentsKnown (g : Graph) : Prop := ∀ c p, p ∈ g.parents c → g.hasNote p = true

theorem Roomy.succ (h : g.Roomy d seen) : g.Roomy (d + 1) seen where
  nodup := h.nodup
  hasNote := h.hasNote
  noteCount_lt := by
    have := h.noteCount_lt
    omega

theorem Roomy.visit (h : g.Roomy (d + 1) seen) (hn : g.hasNote p = true) (hp : p ∉ seen) :
    g.Roomy d (seen ++ [p]) where
  nodup := (List.nodup_cons.2 ⟨hp, h.nodup⟩).perm (List.perm_append_singleton _ _).symm
  hasNote q hq := by
    rcases List.mem_append.1 hq with hq | hq
    · exact h.hasNote q hq
    · rwa [List.mem_singleton.1 hq]
  noteCount_lt := by
    have := h.noteCount_lt
    rw [List.length_append, List.length_singleton]
    omega

/-- Climbing visits notes that exist, each once, so it leaves the room that there was. -/
theorem roomy_climb (hg : g.ParentsKnown) {room : Nat} : ∀ (d : Nat) (n : NoteId)
    (seen : List NoteId), g.Roomy room seen → g.Roomy room (g.climb d n seen) := by
  intro d
  induction d with
  | zero => exact fun _ _ h => h
  | succ d ih =>
    intro n seen h
    rw [climb_succ]
    refine List.foldlRecOn _ _ (motive := fun seen => g.Roomy room seen) h ?_
    intro seen h p hp
    rw [climbTo]
    split
    · exact h
    · next hseen => exact ih p _ (h.succ.visit (hg n p hp) (by simpa using hseen))

theorem roomy_climbTo (hg : g.ParentsKnown) (d : Nat) {room : Nat} (h : g.Roomy room seen)
    (hp : g.hasNote p = true) : g.Roomy room (g.climbTo d seen p) := by
  rw [climbTo]
  split
  · exact h
  · next hseen => exact roomy_climb hg d p _ (h.succ.visit hp (by simpa using hseen))

/-- **The depth of the climb has no bearing on the result, where there is room.** -/
theorem climb_eq_of_roomy (hg : g.ParentsKnown) : ∀ (d d' : Nat) (n : NoteId)
    (seen : List NoteId), g.Roomy d seen → g.Roomy d' seen →
      g.climb d n seen = g.climb d' n seen := by
  intro d
  induction d with
  | zero => intro d' n seen h; exact absurd h.ne_zero (by simp)
  | succ d ih =>
    intro d' n seen h h'
    obtain ⟨d', rfl⟩ := h'.ne_zero
    rw [climb_succ, climb_succ]
    have hknown : ∀ p ∈ g.parents n, g.hasNote p = true := fun p hp => hg n p hp
    generalize g.parents n = ps at hknown
    induction ps generalizing seen with
    | nil => rfl
    | cons p ps ihps =>
      have hp := hknown p List.mem_cons_self
      have hstep : g.climbTo d seen p = g.climbTo d' seen p := by
        rw [climbTo, climbTo]
        split
        · rfl
        · next hseen =>
          have hseen' : p ∉ seen := by simpa using hseen
          exact ih d' p _ (h.visit hp hseen') (h'.visit hp hseen')
      rw [List.foldl_cons, List.foldl_cons, ← hstep]
      have hnext := roomy_climbTo hg d h hp
      have hnext' := roomy_climbTo hg d h' hp
      exact ihps _ hnext hnext' fun q hq => hknown q (List.mem_cons_of_mem _ hq)

/-- **Graphs that agree on a set that no parent leads out of climb alike in it.** -/
theorem climb_of_agrees (h : g.Agrees g' S) (hS : ∀ n ∈ S, ∀ p ∈ g.parents n, p ∈ S) :
    ∀ (d : Nat) (n : NoteId) (seen : List NoteId), n ∈ S →
      g'.climb d n seen = g.climb d n seen := by
  intro d
  induction d with
  | zero => exact fun _ _ _ => rfl
  | succ d ih =>
    intro n seen hn
    rw [climb_succ, climb_succ, h.parents n hn]
    refine List.foldl_ext _ _ _ fun seen p hp => ?_
    rw [climbTo, climbTo]
    split
    · rfl
    · exact ih p _ (hS n hn p hp)

end Zettel.Graph
