import Zettel.Proofs.Graph.Path

/-!
# What a climb comes to

The climb from a note goes on at each parent that it has not seen. So what it has visited in the end
is closed under parents, and it has visited nothing that parents do not lead to.

Main statement: `mem_ancestorsAt_iff`, the ancestors of a note, with the note itself, are the notes
that parents lead to.
-/

namespace Zettel.Graph

variable {g : Graph} {d : Nat} {n m a p : NoteId} {seen ps : List NoteId}

/-! ## What is visited -/

/-- The climb puts what it visits behind what it has seen. -/
theorem exists_climb_eq_append : ∀ (d : Nat) (n : NoteId) (seen : List NoteId),
    ∃ new, g.climb d n seen = seen ++ new := by
  intro d
  induction d with
  | zero => exact fun _ seen => ⟨[], (List.append_nil seen).symm⟩
  | succ d ih =>
    intro n seen
    rw [climb_succ]
    refine List.foldlRecOn _ _ (motive := fun seen' => ∃ new, seen' = seen ++ new)
      ⟨[], (List.append_nil seen).symm⟩ ?_
    rintro _ ⟨new, rfl⟩ p -
    rw [climbTo]
    split_ifs
    · exact ⟨new, rfl⟩
    · obtain ⟨more, hmore⟩ := ih p (seen ++ new ++ [p])
      exact ⟨new ++ [p] ++ more, by rw [hmore, List.append_assoc, List.append_assoc,
        List.append_assoc]⟩

theorem subset_climb (d : Nat) (n : NoteId) (seen : List NoteId) : seen ⊆ g.climb d n seen := by
  obtain ⟨new, hnew⟩ := exists_climb_eq_append (g := g) d n seen
  rw [hnew]
  exact List.subset_append_left seen new

theorem subset_climbTo (d : Nat) (p : NoteId) (seen : List NoteId) :
    seen ⊆ g.climbTo d seen p := by
  rw [climbTo]
  split_ifs
  · exact List.Subset.refl seen
  · exact List.Subset.trans (List.subset_append_left seen [p]) (subset_climb d p _)

/-- What parents pass on, the climb does not leave. -/
theorem of_mem_climb {T : NoteId → Prop} (hT : ∀ c, T c → ∀ p ∈ g.parents c, T p) :
    ∀ (d : Nat) (n : NoteId) (seen : List NoteId), T n → (∀ q ∈ seen, T q) →
      ∀ a ∈ g.climb d n seen, T a := by
  intro d
  induction d with
  | zero => exact fun _ _ _ hseen => hseen
  | succ d ih =>
    intro n seen hn hseen
    rw [climb_succ]
    refine List.foldlRecOn _ _ (motive := fun seen => ∀ a ∈ seen, T a) hseen ?_
    intro seen hseen p hp
    have hparent := hT n hn p hp
    rw [climbTo]
    split_ifs
    · exact hseen
    · refine ih p _ hparent fun q hq => ?_
      rcases List.mem_append.1 hq with hq | hq
      · exact hseen q hq
      · rwa [List.mem_singleton.1 hq]

/-- The climb visits the parents of what it visits. Those of the notes that it had seen before are
left to whoever put these there. -/
theorem climb_closed (hg : g.ParentsKnown) : ∀ (d : Nat) (n : NoteId) (seen : List NoteId),
    g.Roomy d seen → g.parents n ⊆ g.climb d n seen ∧
      ∀ a ∈ g.climb d n seen, a ∉ seen → g.parents a ⊆ g.climb d n seen := by
  intro d
  induction d with
  | zero => intro n seen h; exact absurd h.ne_zero (by simp)
  | succ d ih =>
    intro n seen h
    rw [climb_succ]
    have hknown : ∀ p ∈ g.parents n, g.hasNote p = true := fun p hp => hg n p hp
    generalize g.parents n = ps at hknown
    induction ps generalizing seen with
    | nil => exact ⟨List.nil_subset _, fun a ha hnew => absurd ha hnew⟩
    | cons p ps ihps =>
      -- the climb from the other parents starts with all seen that the climb from `p` visited
      have hp := hknown p List.mem_cons_self
      have hroomy := roomy_climbTo hg d h hp
      obtain ⟨hrest, hclosed⟩ := ihps _ hroomy fun q hq => hknown q (List.mem_cons_of_mem p hq)
      have hkept : g.climbTo d seen p ⊆ ps.foldl (g.climbTo d) (g.climbTo d seen p) :=
        List.foldlRecOn ps _ (motive := fun seen' => g.climbTo d seen p ⊆ seen')
          (List.Subset.refl _) fun seen' h q _ => List.Subset.trans h (subset_climbTo d q seen')
      have hstep : p ∈ g.climbTo d seen p ∧
          ∀ a ∈ g.climbTo d seen p, a ∉ seen → g.parents a ⊆ g.climbTo d seen p := by
        rw [climbTo]
        split_ifs with hseen
        · exact ⟨by simpa using hseen, fun a ha hnew => absurd ha hnew⟩
        · have hseen' : p ∉ seen := by simpa using hseen
          obtain ⟨hparents, hvisited⟩ := ih p (seen ++ [p]) (h.visit hp hseen')
          refine ⟨subset_climb d p _ (by simp), fun a ha hnew => ?_⟩
          by_cases hap : a = p
          · exact hap ▸ hparents
          · exact hvisited a ha (by simp [hnew, hap])
      rw [List.foldl_cons]
      refine ⟨List.cons_subset.2 ⟨hkept hstep.1, hrest⟩, fun a ha hnew => ?_⟩
      by_cases hfirst : a ∈ g.climbTo d seen p
      · exact List.Subset.trans (hstep.2 a hfirst hnew) hkept
      · exact hclosed a ha hfirst

/-! ## Ancestors -/

theorem climbs_iff : g.Climbs anyNote n m ↔
    Relation.ReflTransGen (fun c p => p ∈ g.parents c) n m := by
  simp only [Climbs, usableParents, List.filter_true]

/-- **The ancestors of a note, with the note itself, are what parents lead to.** -/
theorem mem_ancestorsAt_iff (hg : g.ParentsKnown) (hn : g.hasNote n = true) :
    a = n ∨ a ∈ g.ancestorsAt n ↔ g.Climbs anyNote n a := by
  have hroomy : g.Roomy g.noteCount [n] :=
    ⟨List.nodup_singleton n, by simpa using hn, Nat.lt_succ_self _⟩
  obtain ⟨new, hnew⟩ := exists_climb_eq_append (g := g) g.noteCount n [n]
  have hvisited : a = n ∨ a ∈ g.ancestorsAt n ↔ a ∈ g.climb g.noteCount n [n] := by
    rw [ancestorsAt, if_pos hn, hnew, List.singleton_append, List.tail_cons, List.mem_cons]
  obtain ⟨hparents, hclosed⟩ := climb_closed hg g.noteCount n [n] hroomy
  rw [hvisited, climbs_iff]
  constructor
  · refine of_mem_climb (T := Relation.ReflTransGen (fun c p => p ∈ g.parents c) n)
      (fun c hc p hp => hc.tail hp) _ _ _ .refl ?_ a
    simp [Relation.ReflTransGen.refl]
  · intro hclimbs
    clear hvisited
    induction hclimbs with
    | refl => exact subset_climb _ _ _ (by simp)
    | @tail c p _ hp ih =>
      by_cases hc : c = n
      · exact hparents (hc ▸ hp)
      · exact hclosed c ih (by simpa using hc) hp

end Zettel.Graph
