import Zettel.Proofs.Ancestors
import Zettel.Proofs.Graph.Consistent
import Zettel.Proofs.Memory

/-!
# What the views of a note depend on

Like its attributes, the ancestors and the flat text of a note depend on the notes that it draws on;
the flat text also on what the note itself shows, its id, its title and the leads of its branches.

Main statement: `Fits.of_agrees`, what is remembered of a note fits both of two graphs that agree on
the notes that matter.
-/

namespace Zettel.Graph

variable {g g' : Graph} {S : Set NoteId} {n : NoteId} {c : NoteMemo}

/-! ## What a note shows -/

/-- The leads under which a note is placed, each followed by a dash. -/
def leadsAt (g : Graph) (n : NoteId) : String :=
  String.join ((g.parentBranches n).filterMap fun b =>
    ((g.branches.get? b).bind Branch.lead).map (· ++ " - "))

/-- The note shows the same in both graphs: id, title and leads. -/
structure ShowsAlike (g g' : Graph) (n : NoteId) : Prop where
  caption : g'.caption? n = g.caption? n
  leads : g'.leadsAt n = g.leadsAt n

theorem ShowsAlike.refl (g : Graph) (n : NoteId) : g.ShowsAlike g n := ⟨rfl, rfl⟩

theorem ShowsAlike.trans {g'' : Graph} (h : g.ShowsAlike g' n) (h' : g'.ShowsAlike g'' n) :
    g.ShowsAlike g'' n :=
  ⟨h'.caption.trans h.caption, h'.leads.trans h.leads⟩

theorem showsAlike_of_branches (hbare : g'.bare? n = g.bare? n)
    (hnoted : g'.parentBranches n = g.parentBranches n)
    (hbranches : ∀ id ∈ g.parentBranches n, g'.branches.get? id = g.branches.get? id) :
    g.ShowsAlike g' n := by
  refine ⟨caption?_congr hbare, ?_⟩
  rw [leadsAt, leadsAt, hnoted]
  refine congrArg String.join (List.filterMap_congr fun id hid => ?_)
  rw [hbranches id hid]

/-- The flat text of a note by what it shows and by its attributes. -/
theorem flatTextAt_eq (g : Graph) (n : NoteId) : g.flatTextAt n =
    match g.caption? n with
    | none => ""
    | some (id, title) =>
      if g.isHiddenAt n then " "
      else Text.lowercase (id ++ " " ++ g.leadsAt n ++ title ++ " " ++
        String.join ((g.effectiveAt n).map attributeText)) := by
  rw [flatTextAt, caption?, leadsAt, parentBranches, edges]
  cases g.notes.get? n <;> rfl

/-! ## Agreement of the views -/

theorem Linked.parentsKnown (h : g.Linked) : g.ParentsKnown := fun _ _ hp => h.parent_known hp

theorem Linked.closed_parents (h : g.Linked) (hS : g.Closed S) :
    ∀ n ∈ S, ∀ p ∈ g.parents n, p ∈ S := by
  intro n hn p hp
  refine hS n hn p (Or.inl ?_)
  rwa [inheritsFrom, if_neg (h.child_ne_root hp)]

theorem ancestorsAt_of_agrees (h : g.Agrees g' S) (hS : g.Closed S) (hg : g.Linked)
    (hg' : g'.Linked) (hn : n ∈ S) : g'.ancestorsAt n = g.ancestorsAt n := by
  rw [ancestorsAt, ancestorsAt, h.hasNote n hn]
  split
  · next hnote =>
    have hroomy : ∀ (g : Graph) (d : Nat), g.hasNote n = true → g.noteCount ≤ d →
        g.Roomy d [n] := fun g d hn hd =>
      ⟨List.nodup_singleton n, by simpa using hn, by rw [List.length_singleton]; omega⟩
    have hnote' : g'.hasNote n = true := by rwa [h.hasNote n hn]
    let d := g.noteCount + g'.noteCount
    have hclimb : g'.climb g'.noteCount n [n] = g.climb g.noteCount n [n] := by
      calc g'.climb g'.noteCount n [n]
          = g'.climb d n [n] := climb_eq_of_roomy hg'.parentsKnown _ d n [n]
            (hroomy g' _ hnote' le_rfl) (hroomy g' d hnote' (by omega))
        _ = g.climb d n [n] := climb_of_agrees h (hg.closed_parents hS) d n [n] hn
        _ = g.climb g.noteCount n [n] := climb_eq_of_roomy hg.parentsKnown d _ n [n]
            (hroomy g d hnote (by omega)) (hroomy g _ hnote le_rfl)
    rw [hclimb]
  · rfl

theorem effectiveAt_congr (hattributes : g'.attributesAt n = g.attributesAt n)
    (hstored : ∀ id ∈ (g.attributesAt n).all, g'.attributes.get? id = g.attributes.get? id) :
    g'.effectiveAt n = g.effectiveAt n := by
  rw [effectiveAt, effectiveAt, hattributes]
  exact List.filterMap_congr hstored

/-- Graphs that agree on a closed set give its notes the same attributes with the same values. -/
theorem effectiveAt_of_agrees (h : g.Agrees g' S) (hS : g.Closed S) (hn : n ∈ S) :
    g'.effectiveAt n = g.effectiveAt n :=
  effectiveAt_congr (attributesAt_of_agrees h hS hn) fun id hid =>
    h.stored_of_drawsOn hS hn (owner_of_mem_gather _ _ n id hid)

/-- A note with the same attributes that shows the same has the same flat text. -/
theorem flatTextAt_congr (hattributes : g'.attributesAt n = g.attributesAt n)
    (hstored : ∀ id ∈ (g.attributesAt n).all, g'.attributes.get? id = g.attributes.get? id)
    (hshow : g.ShowsAlike g' n) : g'.flatTextAt n = g.flatTextAt n := by
  rw [flatTextAt_eq, flatTextAt_eq, isHiddenAt, isHiddenAt, effectiveAt_congr hattributes hstored,
    hshow.caption, hshow.leads]

theorem flatTextAt_of_agrees (h : g.Agrees g' S) (hS : g.Closed S) (hn : n ∈ S)
    (hshow : g.ShowsAlike g' n) : g'.flatTextAt n = g.flatTextAt n :=
  flatTextAt_congr (attributesAt_of_agrees h hS hn)
    (fun id hid => h.stored_of_drawsOn hS hn (owner_of_mem_gather _ _ n id hid)) hshow

/-- **What is remembered of a note stays right, if nothing changes where the note draws on and the
note shows the same.** -/
theorem Fits.of_agrees (hfits : g.Fits n c) (h : g.Agrees g' S) (hS : g.Closed S) (hg : g.Linked)
    (hg' : g'.Linked) (hn : n ∈ S) (hshow : g.ShowsAlike g' n) : g'.Fits n c where
  attributes a ha := (hfits.attributes a ha).trans (attributesAt_of_agrees h hS hn).symm
  ancestors ns hns := (hfits.ancestors ns hns).trans (ancestorsAt_of_agrees h hS hg hg' hn).symm
  flatText text ht := (hfits.flatText text ht).trans (flatTextAt_of_agrees h hS hn hshow).symm

end Zettel.Graph
