import Mathlib.Data.Set.Basic
import Zettel.Proofs.Inheritance.Settled

/-!
# What the attributes of a note depend on

The attributes of a note depend on the edges of the notes that it draws on, and on nothing else. So
two graphs that agree on a closed set of notes, one that nothing outside is drawn on from, collect
the same attributes at the notes of this set.

Main statement: `attributesAt_of_agrees`.
-/

namespace Zettel.Graph

variable {g g' g'' : Graph} {S T : Set NoteId} {n m : NoteId}

/-! ## Agreement on a set of notes -/

/-- The notes of a set have the same parents and attributes in both graphs. -/
structure Agrees (g g' : Graph) (S : Set NoteId) : Prop where
  hasNote : ∀ n ∈ S, g'.hasNote n = g.hasNote n
  parents : ∀ n ∈ S, g'.parents n = g.parents n
  owned : ∀ n ∈ S, g'.owned n = g.owned n
  stored : ∀ n ∈ S, ∀ id ∈ g.owned n, g'.attributes.get? id = g.attributes.get? id

theorem Agrees.refl (g : Graph) (S : Set NoteId) : g.Agrees g S :=
  ⟨fun _ _ => rfl, fun _ _ => rfl, fun _ _ => rfl, fun _ _ _ _ => rfl⟩

theorem Agrees.symm (h : g.Agrees g' S) : g'.Agrees g S where
  hasNote n hn := (h.hasNote n hn).symm
  parents n hn := (h.parents n hn).symm
  owned n hn := (h.owned n hn).symm
  stored n hn id hid := by
    rw [h.owned n hn] at hid
    exact (h.stored n hn id hid).symm

theorem Agrees.trans (h : g.Agrees g' S) (h' : g'.Agrees g'' S) : g.Agrees g'' S where
  hasNote n hn := (h'.hasNote n hn).trans (h.hasNote n hn)
  parents n hn := (h'.parents n hn).trans (h.parents n hn)
  owned n hn := (h'.owned n hn).trans (h.owned n hn)
  stored n hn id hid := by
    have hid' : id ∈ g'.owned n := by rwa [h.owned n hn]
    exact (h'.stored n hn id hid').trans (h.stored n hn id hid)

/-- Nothing outside the set is drawn on from inside. -/
def Closed (g : Graph) (S : Set NoteId) : Prop := ∀ n ∈ S, ∀ m, g.Draws n m → m ∈ S

theorem Closed.drawsOn (h : g.Closed S) (hn : n ∈ S) (hnm : g.DrawsOn n m) : m ∈ S := by
  induction hnm with
  | refl => exact hn
  | tail _ hstep ih => exact h _ ih _ hstep

theorem templateTargets_congr {ids : List AttributeId}
    (h : ∀ id ∈ ids, g'.attributes.get? id = g.attributes.get? id) :
    g'.templateTargets ids = g.templateTargets ids := by
  rw [templateTargets, templateTargets, List.filterMap_congr h]

theorem inheritableAmong_congr {ids : List AttributeId}
    (h : ∀ id ∈ ids, g'.attributes.get? id = g.attributes.get? id) :
    g'.inheritableAmong ids = g.inheritableAmong ids := by
  refine List.filter_congr fun id hid => ?_
  rw [h id hid]

theorem Agrees.inheritsFrom (h : g.Agrees g' S) (hn : n ∈ S) :
    g'.inheritsFrom n = g.inheritsFrom n := by
  rw [Graph.inheritsFrom, Graph.inheritsFrom, h.parents n hn]

theorem Agrees.draws_iff (h : g.Agrees g' S) (hn : n ∈ S) : g'.Draws n m ↔ g.Draws n m := by
  rw [Draws, Draws, h.inheritsFrom hn, h.owned n hn, templateTargets_congr (h.stored n hn)]

theorem Agrees.closed (h : g.Agrees g' S) (hS : g.Closed S) : g'.Closed S := fun n hn m hnm =>
  hS n hn m ((h.draws_iff hn).1 hnm)

/-! ## The collection -/

/-- What is gathered does not depend on what the table says of other attributes. -/
theorem gatherFrom_congr_graph {c c' : NoteId → Collected} {pick : Attributes → List AttributeId}
    {sources : List NoteId} (hc : ∀ n ∈ sources, c' n = c n)
    (hids : ∀ n ∈ sources, ∀ id ∈ pick (c n).attributes,
      g'.attributes.get? id = g.attributes.get? id)
    (s : List AttributeId × Bool) :
    g'.gatherFrom c' pick sources s = g.gatherFrom c pick sources s := by
  induction sources generalizing s with
  | nil => rfl
  | cons m sources ih =>
    have hfilter : (pick (c m).attributes).filter g'.attributes.contains =
        (pick (c m).attributes).filter g.attributes.contains := by
      refine List.filter_congr fun id hid => ?_
      rw [Table.contains, Table.contains, hids m List.mem_cons_self id hid]
    rw [gatherFrom, gatherFrom, List.foldl_cons, List.foldl_cons, hc m List.mem_cons_self, hfilter]
    exact ih (fun n hn => hc n (List.mem_cons_of_mem _ hn))
      (fun n hn => hids n (List.mem_cons_of_mem _ hn)) _

/-- The attributes that are collected in a closed set are the same in both tables. -/
theorem Agrees.stored_of_drawsOn (h : g.Agrees g' S) (hS : g.Closed S) (hn : n ∈ S)
    {id : AttributeId} (hid : ∃ w, g.DrawsOn n w ∧ id ∈ g.owned w) :
    g'.attributes.get? id = g.attributes.get? id := by
  obtain ⟨w, hw, hown⟩ := hid
  exact h.stored w (hS.drawsOn hn hw) id hown

/-- **Graphs that agree on a closed set collect the same in it.** -/
theorem gather_of_agrees (h : g.Agrees g' S) (hS : g.Closed S) : ∀ (d : Nat) (path : List NoteId)
    (n : NoteId), n ∈ S → g'.gather d path n = g.gather d path n := by
  intro d
  induction d with
  | zero => exact fun _ _ _ => rfl
  | succ d ih =>
    intro path n hn
    by_cases hnote : g.hasNote n = true
    · have hnote' : g'.hasNote n = true := by rwa [h.hasNote n hn]
      by_cases hp : n ∈ path
      · rw [gather_of_mem hnote hp, gather_of_mem hnote' hp]
      · have hparent : ∀ p ∈ g.inheritsFrom n, p ∈ S := fun p hp => hS n hn p (Or.inl hp)
        have hbase : g'.gatherBase (g'.gather d (n :: path)) n =
            g.gatherBase (g.gather d (n :: path)) n := by
          rw [gatherBase, h.inheritsFrom hn, h.owned n hn]
          refine gatherFrom_congr_graph (fun p hp => ih _ p (hparent p hp)) ?_ _
          intro p hp id hid
          exact h.stored_of_drawsOn hS (hparent p hp)
            (owner_of_mem_gather _ _ p id (inheritable_subset_all _ _ _ hid))
        have htargets : g'.templateTargets (g.gatherBase (g.gather d (n :: path)) n).1 =
            g.templateTargets (g.gatherBase (g.gather d (n :: path)) n).1 :=
          templateTargets_congr fun id hid =>
            h.stored_of_drawsOn hS hn (owner_of_mem_gatherBase_gather hid)
        have htarget : ∀ t ∈ g.templateTargets (g.gatherBase (g.gather d (n :: path)) n).1,
            t ∈ S := fun t ht => hS.drawsOn hn (drawsOn_of_templateTarget
              (fun _ hid => owner_of_mem_gatherBase_gather hid) ht).to_reflTransGen
        have hall : g'.gatherAll (g'.gather d (n :: path)) n =
            g.gatherAll (g.gather d (n :: path)) n := by
          rw [gatherAll, hbase, htargets]
          refine gatherFrom_congr_graph (fun t ht => ih _ t (htarget t ht)) ?_ _
          intro t ht id hid
          exact h.stored_of_drawsOn hS (htarget t ht) (owner_of_mem_gather _ _ t id hid)
        have hids : ∀ id ∈ (g.gatherAll (g.gather d (n :: path)) n).1,
            g'.attributes.get? id = g.attributes.get? id := by
          intro id hid
          refine h.stored_of_drawsOn hS hn (owner_of_mem_gather (d + 1) path n id ?_)
          rw [gather_of_not_mem hnote hp]
          exact hid
        rw [gather_of_not_mem hnote hp, gather_of_not_mem hnote' hp, hall, collectedOf,
          collectedOf, inheritableAmong_congr hids]
    · rw [Bool.not_eq_true] at hnote
      have hnote' : g'.hasNote n = false := by rwa [h.hasNote n hn]
      rw [gather_of_not_hasNote hnote, gather_of_not_hasNote hnote']

/-- **Graphs that agree on a closed set give its notes the same attributes.** -/
theorem attributesAt_of_agrees (h : g.Agrees g' S) (hS : g.Closed S) (hn : n ∈ S) :
    g'.attributesAt n = g.attributesAt n := by
  let d := g.noteCount + g'.noteCount + 1
  calc g'.attributesAt n
      = (g'.gather d [] n).attributes := attributesAt_eq_gather (by omega) n
    _ = (g.gather d [] n).attributes := by rw [gather_of_agrees h hS d [] n hn]
    _ = g.attributesAt n := (attributesAt_eq_gather (by omega) n).symm

end Zettel.Graph
