import Zettel.Proofs.Vault.Filed
import Zettel.Proofs.Vault.Loading
import Zettel.Proofs.Vault.Waiting

/-!
# Notes that come late

Branches and relations may be stored before the notes that they mention. When these come one by one,
what waited for them is linked. When they are loaded together, nothing is: a load links the branches
and relations that it brings, and no others.

Main statement: `linkedAlike_load_iff`, both ways lead to the same edges exactly if nothing waits
for the notes.
-/

namespace Zettel

/-- A snapshot of notes alone. -/
def Snapshot.ofNotes (rows : List NoteRow) : Snapshot := { notes := rows }

namespace Graph

variable {g g' g'' : Graph} {row : NoteRow} {rows : List NoteRow} {n m c p : NoteId}

/-- Every note has the same parents, children and branches above it, and the same relations point at
it, in whatever order. -/
structure LinkedAlike (g g' : Graph) : Prop where
  parents : ∀ n p, p ∈ g.parents n ↔ p ∈ g'.parents n
  children : ∀ n c, c ∈ g.children n ↔ c ∈ g'.children n
  parentBranches : ∀ n id, id ∈ g.parentBranches n ↔ id ∈ g'.parentBranches n
  incoming : ∀ n id, id ∈ g.incoming n ↔ id ∈ g'.incoming n

theorem LinkedAlike.symm (h : g.LinkedAlike g') : g'.LinkedAlike g :=
  ⟨fun n p => (h.parents n p).symm, fun n c => (h.children n c).symm,
    fun n id => (h.parentBranches n id).symm, fun n id => (h.incoming n id).symm⟩

theorem LinkedAlike.trans (h : g.LinkedAlike g') (h' : g'.LinkedAlike g'') : g.LinkedAlike g'' :=
  ⟨fun n p => (h.parents n p).trans (h'.parents n p),
    fun n c => (h.children n c).trans (h'.children n c),
    fun n id => (h.parentBranches n id).trans (h'.parentBranches n id),
    fun n id => (h.incoming n id).trans (h'.incoming n id)⟩

/-- Something that is stored waits for one of the notes: a branch that places it, a branch that
places under it a note that is there, or a relation that points at it. -/
def Awaits (g : Graph) (ns : List NoteId) : Prop :=
  (∃ b ∈ g.branches.values, b.child ∈ ns) ∨
    (∃ b ∈ g.branches.values, b.parent ∈ ns ∧ b.child ≠ rootId ∧ g.hasNote b.child = true) ∨
    ∃ a ∈ g.attributes.values, ∃ n ∈ ns, a.target? = some n

instance (g : Graph) (ns : List NoteId) : Decidable (g.Awaits ns) :=
  inferInstanceAs (Decidable (_ ∨ _ ∨ _))

/-- The rows describe different notes, none of which is there. -/
structure AllNew (g : Graph) (rows : List NoteRow) : Prop where
  distinct : (rows.map NoteRow.id).Nodup
  unknown : ∀ row ∈ rows, ¬g.hasNote row.id = true

/-! ## One by one -/

/-- Puts new notes into the graph, one by one, and joins them with what waited for them. -/
def arriveAll (g : Graph) (rows : List NoteRow) : Graph := rows.foldl arrive g

/-- The first note is new, and after it has arrived the others still are. -/
theorem AllNew.of_cons (h : g.AllNew (row :: rows)) :
    ¬g.hasNote row.id = true ∧ (g.arrive row).AllNew rows := by
  obtain ⟨hfirst, hrest⟩ := List.nodup_cons.1 h.distinct
  refine ⟨h.unknown row List.mem_cons_self, hrest, fun row' hrow' => ?_⟩
  rw [hasNote_arrive, Bool.or_eq_true, decide_eq_true_eq, not_or]
  refine ⟨fun heq => hfirst ?_, h.unknown row' (List.mem_cons_of_mem row hrow')⟩
  exact heq ▸ List.mem_map_of_mem hrow'

/-- None of the notes is there before they arrive. -/
theorem AllNew.not_hasNote (h : g.AllNew rows) (hn : n ∈ rows.map NoteRow.id) :
    ¬g.hasNote n = true := by
  obtain ⟨row, hrow, rfl⟩ := List.mem_map.1 hn
  exact h.unknown row hrow

theorem hasNote_arriveAll :
    (g.arriveAll rows).hasNote m = true ↔ m ∈ rows.map NoteRow.id ∨ g.hasNote m = true := by
  induction rows generalizing g with
  | nil => simp [arriveAll]
  | cons row rows ih =>
    have hstep : g.arriveAll (row :: rows) = (g.arrive row).arriveAll rows := rfl
    rw [hstep, ih, hasNote_arrive, Bool.or_eq_true, decide_eq_true_eq, List.map_cons,
      List.mem_cons, or_left_comm, or_assoc]

/-- Branches stay as they are stored when notes arrive. -/
theorem branches_arriveAll : (g.arriveAll rows).branches = g.branches :=
  view_foldl Graph.branches (fun _ _ => branches_arrive) rows g

/-- So do attributes. -/
theorem attributes_arriveAll : (g.arriveAll rows).attributes = g.attributes :=
  view_foldl Graph.attributes (fun _ _ => attributes_arrive) rows g

/-- **New notes are joined to the notes that a stored branch can join them to**, when all of them
are there. -/
theorem PlacesKnown.mem_parents_arriveAll (hknown : g.PlacesKnown) (hnew : g.AllNew rows) :
    p ∈ (g.arriveAll rows).parents c ↔ p ∈ g.parents c ∨
      (c ∈ rows.map NoteRow.id ∨ p ∈ rows.map NoteRow.id) ∧ (g.arriveAll rows).CanJoin c p := by
  induction rows generalizing g with
  | nil => simp [arriveAll]
  | cons row rows ih =>
    have hstep : g.arriveAll (row :: rows) = (g.arrive row).arriveAll rows := rfl
    obtain ⟨hn, hrest⟩ := hnew.of_cons
    -- a branch that could join its notes when the first note has come still could in the end
    have hcan : (g.arrive row).CanJoin c p ↔ ((g.arrive row).arriveAll rows).CanJoin c p ∧
        (g.arrive row).hasNote c = true ∧ (g.arrive row).hasNote p = true := by
      simp only [CanJoin, HasBranch, branches_arriveAll, hasNote_arriveAll]
      constructor
      · rintro ⟨hroot, hc, hp, hb⟩
        exact ⟨⟨hroot, Or.inr hc, Or.inr hp, hb⟩, hc, hp⟩
      · rintro ⟨⟨hroot, -, -, hb⟩, hc, hp⟩
        exact ⟨hroot, hc, hp, hb⟩
    have hnote : ∀ m, ((g.arrive row).arriveAll rows).hasNote m = true ↔
        m ∈ rows.map NoteRow.id ∨ (g.arrive row).hasNote m = true := fun _ => hasNote_arriveAll
    rw [hstep, ih hknown.arrive hrest, hknown.mem_parents_arrive hn, hcan, List.map_cons,
      List.mem_cons, List.mem_cons, or_assoc]
    refine or_congr_right ⟨?_, ?_⟩
    · rintro (⟨hat, hjoin, -⟩ | ⟨hat, hjoin⟩)
      · exact ⟨hat.imp Or.inl Or.inl, hjoin⟩
      · exact ⟨hat.imp Or.inr Or.inr, hjoin⟩
    · rintro ⟨hat, hjoin⟩
      by_cases hlater : c ∈ rows.map NoteRow.id ∨ p ∈ rows.map NoteRow.id
      · exact Or.inr ⟨hlater, hjoin⟩
      · obtain ⟨hc, hp⟩ := not_or.1 hlater
        exact Or.inl ⟨hat.imp (·.resolve_right hc) (·.resolve_right hp), hjoin,
          ((hnote c).1 hjoin.2.1).resolve_left hc, ((hnote p).1 hjoin.2.2.1).resolve_left hp⟩

end Graph

/-! ## Both ways -/

namespace Vault

variable {v : Vault} {rows : List NoteRow} {m : NoteId}

theorem graph_foldl_upsertNote (hnew : v.graph.AllNew rows) :
    (rows.foldl upsertNote v).graph = v.graph.arriveAll rows := by
  induction rows generalizing v with
  | nil => rfl
  | cons row rows ih =>
    obtain ⟨hn, hrest⟩ := hnew.of_cons
    obtain ⟨memo, -, heq⟩ := upsertNote_of_new hn
    rw [List.foldl_cons, ih (by rwa [heq]), heq]
    rfl

/-- Notes may come one by one to a reachable vault. -/
theorem Reachable.foldl_upsertNote (rows : List NoteRow) (h : v.Reachable) :
    (rows.foldl upsertNote v).Reachable :=
  List.foldlRecOn rows upsertNote h fun _ h row _ => h.apply (.upsertNote row)

/-- **Notes that are loaded alone are joined to nothing**, and nothing else changes at the notes
that are there. -/
theorem linkedAlike_load_ofNotes (hnew : v.graph.AllNew rows) :
    (v.load (.ofNotes rows)).graph.LinkedAlike v.graph := by
  have hput : v.placedBy (.ofNotes rows) = v.graph.putNotes rows := rfl
  have hedges : ∀ n, (v.placedBy (.ofNotes rows)).edges n = v.graph.edges n := by
    intro n
    rw [hput, Graph.edges_putNotes]
    split_ifs with hn
    · rw [Graph.edges_of_unknown (hnew.not_hasNote hn)]
    · rfl
  constructor
  · intro n p
    rw [(parents_load_perm v _ n).mem_iff, Graph.parents, hedges, Graph.parents]
  · intro n c
    rw [(children_load_perm v _ n).mem_iff, Graph.children, hedges, Graph.children]
  · intro n id
    rw [load_of (Graph.parentBranches · n) (fun _ => rfl) (by simp) (by simp) (by simp),
      Graph.parentBranches, hedges, Graph.parentBranches]
  · intro n id
    rw [load_of_growsBy (Graph.growsBy_incoming n), Graph.incoming, hedges, Graph.incoming]
    simp [Snapshot.ofNotes, Snapshot.readAttributes]

/-- A relation is noted on its target exactly if this exists. -/
theorem Reachable.mem_incoming_iff (h : v.Reachable) {id : AttributeId} :
    id ∈ v.graph.incoming m ↔ v.graph.hasNote m = true ∧
      ∃ a, v.graph.attributes.get? id = some a ∧ a.target? = some m := by
  have hfiled : v.graph.Filed := (h.tended fun _ hs => hs.attributes).filed
  constructor
  · intro hid
    have hm := Graph.hasNote_of_mem_incoming hid
    exact ⟨hm, ((hfiled.incoming m hm).mem_iff id).1 hid⟩
  · rintro ⟨hm, ha⟩
    exact ((hfiled.incoming m hm).mem_iff id).2 ha

section OneByOne

variable (hnew : v.graph.AllNew rows)
include hnew

/-- Afterwards there are those notes and the ones that were there. -/
theorem hasNote_foldl_upsertNote : (rows.foldl upsertNote v).graph.hasNote m = true ↔
    m ∈ rows.map NoteRow.id ∨ v.graph.hasNote m = true := by
  rw [graph_foldl_upsertNote hnew, Graph.hasNote_arriveAll]

theorem branches_foldl_upsertNote :
    (rows.foldl upsertNote v).graph.branches = v.graph.branches := by
  rw [graph_foldl_upsertNote hnew, Graph.branches_arriveAll]

theorem attributes_foldl_upsertNote :
    (rows.foldl upsertNote v).graph.attributes = v.graph.attributes := by
  rw [graph_foldl_upsertNote hnew, Graph.attributes_arriveAll]

/-- A parent is one that was there, or one that a stored branch could join because of the new
notes. -/
theorem Reachable.mem_parents_foldl_upsertNote (hv : v.Reachable) {c p : NoteId} :
    p ∈ (rows.foldl upsertNote v).graph.parents c ↔ p ∈ v.graph.parents c ∨
      (c ∈ rows.map NoteRow.id ∨ p ∈ rows.map NoteRow.id) ∧
        (rows.foldl upsertNote v).graph.CanJoin c p := by
  rw [graph_foldl_upsertNote hnew, hv.placesKnown.mem_parents_arriveAll hnew]

/-- Whatever waits for one of the notes is linked when this comes. -/
theorem Reachable.not_linkedAlike_of_awaits (hv : v.Reachable)
    (hawaits : v.graph.Awaits (rows.map NoteRow.id)) :
    ¬v.graph.LinkedAlike (rows.foldl upsertNote v).graph := by
  intro h
  have hend := (hv.foldl_upsertNote rows).consistent
  have hbranches := branches_foldl_upsertNote hnew
  have hcome : ∀ n ∈ rows.map NoteRow.id, (rows.foldl upsertNote v).graph.hasNote n = true :=
    fun _ hn => (hasNote_foldl_upsertNote hnew).2 (Or.inl hn)
  rcases hawaits with ⟨b, hb, hchild⟩ | ⟨b, hb, hparent, hroot, hchild⟩ | ⟨a, ha, n, hn, htarget⟩
  · obtain ⟨id, hid⟩ := Table.mem_values_iff.1 hb
    have hnoted := (h.parentBranches _ _).2 (hend.noted (hbranches ▸ hid) (hcome _ hchild))
    exact hnew.not_hasNote hchild (Graph.hasNote_of_mem_parentBranches hnoted)
  · have hjoin : (rows.foldl upsertNote v).graph.CanJoin b.child b.parent :=
      ⟨hroot, (hasNote_foldl_upsertNote hnew).2 (Or.inr hchild), hcome _ hparent, b,
        hbranches ▸ hb, rfl, rfl⟩
    have hjoined := (hv.mem_parents_foldl_upsertNote hnew).2 (Or.inr ⟨Or.inr hparent, hjoin⟩)
    exact hnew.not_hasNote hparent (hv.consistent.parent_known ((h.parents _ _).2 hjoined))
  · obtain ⟨id, hid⟩ := Table.mem_values_iff.1 ha
    have hid' := (attributes_foldl_upsertNote hnew).symm ▸ hid
    have hpointed := (h.incoming _ _).2 (hend.pointed hid' htarget (hcome n hn))
    exact hnew.not_hasNote hn (Graph.hasNote_of_mem_incoming hpointed)

/-- Where nothing waits for the notes, they are linked to nothing when they come. -/
theorem Reachable.linkedAlike_of_not_awaits (hv : v.Reachable)
    (hnone : ¬v.graph.Awaits (rows.map NoteRow.id)) :
    v.graph.LinkedAlike (rows.foldl upsertNote v).graph := by
  have hend := hv.foldl_upsertNote rows
  have hparents : ∀ c p, p ∈ v.graph.parents c ↔
      p ∈ (rows.foldl upsertNote v).graph.parents c := by
    intro c p
    refine (or_iff_left ?_).symm.trans (hv.mem_parents_foldl_upsertNote hnew).symm
    rintro ⟨hat, hroot, hc, -, b, hb, rfl, rfl⟩
    rw [branches_foldl_upsertNote hnew] at hb
    by_cases hchild : b.child ∈ rows.map NoteRow.id
    · exact hnone (Or.inl ⟨b, hb, hchild⟩)
    · exact hnone (Or.inr (Or.inl ⟨b, hb, hat.resolve_left hchild, hroot,
        ((hasNote_foldl_upsertNote hnew).1 hc).resolve_left hchild⟩))
  constructor
  · exact fun n p => hparents n p
  · intro n c
    rw [hv.consistent.mirror, hend.consistent.mirror]
    exact hparents c n
  · intro n id
    rw [hv.consistent.mem_parentBranches_iff, hend.consistent.mem_parentBranches_iff,
      hasNote_foldl_upsertNote hnew, branches_foldl_upsertNote hnew]
    refine and_congr_left fun ⟨b, hb, hchild⟩ => (or_iff_right fun hn => hnone (Or.inl ?_)).symm
    exact ⟨b, Table.mem_values_iff.2 ⟨id, hb⟩, hchild ▸ hn⟩
  · intro n id
    rw [hv.mem_incoming_iff, hend.mem_incoming_iff, hasNote_foldl_upsertNote hnew,
      attributes_foldl_upsertNote hnew]
    refine and_congr_left fun ⟨a, ha, htarget⟩ =>
      (or_iff_right fun hn => hnone (Or.inr (Or.inr ?_))).symm
    exact ⟨a, Table.mem_values_iff.2 ⟨id, ha⟩, n, hn, htarget⟩

end OneByOne

/-- **Notes that are loaded together are linked like notes that come one by one, exactly if nothing
waits for them.** What waits is linked only if they come one by one. -/
theorem linkedAlike_load_iff (hv : v.Reachable) (hnew : v.graph.AllNew rows) :
    (v.load (.ofNotes rows)).graph.LinkedAlike (rows.foldl upsertNote v).graph ↔
      ¬v.graph.Awaits (rows.map NoteRow.id) := by
  have hload := linkedAlike_load_ofNotes hnew
  constructor
  · exact fun h hawaits => hv.not_linkedAlike_of_awaits hnew hawaits (hload.symm.trans h)
  · exact fun hnone => hload.trans (hv.linkedAlike_of_not_awaits hnew hnone)

/-- A branch waits for its child. -/
def waitingVault : Vault :=
  [Update.upsertNote { id := "p", title := "p" },
    .upsertBranch { id := "b", child := "c", parent := "p" }].foldl apply .empty

/-- Nothing waits for other notes. -/
theorem linkedAlike_load_waitingVault : waitingVault.Reachable ∧
    waitingVault.graph.AllNew [{ id := "d", title := "d" }, { id := "e", title := "e" }] ∧
    (waitingVault.load
      (.ofNotes [{ id := "d", title := "d" }, { id := "e", title := "e" }])).graph.LinkedAlike
        ([{ id := "d", title := "d" }, { id := "e", title := "e" }].foldl upsertNote
          waitingVault).graph :=
  have hv : waitingVault.Reachable := .foldl_apply _ .empty
  have hnew : waitingVault.graph.AllNew
      [{ id := "d", title := "d" }, { id := "e", title := "e" }] := ⟨by decide, by decide +kernel⟩
  ⟨hv, hnew, (linkedAlike_load_iff hv hnew).2 (by decide +kernel)⟩

/-- If the child is loaded, it is not placed, although its branch is stored. -/
theorem not_linkedAlike_waitingVault : waitingVault.Reachable ∧
    waitingVault.graph.AllNew [{ id := "c", title := "c" }] ∧
    (waitingVault.load (.ofNotes [{ id := "c", title := "c" }])).graph.parents "c" = [] ∧
    (waitingVault.load (.ofNotes [{ id := "c", title := "c" }])).graph.parentBranches "c" = [] ∧
    (waitingVault.upsertNote { id := "c", title := "c" }).graph.parents "c" = ["p"] ∧
    (waitingVault.upsertNote { id := "c", title := "c" }).graph.parentBranches "c" = ["b"] ∧
    ¬(waitingVault.load (.ofNotes [{ id := "c", title := "c" }])).graph.LinkedAlike
      ([{ id := "c", title := "c" }].foldl upsertNote waitingVault).graph := by
  have hloaded : (waitingVault.load (.ofNotes [{ id := "c", title := "c" }])).graph.parents "c" =
      [] := by decide +kernel
  have hcome : (waitingVault.upsertNote { id := "c", title := "c" }).graph.parents "c" = ["p"] := by
    decide +kernel
  refine ⟨.foldl_apply _ .empty, ⟨by decide, by decide +kernel⟩, hloaded, by decide +kernel, hcome,
    by decide +kernel, fun h => ?_⟩
  have hp := (h.parents "c" "p").2 (hcome ▸ List.mem_cons_self)
  rw [hloaded] at hp
  cases hp

end Vault

end Zettel
