import Zettel.Proofs.Vault.Loading

/-!
# Loading a snapshot twice

A load leaves the placements of the branches and the index of the attributes as they were, and gives
every note of the snapshot new edges. So what a second load of the same snapshot finds placed
already it does not join, and what is in the index already it lists again.

Main statement: `loadTwice`, what every view of the graph says after the second load: no note has
parents or children any more, every attribute is found twice, and the rest is as before. So the
second load changes nothing exactly if the snapshot joins no notes and puts no attribute on a note.
-/

namespace Zettel

open Vault

/-- Both graphs have the same edges at every note, and the same look-ups find the same. -/
structure Graph.ReadsAs (g' g : Graph) : Prop where
  parents : ∀ n, g'.parents n = g.parents n
  children : ∀ n, g'.children n = g.children n
  parentBranches : ∀ n, g'.parentBranches n = g.parentBranches n
  owned : ∀ n, g'.owned n = g.owned n
  incoming : ∀ n, g'.incoming n = g.incoming n
  found : ∀ kind name, g'.findAttributes kind name = g.findAttributes kind name
  between : ∀ c p, g'.branchBetween? c p = g.branchBetween? c p

/-- No branch of the snapshot joins two of its notes, and no attribute stands on one. -/
structure Snapshot.LinksNothing (s : Snapshot) : Prop where
  branches : ∀ b ∈ s.liveBranches, b.child ≠ rootId → b.child ∈ s.noteIds → b.parent ∉ s.noteIds
  attributes : ∀ a ∈ s.readAttributes, a.owner ∉ s.noteIds

namespace Vault

variable {s : Snapshot} {b : Branch} {n : NoteId}

/-! ## Twice -/

theorem hasNote_loadTwice :
    ((ofSnapshot s).load s).graph.hasNote n = (ofSnapshot s).graph.hasNote n := by
  rw [Bool.eq_iff_iff, hasNote_load, Bool.or_eq_true, decide_eq_true_iff, hasNote_ofSnapshot,
    or_self]

/-- The branches of the snapshot find their places taken. -/
theorem not_joins_loadTwice (hs : s.HasDistinctIds) (hb : b ∈ s.liveBranches) :
    ¬((ofSnapshot s).graph.putNotes s.notes).Joins b := by
  have hnote : ∀ n, ((ofSnapshot s).graph.putNotes s.notes).hasNote n = true ↔ n ∈ s.noteIds := by
    intro n
    rw [Graph.hasNote_putNotes, Bool.or_eq_true, decide_eq_true_iff, hasNote_ofSnapshot]
    exact or_self_iff
  have hplacements : ((ofSnapshot s).graph.putNotes s.notes).placements =
      (ofSnapshot s).graph.placements := Graph.putNotes_of Graph.placements (fun _ _ => rfl) _ _
  rintro ⟨hroot, hchild, hparent, hfree⟩
  rw [hnote] at hchild hparent
  have hjoined := mem_parents_ofSnapshot hb hroot hchild hparent
  have htaken := (Reachable.ofSnapshot hs).consistent.parent_placed hjoined
  rw [hplacements, htaken] at hfree
  exact absurd hfree (by decide)

/-- A note of the snapshot has new edges, and an unknown note has none. -/
theorem separate_loadTwice (hs : s.HasDistinctIds) (n : NoteId) :
    ((ofSnapshot s).load s).graph.parents n = [] ∧
      ((ofSnapshot s).load s).graph.children n = [] := by
  by_cases hn : n ∈ s.noteIds
  · have hbare := edges_putNotes_of_mem (g := (ofSnapshot s).graph) hn
    obtain ⟨hparents, hchildren⟩ := (Graph.addBranches_of_not_joins
      fun b hb => not_joins_loadTwice hs hb).1 n
    constructor
    · refine List.Perm.eq_nil ((parents_load_perm _ s n).trans ?_)
      rw [placedBy, hparents, Graph.parents, hbare]
    · refine List.Perm.eq_nil ((children_load_perm _ s n).trans ?_)
      rw [placedBy, hchildren, Graph.children, hbare]
  · have hunknown : ¬((ofSnapshot s).load s).graph.hasNote n = true := by
      rwa [hasNote_loadTwice, hasNote_ofSnapshot]
    have hnone := Graph.edges_of_unknown hunknown
    exact ⟨congrArg Edges.parents hnone, congrArg Edges.children hnone⟩

/-- An id that the snapshot has no note for has no edges, before and after. -/
theorem edges_loadTwice_of_not_mem (hn : n ∉ s.noteIds) :
    ((ofSnapshot s).load s).graph.edges n = (ofSnapshot s).graph.edges n := by
  have hunknown : ¬(ofSnapshot s).graph.hasNote n = true := fun hnote =>
    hn (hasNote_ofSnapshot.1 hnote)
  rw [Graph.edges_of_unknown hunknown, Graph.edges_of_unknown (by rwa [hasNote_loadTwice])]

/-- The branches to a note are noted again, so they are as before. -/
theorem parentBranches_loadTwice (hs : s.HasDistinctIds) (n : NoteId) :
    ((ofSnapshot s).load s).graph.parentBranches n = (ofSnapshot s).graph.parentBranches n := by
  by_cases hn : n ∈ s.noteIds
  · rw [parentBranches_load hs hn, ofSnapshot, parentBranches_load hs hn]
  · exact congrArg Edges.parentBranches (edges_loadTwice_of_not_mem hn)

/-- The attributes of a note are as before. -/
theorem owned_loadTwice (n : NoteId) :
    ((ofSnapshot s).load s).graph.owned n = (ofSnapshot s).graph.owned n := by
  by_cases hn : n ∈ s.noteIds
  · rw [owned_load hn, ofSnapshot, owned_load hn]
  · exact congrArg Edges.owned (edges_loadTwice_of_not_mem hn)

/-- So are the relations to it. -/
theorem incoming_loadTwice (n : NoteId) :
    ((ofSnapshot s).load s).graph.incoming n = (ofSnapshot s).graph.incoming n := by
  by_cases hn : n ∈ s.noteIds
  · simp only [incoming_load hn, hasNote_loadTwice]
    rw [ofSnapshot, incoming_load hn]
  · exact congrArg Edges.incoming (edges_loadTwice_of_not_mem hn)

theorem branchBetween?_loadTwice (hs : s.HasDistinctIds) (c p : NoteId) :
    ((ofSnapshot s).load s).graph.branchBetween? c p =
      (ofSnapshot s).graph.branchBetween? c p := by
  have hplacements : ((ofSnapshot s).load s).graph.placements =
      (ofSnapshot s).graph.placements := by
    rw [placements_load, placedBy,
      (Graph.addBranches_of_not_joins fun b hb => not_joins_loadTwice hs hb).2]
    exact Graph.putNotes_of Graph.placements (fun _ _ => rfl) _ _
  have hbranches : ∀ id, ((ofSnapshot s).load s).graph.branches.get? id =
      (ofSnapshot s).graph.branches.get? id := by
    intro id
    rw [branches_load, placedBy]
    by_cases hid : id ∈ s.liveBranches.map Branch.id
    · obtain ⟨b, hb, rfl⟩ := List.mem_map.1 hid
      rw [Graph.get?_branches_addBranches hs.nodup_liveBranches hb, ofSnapshot, branches_load,
        placedBy, Graph.get?_branches_addBranches hs.nodup_liveBranches hb]
    · rw [Graph.get?_branches_addBranches_of_not_mem hid]
      exact congrArg (·.get? id) (Graph.putNotes_of Graph.branches (fun _ _ => rfl) _ _)
  rw [Graph.branchBetween?, hplacements, Graph.branchBetween?]
  cases (ofSnapshot s).graph.placements.get? (c, p) with
  | none => rfl
  | some id => exact hbranches id

theorem findAttributes_loadTwice (kind : AttributeKind) (name : String) :
    ((ofSnapshot s).load s).graph.findAttributes kind name =
      (ofSnapshot s).graph.findAttributes kind name ++
        (ofSnapshot s).graph.findAttributes kind name := by
  have hlisted : ∀ key, ((ofSnapshot s).load s).graph.listed key =
      (ofSnapshot s).graph.listed key ++ (ofSnapshot s).graph.listed key := by
    intro key
    have hnote : ∀ m, ((ofSnapshot s).load s).graph.hasNote m = decide (m ∈ s.noteIds) := by
      intro m
      rw [Bool.eq_iff_iff, decide_eq_true_iff, hasNote_loadTwice, hasNote_ofSnapshot]
    rw [listed_load]
    simp only [hnote]
    rw [← listed_ofSnapshot]
  exact hlisted (kind, Text.lowercase name)

/-! ## What is lost -/

/-- A snapshot without links is read without parents. -/
theorem parents_ofSnapshot_of_linksNothing (hs : s.HasDistinctIds) (h : s.LinksNothing)
    (n : NoteId) : (ofSnapshot s).graph.parents n = [] := by
  have hlinked := (Reachable.ofSnapshot hs).consistent.toLinked
  rw [List.eq_nil_iff_forall_not_mem]
  intro p hp
  obtain ⟨id, b, hb, rfl, rfl⟩ := hlinked.placement_stored hp
  have hchild : (ofSnapshot s).graph.hasNote b.child = true := by
    by_contra hunknown
    rw [Graph.parents, Graph.edges_of_unknown hunknown] at hp
    exact absurd hp (by simp)
  exact h.branches b (branches_ofSnapshot hb) (hlinked.child_ne_root hp)
    (hasNote_ofSnapshot.1 hchild) (hasNote_ofSnapshot.1 (hlinked.parent_known hp))

/-- Where no attribute has a known owner, none is found. -/
theorem findAttributes_ofSnapshot_of_linksNothing (h : s.LinksNothing) (kind : AttributeKind)
    (name : String) : (ofSnapshot s).graph.findAttributes kind name = [] := by
  have hlisted : (ofSnapshot s).graph.listed (kind, Text.lowercase name) = [] := by
    rw [listed_ofSnapshot, List.map_eq_nil_iff, List.filter_eq_nil_iff]
    intro a ha
    simp [h.attributes a ha]
  exact hlisted

/-- Where the second load changes nothing, there was nothing to lose and nothing to list. -/
theorem linksNothing_of_readsAs
    (h : ((ofSnapshot s).load s).graph.ReadsAs (ofSnapshot s).graph) (hs : s.HasDistinctIds) :
    s.LinksNothing where
  branches b hb hroot hchild hparent := by
    have hjoined := mem_parents_ofSnapshot hb hroot hchild hparent
    rw [← h.parents, (separate_loadTwice hs b.child).1] at hjoined
    exact absurd hjoined (by simp)
  attributes a ha howner := by
    obtain ⟨row, -, rfl⟩ := List.mem_map.1 ha
    have htwice := findAttributes_loadTwice (s := s) row.kind row.name
    rw [h.found, List.self_eq_append_right] at htwice
    have hfound : (Attribute.ofRow row).id ∈ (ofSnapshot s).graph.listed
        (row.kind, Text.lowercase row.name) := by
      rw [listed_ofSnapshot]
      refine List.mem_map_of_mem (List.mem_filter.2 ⟨ha, ?_⟩)
      rw [Bool.and_eq_true, decide_eq_true_iff, decide_eq_true_iff]
      exact ⟨howner, rfl⟩
    exact List.eq_nil_iff_forall_not_mem.1 htwice _ hfound

/-- **A second load of a snapshot separates all notes and lists every attribute twice.** It keeps
which branches place a note, which attributes stand on it and point at it, and which branch is found
between two notes. So it changes nothing, exactly if the snapshot joins no notes and puts no
attribute on a note. -/
theorem loadTwice (hs : s.HasDistinctIds) :
    let once := (ofSnapshot s).graph
    let twice := ((ofSnapshot s).load s).graph
    (∀ n, twice.parents n = [] ∧ twice.children n = [] ∧
      twice.parentBranches n = once.parentBranches n ∧ twice.owned n = once.owned n ∧
      twice.incoming n = once.incoming n) ∧
    (∀ kind name, twice.findAttributes kind name =
      once.findAttributes kind name ++ once.findAttributes kind name) ∧
    (∀ c p, twice.branchBetween? c p = once.branchBetween? c p) ∧
    (twice.ReadsAs once ↔ s.LinksNothing) := by
  intro once twice
  refine ⟨fun n => ?_, findAttributes_loadTwice, branchBetween?_loadTwice hs,
    fun h => linksNothing_of_readsAs h hs, fun h => ?_⟩
  · obtain ⟨hparents, hchildren⟩ := separate_loadTwice hs n
    exact ⟨hparents, hchildren, parentBranches_loadTwice hs n, owned_loadTwice n,
      incoming_loadTwice n⟩
  · have hparents := parents_ofSnapshot_of_linksNothing hs h
    have hchildren : ∀ n, once.children n = [] := by
      intro n
      rw [List.eq_nil_iff_forall_not_mem]
      intro c hc
      rw [(Reachable.ofSnapshot hs).consistent.mirror, hparents] at hc
      exact absurd hc (by simp)
    constructor
    · exact fun n => (separate_loadTwice hs n).1.trans (hparents n).symm
    · exact fun n => (separate_loadTwice hs n).2.trans (hchildren n).symm
    · exact parentBranches_loadTwice hs
    · exact owned_loadTwice
    · exact incoming_loadTwice
    · intro kind name
      rw [findAttributes_loadTwice, findAttributes_ofSnapshot_of_linksNothing h, List.nil_append]
    · exact branchBetween?_loadTwice hs

/-- A note with a label below another note. -/
def pairSnapshot : Snapshot where
  notes := [{ id := "p", title := "p" }, { id := "c", title := "c" }]
  branches := [{ id := "b", child := "c", parent := "p" }]
  attributes := [{ id := "a", owner := "c", kind := .label, name := "x", value := "" }]

theorem loadTwice_pairSnapshot : pairSnapshot.HasDistinctIds ∧
    ((ofSnapshot pairSnapshot).load pairSnapshot).graph.parents "c" = [] ∧
    (ofSnapshot pairSnapshot).graph.parents "c" = ["p"] := by
  have hs : pairSnapshot.HasDistinctIds := ⟨by decide, by decide, by decide⟩
  exact ⟨hs, ((loadTwice hs).1 "c").1, by decide +kernel⟩

/-- The second load takes the note out from below its parent and lists its label twice. -/
theorem not_readsAs_pairSnapshot : pairSnapshot.HasDistinctIds ∧
    ¬((ofSnapshot pairSnapshot).load pairSnapshot).graph.ReadsAs (ofSnapshot pairSnapshot).graph ∧
    ((ofSnapshot pairSnapshot).load pairSnapshot).graph.parents "c" ≠
      (ofSnapshot pairSnapshot).graph.parents "c" ∧
    ((ofSnapshot pairSnapshot).load pairSnapshot).graph.findAttributes .label "x" ≠
      (ofSnapshot pairSnapshot).graph.findAttributes .label "x" := by
  have hparents : ((ofSnapshot pairSnapshot).load pairSnapshot).graph.parents "c" ≠
      (ofSnapshot pairSnapshot).graph.parents "c" := by decide +kernel
  exact ⟨⟨by decide, by decide, by decide⟩, fun h => hparents (h.parents "c"), hparents,
    by decide +kernel⟩

end Vault

end Zettel
