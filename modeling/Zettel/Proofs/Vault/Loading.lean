import Zettel.Proofs.Vault.Placement

/-!
# Loading on top of what is there

A snapshot is loaded row by row. A note row takes the place of the note with its edges, while what
was stored and indexed before stays. So a branch whose place is taken joins nothing, even if its
notes have lost their edges, and an attribute is listed once more under its name.

Main statements: what a note of the snapshot reads after the load (`parentBranches_load`,
`owned_load`, `incoming_load`, and up to their order `parents_load_perm` and `children_load_perm`),
and what is listed under a name (`listed_load`).
-/

namespace Zettel.Graph

variable {g : Graph} {b : Branch} {a : Attribute} {bs : List Branch} {as : List Attribute}
  {n m : NoteId}

/-! ## Note rows -/

/-- Puts notes without edges into the graph. -/
def putNotes (g : Graph) (rows : List NoteRow) : Graph := rows.foldl Vault.putNote g

section PutNotes

variable {rows : List NoteRow}

theorem hasNote_putNotes : (g.putNotes rows).hasNote m =
    (decide (m ∈ rows.map NoteRow.id) || g.hasNote m) := by
  induction rows generalizing g with
  | nil => simp [putNotes]
  | cons row rows ih =>
    have hstep : g.putNotes (row :: rows) = (Vault.putNote g row).putNotes rows := rfl
    rw [hstep, ih, hasNote_putNote]
    by_cases hm : m = row.id <;> simp [hm]

theorem edges_putNotes : (g.putNotes rows).edges m =
    if m ∈ rows.map NoteRow.id then {} else g.edges m := by
  induction rows generalizing g with
  | nil => simp [putNotes]
  | cons row rows ih =>
    have hstep : g.putNotes (row :: rows) = (Vault.putNote g row).putNotes rows := rfl
    rw [hstep, ih, edges_putNote, List.map_cons]
    by_cases hm : m = row.id <;> simp [hm]

/-- The tables other than that of the notes stay. -/
theorem putNotes_of {β : Type} (view : Graph → β) (h : ∀ g row, view (Vault.putNote g row) = view g)
    (g : Graph) (rows : List NoteRow) : view (g.putNotes rows) = view g :=
  view_foldl view h rows g

end PutNotes

/-! ## Branches -/

/-- Puts branches into their table and joins their notes. -/
def addBranches (g : Graph) (bs : List Branch) : Graph := bs.foldl Graph.addBranch g

/-- What no single branch changes, a list of them does not change. -/
theorem addBranches_of {β : Type} (view : Graph → β) (h : ∀ g b, view (addBranch g b) = view g)
    (g : Graph) (bs : List Branch) : view (g.addBranches bs) = view g :=
  view_foldl view h bs g

@[simp]
theorem hasNote_addBranches : (g.addBranches bs).hasNote m = g.hasNote m :=
  addBranches_of (hasNote · m) (fun _ _ => by simp) g bs

@[simp]
theorem owned_addBranches : (g.addBranches bs).owned m = g.owned m :=
  addBranches_of (owned · m) (fun _ _ => by simp) g bs

@[simp]
theorem incoming_addBranches : (g.addBranches bs).incoming m = g.incoming m :=
  addBranches_of (incoming · m) (fun _ _ => by simp) g bs

/-- Branches with other ids stay stored. -/
theorem get?_branches_addBranches_of_not_mem {id : BranchId} (h : id ∉ bs.map Branch.id) :
    (g.addBranches bs).branches.get? id = g.branches.get? id := by
  induction bs generalizing g with
  | nil => rfl
  | cons b bs ih =>
    rw [List.map_cons, List.mem_cons, not_or] at h
    have hstep : g.addBranches (b :: bs) = (g.addBranch b).addBranches bs := rfl
    rw [hstep, ih h.2, branches_addBranch, Table.get?_insert, if_neg h.1]

/-- All of the branches are stored. -/
theorem get?_branches_addBranches (hnodup : (bs.map Branch.id).Nodup) (hb : b ∈ bs) :
    (g.addBranches bs).branches.get? b.id = some b := by
  induction bs generalizing g with
  | nil => exact absurd hb (by simp)
  | cons b' bs ih =>
    rw [List.map_cons, List.nodup_cons] at hnodup
    have hstep : g.addBranches (b' :: bs) = (g.addBranch b').addBranches bs := rfl
    rw [hstep]
    rcases List.mem_cons.1 hb with rfl | hb
    · rw [get?_branches_addBranches_of_not_mem hnodup.1, branches_addBranch,
        Table.get?_insert_self]
    · exact ih hnodup.2 hb

/-- Every branch is noted on its child, if that exists. -/
theorem parentBranches_addBranches (hnodup : (bs.map Branch.id).Nodup)
    (hnew : ∀ b ∈ bs, b.id ∉ g.parentBranches m) :
    (g.addBranches bs).parentBranches m = g.parentBranches m ++
      (bs.filter fun b => b.child = m && g.hasNote m).map Branch.id := by
  induction bs generalizing g with
  | nil => simp [addBranches]
  | cons b bs ih =>
    rw [List.map_cons, List.nodup_cons] at hnodup
    rw [List.forall_mem_cons] at hnew
    have hstep : g.addBranches (b :: bs) = (g.addBranch b).addBranches bs := rfl
    have hone : (g.addBranch b).parentBranches m = g.parentBranches m ++
        ([b].filter fun b => b.child = m && g.hasNote m).map Branch.id := by
      rw [addBranch_eq, parentBranches_linkBranch, parentBranches_setBranches, hasNote_setBranches]
      by_cases hm : m = b.child ∧ g.hasNote m = true
      · rw [if_pos ⟨hm, hnew.1⟩]
        simp [← hm.1, hm.2]
      · rw [if_neg fun h => hm h.1]
        simp only [not_and, Bool.not_eq_true] at hm
        by_cases hc : b.child = m
        · simp [hm hc.symm]
        · simp [hc]
    rw [hstep, ih hnodup.2 ?_, hone, hasNote_addBranch, List.append_assoc, ← List.map_append,
      ← List.filter_append, List.singleton_append]
    intro b' hb'
    rw [hone, List.mem_append, not_or]
    refine ⟨hnew.2 b' hb', fun hmem => ?_⟩
    obtain ⟨b'', hb'', hid⟩ := List.mem_map.1 hmem
    obtain rfl := List.mem_singleton.1 (List.mem_of_mem_filter hb'')
    exact hnodup.1 (hid ▸ List.mem_map_of_mem hb')

/-- Every branch in the table was there before or is one of those put there. -/
theorem branches_addBranches {id : BranchId}
    (h : (g.addBranches bs).branches.get? id = some b) : g.branches.get? id = some b ∨ b ∈ bs := by
  induction bs generalizing g with
  | nil => exact Or.inl h
  | cons b' bs ih =>
    rcases ih (g := g.addBranch b') h with h | h
    · rw [branches_addBranch, Table.get?_insert] at h
      split_ifs at h with hid
      · obtain rfl := Option.some.inj h
        exact Or.inr List.mem_cons_self
      · exact Or.inl h
    · exact Or.inr (List.mem_cons_of_mem b' h)

theorem parents_subset_addBranches : g.parents m ⊆ (g.addBranches bs).parents m := by
  induction bs generalizing g with
  | nil => exact fun _ hp => hp
  | cons b bs ih =>
    intro p hp
    refine ih (g := g.addBranch b) ?_
    rw [addBranch_eq]
    exact mem_parents_linkBranch.2 (Or.inl hp)

/-- Where notes lie below each other as placements are looked up, this goes on, and every branch
that could join its notes does so. -/
theorem PlacesJoined.addBranches (h : g.PlacesJoined) (bs : List Branch) :
    (g.addBranches bs).PlacesJoined ∧
      ∀ b ∈ bs, g.Joinable b → b.parent ∈ (g.addBranches bs).parents b.child := by
  induction bs generalizing g with
  | nil => exact ⟨h, by simp⟩
  | cons b bs ih =>
    have hset : (g.setBranches (g.branches.insert b.id b)).PlacesJoined := h
    have hadd : (g.addBranch b).PlacesJoined := by
      rw [addBranch_eq]
      exact hset.linkBranch b
    have hjoinable : ∀ b', g.Joinable b' → (g.addBranch b).Joinable b' := by
      intro b' hb'
      simpa [Joinable] using hb'
    obtain ⟨hplaces, hjoined⟩ := ih hadd
    refine ⟨hplaces, fun b' hb' hj => ?_⟩
    rcases List.mem_cons.1 hb' with rfl | hb'
    · refine parents_subset_addBranches (g := g.addBranch b') ?_
      rw [addBranch_eq]
      exact hset.mem_parents_linkBranch hj
    · exact hjoined b' hb' (hjoinable b' hj)

/-- Branches of which none would join its notes join none of them. -/
theorem addBranches_of_not_joins (h : ∀ b ∈ bs, ¬g.Joins b) :
    (∀ m, (g.addBranches bs).parents m = g.parents m ∧
      (g.addBranches bs).children m = g.children m) ∧
      (g.addBranches bs).placements = g.placements := by
  induction bs generalizing g with
  | nil => exact ⟨fun _ => ⟨rfl, rfl⟩, rfl⟩
  | cons b bs ih =>
    rw [List.forall_mem_cons] at h
    have hb : ¬(g.setBranches (g.branches.insert b.id b)).Joins b := h.1
    have hplacements : (g.addBranch b).placements = g.placements := by
      rw [addBranch_eq, placements_linkBranch, if_neg hb, placements_setBranches]
    obtain ⟨hedges, hplaces⟩ := ih (g := g.addBranch b) fun b' hb' hj => h.2 b' hb' (by
      simpa [Joins, hplacements] using hj)
    refine ⟨fun m => ?_, hplaces.trans hplacements⟩
    obtain ⟨hparents, hchildren⟩ := hedges m
    refine ⟨hparents.trans ?_, hchildren.trans ?_⟩
    · rw [addBranch_eq, parents_linkBranch, if_neg fun hj => hb hj.1, parents_setBranches]
    · rw [addBranch_eq, children_linkBranch, if_neg fun hj => hb hj.1, children_setBranches]

/-! ## Attributes -/

/-- Puts those attributes on their owners whose owners exist. -/
def attachAll (g : Graph) (as : List Attribute) : Graph :=
  as.foldl (fun g a => if g.hasNote a.owner then g.attach a else g) g

@[simp]
theorem listed_addBranches {key : AttributeKind × String} :
    (g.addBranches bs).listed key = g.listed key := by
  refine addBranches_of (listed · key) (fun g b => ?_) g bs
  rw [listed, index_addBranch, listed]

/-- What no single attribute changes, a list of them does not change. -/
theorem attachAll_of {β : Type} (view : Graph → β) (h : ∀ g a, view (attach g a) = view g)
    (g : Graph) (as : List Attribute) : view (g.attachAll as) = view g := by
  refine view_foldl view (fun g a => ?_) as g
  split_ifs
  · exact h g a
  · rfl

/-- Attributes add to the list those that pass the test; nothing else that a load does after the
notes and branches changes it. -/
structure GrowsBy (view : Graph → List AttributeId) (adds : Graph → Attribute → Bool) : Prop where
  attach : ∀ (g : Graph) (a : Attribute), g.hasNote a.owner = true →
    view (g.attach a) = if adds g a then view g ++ [a.id] else view g
  congr : ∀ ⦃g g' : Graph⦄, (∀ n, g'.hasNote n = g.hasNote n) → ∀ a, adds g' a = adds g a
  sortChildren : ∀ (g : Graph) (n : NoteId), view (g.sortChildren n) = view g
  resortParents : ∀ (g : Graph) (n : NoteId), view (g.resortParents n) = view g
  loaded : ∀ g : Graph, view { g with isLoaded := true } = view g

/-- What each attribute adds to a list, all attributes of existing notes add together. -/
theorem GrowsBy.attachAll {view : Graph → List AttributeId} {adds : Graph → Attribute → Bool}
    (h : GrowsBy view adds) (g : Graph) (as : List Attribute) : view (g.attachAll as) = view g ++
      (as.filter fun a => g.hasNote a.owner && adds g a).map Attribute.id := by
  induction as generalizing g with
  | nil => simp [Graph.attachAll]
  | cons a as ih =>
    by_cases hn : g.hasNote a.owner = true
    · have hstep : g.attachAll (a :: as) = (g.attach a).attachAll as := by
        rw [Graph.attachAll, List.foldl_cons, if_pos hn, Graph.attachAll]
      have hnote : ∀ n, (g.attach a).hasNote n = g.hasNote n := fun _ => hasNote_attach
      simp only [hstep, ih, h.attach g a hn, hasNote_attach, h.congr hnote, List.filter_cons, hn,
        Bool.true_and]
      split_ifs <;> simp
    · have hstep : g.attachAll (a :: as) = g.attachAll as := by
        rw [Graph.attachAll, List.foldl_cons, if_neg hn, Graph.attachAll]
      rw [hstep, ih, List.filter_cons_of_neg (by simp [hn])]

/-- The list of an owner grows by its own attributes. -/
theorem growsBy_owned (m : NoteId) : GrowsBy (owned · m) fun _ a => decide (m = a.owner) where
  attach g a hn := by simp [owned_attach hn]
  congr _ _ _ _ := rfl
  sortChildren := by simp
  resortParents := by simp
  loaded _ := rfl

/-- The list of a target grows by the relations to it, if the target exists. -/
theorem growsBy_incoming (m : NoteId) :
    GrowsBy (incoming · m) fun g a => decide (a.target? = some m ∧ g.hasNote m = true) where
  attach g a _ := by simp [incoming_attach]
  congr _ _ h a := by rw [h]
  sortChildren := by simp
  resortParents := by simp
  loaded _ := rfl

/-- The list of a kind and name grows by the attributes of that kind and name. -/
theorem growsBy_listed (key : AttributeKind × String) :
    GrowsBy (listed · key) fun _ a => decide (key = (a.kind, a.name)) where
  attach g a _ := by simp [listed_attach]
  congr _ _ _ _ := rfl
  sortChildren _ _ := rfl
  resortParents _ _ := rfl
  loaded _ := rfl

/-! ## Order -/

/-- Puts the children of some notes in order. -/
def sortAll (g : Graph) (ns : List NoteId) : Graph := ns.foldl Graph.sortChildren g

/-- Puts the parents of some notes in order. -/
def resortAll (g : Graph) (ns : List NoteId) : Graph := ns.foldl Graph.resortParents g

/-- What sorting the children of one note does not change, sorting those of many does not. -/
theorem sortAll_of {β : Type} (view : Graph → β) (h : ∀ g n, view (sortChildren g n) = view g)
    (g : Graph) (ns : List NoteId) : view (g.sortAll ns) = view g :=
  view_foldl view h ns g

/-- What sorting the parents of notes below one does not change, sorting below many does not. -/
theorem resortAll_of {β : Type} (view : Graph → β) (h : ∀ g n, view (resortParents g n) = view g)
    (g : Graph) (ns : List NoteId) : view (g.resortAll ns) = view g :=
  view_foldl view h ns g

/-- Sorting the children of notes leaves the same children. -/
theorem children_sortAll_perm (g : Graph) (ns : List NoteId) (m : NoteId) :
    ((g.sortAll ns).children m).Perm (g.children m) :=
  List.foldlRecOn ns _ (motive := fun g' => (g'.children m).Perm (g.children m)) (.refl _)
    fun g' h n _ => (children_sortChildren_perm g' n m).trans h

/-- Sorting the parents of notes leaves the same parents. -/
theorem parents_resortAll_perm (g : Graph) (ns : List NoteId) (m : NoteId) :
    ((g.resortAll ns).parents m).Perm (g.parents m) :=
  List.foldlRecOn ns _ (motive := fun g' => (g'.parents m).Perm (g.parents m)) (.refl _)
    fun g' h n _ => (parents_resortParents_perm g' n m).trans h

end Zettel.Graph

namespace Zettel

/-! ## Snapshots -/

namespace Snapshot

/-- The ids of the notes. -/
def noteIds (s : Snapshot) : List NoteId := s.notes.map NoteRow.id

/-- The branches that are not deleted. -/
def liveBranches (s : Snapshot) : List Branch :=
  (s.branches.filter fun row => !row.isDeleted).map Branch.ofRow

/-- The notes that branches place others under. -/
def placingNotes (s : Snapshot) : List NoteId := addNew [] (s.liveBranches.map Branch.parent)

/-- The attributes; those of unknown notes are left out by a load. -/
def readAttributes (s : Snapshot) : List Attribute := s.attributes.map Attribute.ofRow

/-- Leaving out deleted branches leaves the ids distinct. -/
theorem HasDistinctIds.nodup_liveBranches {s : Snapshot} (hs : s.HasDistinctIds) :
    (s.liveBranches.map Branch.id).Nodup := by
  rw [liveBranches, List.map_map]
  exact hs.branches.sublist (List.filter_sublist.map _)

end Snapshot

namespace Vault

variable {v : Vault} {s : Snapshot} {b : Branch} {n m : NoteId}

/-- The graph after the notes and branches of a snapshot. -/
def placedBy (v : Vault) (s : Snapshot) : Graph :=
  (v.graph.putNotes s.notes).addBranches s.liveBranches

/-- A load puts attributes on their owners after notes and branches, and puts edges in order. In the
end it does so with the parents of every note. -/
theorem graph_load (v : Vault) (s : Snapshot) : ∃ ns,
    (∀ n, n ∈ ns ↔ (v.placedBy s).hasNote n = true) ∧ (v.load s).graph =
      { (((v.placedBy s).sortAll s.placingNotes).attachAll s.readAttributes).resortAll ns with
        isLoaded := true } := by
  have hrows : ∀ (rows : List AttributeRow) (g : Graph),
      rows.foldl (fun g row => (g.addAttribute? (Attribute.ofRow row)).getD g) g =
        g.attachAll (rows.map Attribute.ofRow) := by
    intro rows g
    rw [Graph.attachAll, List.foldl_map]
    refine List.foldl_ext _ _ _ fun g row _ => ?_
    rw [Graph.addAttribute?_eq]
    split_ifs <;> rfl
  refine ⟨(((v.placedBy s).sortAll s.placingNotes).attachAll s.readAttributes).notes.keys,
    fun n => ?_, ?_⟩
  · rw [← Table.contains_iff, ← Graph.hasNote, Graph.attachAll_of (Graph.hasNote · n) (by simp),
      Graph.sortAll_of (Graph.hasNote · n) (by simp)]
  · rw [load]
    simp only [hrows]
    rfl

/-- What neither order nor attributes bear on is settled by notes and branches. -/
theorem load_of {β : Type} (view : Graph → β)
    (hloaded : ∀ g, view { g with isLoaded := true } = view g)
    (hresort : ∀ g n, view (Graph.resortParents g n) = view g)
    (hattach : ∀ g a, view (Graph.attach g a) = view g)
    (hsort : ∀ g n, view (Graph.sortChildren g n) = view g) (v : Vault) (s : Snapshot) :
    view (v.load s).graph = view (v.placedBy s) := by
  obtain ⟨ns, -, heq⟩ := graph_load v s
  rw [heq, hloaded, Graph.resortAll_of view hresort, Graph.attachAll_of view hattach,
    Graph.sortAll_of view hsort]

theorem hasNote_placedBy :
    (v.placedBy s).hasNote m = (decide (m ∈ s.noteIds) || v.graph.hasNote m) := by
  rw [placedBy, Graph.hasNote_addBranches, Graph.hasNote_putNotes, Snapshot.noteIds]

/-- After a load there are the notes of the snapshot and those that were there. -/
theorem hasNote_load :
    (v.load s).graph.hasNote m = (decide (m ∈ s.noteIds) || v.graph.hasNote m) := by
  rw [load_of (Graph.hasNote · m) (fun _ => rfl) (by simp) (by simp) (by simp), hasNote_placedBy]

/-- A note of the snapshot takes the place of the note with its edges. -/
theorem edges_putNotes_of_mem {g : Graph} (hm : m ∈ s.noteIds) :
    (g.putNotes s.notes).edges m = {} := by
  rw [Graph.edges_putNotes]
  exact if_pos hm

theorem branches_load : (v.load s).graph.branches = (v.placedBy s).branches :=
  load_of Graph.branches (fun _ => rfl) (by simp) (by simp) (by simp) v s

theorem placements_load : (v.load s).graph.placements = (v.placedBy s).placements :=
  load_of Graph.placements (fun _ => rfl) (by simp) (by simp) (by simp) v s

/-- Whatever is sorted at the end of a load, the parents of a note are those that branches gave
it. -/
theorem parents_load_perm (v : Vault) (s : Snapshot) (m : NoteId) :
    ((v.load s).graph.parents m).Perm ((v.placedBy s).parents m) := by
  obtain ⟨ns, -, heq⟩ := graph_load v s
  rw [heq]
  refine (Graph.parents_resortAll_perm _ ns m).trans ?_
  rw [Graph.attachAll_of (Graph.parents · m) (by simp),
    Graph.sortAll_of (Graph.parents · m) (by simp)]

theorem children_load_perm (v : Vault) (s : Snapshot) (m : NoteId) :
    ((v.load s).graph.children m).Perm ((v.placedBy s).children m) := by
  obtain ⟨ns, -, heq⟩ := graph_load v s
  have hview : (v.load s).graph.children m =
      ((v.placedBy s).sortAll s.placingNotes).children m := by
    rw [heq]
    refine (Graph.resortAll_of (Graph.children · m) (by simp) _ ns).trans ?_
    exact Graph.attachAll_of (Graph.children · m) (by simp) _ _
  rw [hview]
  exact Graph.children_sortAll_perm _ _ m

/-- A note of the snapshot has the branches of the snapshot that place it, and no others. -/
theorem parentBranches_load (hs : s.HasDistinctIds) (hm : m ∈ s.noteIds) :
    (v.load s).graph.parentBranches m =
      (s.liveBranches.filter fun b => b.child = m).map Branch.id := by
  have hbare : (v.graph.putNotes s.notes).parentBranches m = [] := by
    rw [Graph.parentBranches, edges_putNotes_of_mem hm]
  have hnote : (v.graph.putNotes s.notes).hasNote m = true := by
    rw [Graph.hasNote_putNotes, Bool.or_eq_true]
    exact Or.inl (decide_eq_true hm)
  rw [load_of (Graph.parentBranches · m) (fun _ => rfl) (by simp) (by simp) (by simp), placedBy,
    Graph.parentBranches_addBranches hs.nodup_liveBranches (by simp [hbare]), hbare]
  simp [hnote]

/-- A list that attributes add to grows in a load by the attributes of the snapshot that stand on a
note and pass the test. -/
theorem load_of_growsBy {view : Graph → List AttributeId} {adds : Graph → Attribute → Bool}
    (h : Graph.GrowsBy view adds) (v : Vault) (s : Snapshot) : view (v.load s).graph =
      view (v.placedBy s) ++ (s.readAttributes.filter fun a =>
        (v.load s).graph.hasNote a.owner && adds (v.load s).graph a).map Attribute.id := by
  obtain ⟨ns, -, heq⟩ := graph_load v s
  have hnote : ∀ n, (v.load s).graph.hasNote n =
      ((v.placedBy s).sortAll s.placingNotes).hasNote n := by
    intro n
    rw [Graph.sortAll_of (Graph.hasNote · n) (by simp), hasNote_placedBy, hasNote_load]
  simp only [hnote, h.congr hnote]
  rw [heq, h.loaded, Graph.resortAll_of view h.resortParents, h.attachAll,
    Graph.sortAll_of view h.sortChildren]

/-- A note of the snapshot owns the attributes of the snapshot that stand on it, and no others. -/
theorem owned_load (hm : m ∈ s.noteIds) : (v.load s).graph.owned m =
    (s.readAttributes.filter fun a => decide (m = a.owner)).map Attribute.id := by
  have hbare : (v.placedBy s).owned m = [] := by
    rw [placedBy, Graph.owned_addBranches, Graph.owned, edges_putNotes_of_mem hm]
  have hnote : (v.load s).graph.hasNote m = true := by simp [hasNote_load, hm]
  rw [load_of_growsBy (Graph.growsBy_owned m), hbare, List.nil_append]
  congr 1
  refine List.filter_congr fun a _ => ?_
  by_cases ha : m = a.owner
  · rw [← ha, hnote, Bool.true_and]
  · rw [decide_eq_false ha, Bool.and_false]

/-- A note of the snapshot is pointed at by the relations of the snapshot that point at it and stand
on a note, and by no others. -/
theorem incoming_load (hm : m ∈ s.noteIds) : (v.load s).graph.incoming m =
    (s.readAttributes.filter fun a =>
      (v.load s).graph.hasNote a.owner && decide (a.target? = some m)).map Attribute.id := by
  have hbare : (v.placedBy s).incoming m = [] := by
    rw [placedBy, Graph.incoming_addBranches, Graph.incoming, edges_putNotes_of_mem hm]
  have hnote : (v.load s).graph.hasNote m = true := by simp [hasNote_load, hm]
  rw [load_of_growsBy (Graph.growsBy_incoming m), hbare, List.nil_append]
  simp [hnote]

/-- The attributes of the snapshot that stand on a note are listed after those listed before. -/
theorem listed_load {key : AttributeKind × String} : (v.load s).graph.listed key =
    v.graph.listed key ++ (s.readAttributes.filter fun a =>
      (v.load s).graph.hasNote a.owner && decide (key = (a.kind, a.name))).map Attribute.id := by
  have hbefore : (v.placedBy s).listed key = v.graph.listed key := by
    rw [placedBy, Graph.listed_addBranches, Graph.putNotes_of (Graph.listed · key) fun _ _ => rfl]
  rw [load_of_growsBy (Graph.growsBy_listed key), hbefore]

/-! ## From nothing -/

/-- A new vault has the notes of its snapshot. -/
theorem hasNote_ofSnapshot :
    (ofSnapshot s).graph.hasNote n = true ↔ n ∈ s.noteIds := by
  have hempty : Vault.empty.graph.hasNote n = false := rfl
  rw [ofSnapshot, hasNote_load, hempty, Bool.or_false, decide_eq_true_iff]

/-- The stored branches are those of the snapshot. -/
theorem branches_ofSnapshot {id : BranchId}
    (h : (ofSnapshot s).graph.branches.get? id = some b) : b ∈ s.liveBranches := by
  have hbare : ((Vault.empty.graph.putNotes s.notes).branches : Table BranchId Branch) = ∅ :=
    Graph.putNotes_of Graph.branches (fun _ _ => rfl) _ _
  rw [ofSnapshot, branches_load, placedBy] at h
  refine (Graph.branches_addBranches h).resolve_left ?_
  rw [hbare, Table.get?_empty]
  exact (Option.some_ne_none b).symm

/-- Every branch of the snapshot that can join its notes does so, or another one does. -/
theorem mem_parents_ofSnapshot (hb : b ∈ s.liveBranches) (hroot : b.child ≠ rootId)
    (hchild : b.child ∈ s.noteIds) (hparent : b.parent ∈ s.noteIds) :
    b.parent ∈ (ofSnapshot s).graph.parents b.child := by
  have hplacements : (Vault.empty.graph.putNotes s.notes).placements = ∅ :=
    Graph.putNotes_of Graph.placements (fun _ _ => rfl) _ _
  have hbare : (Vault.empty.graph.putNotes s.notes).PlacesJoined := by
    intro c p hcp
    rw [hplacements] at hcp
    exact absurd hcp Bool.false_ne_true
  have hnote : ∀ n ∈ s.noteIds, (Vault.empty.graph.putNotes s.notes).hasNote n = true := by
    intro n hn
    rw [Graph.hasNote_putNotes, Bool.or_eq_true]
    exact Or.inl (decide_eq_true hn)
  rw [ofSnapshot, (parents_load_perm _ s b.child).mem_iff]
  exact (hbare.addBranches s.liveBranches).2 b hb ⟨hroot, hnote _ hchild, hnote _ hparent⟩

/-- The attributes that are found once. -/
theorem listed_ofSnapshot {key : AttributeKind × String} : (ofSnapshot s).graph.listed key =
    (s.readAttributes.filter fun a =>
      decide (a.owner ∈ s.noteIds) && decide (key = (a.kind, a.name))).map Attribute.id := by
  have hempty : Vault.empty.graph.listed key = [] := rfl
  have hnote : ∀ m, ((Vault.empty.load s).graph.hasNote m) = decide (m ∈ s.noteIds) := by
    intro m
    rw [Bool.eq_iff_iff, decide_eq_true_iff]
    exact hasNote_ofSnapshot
  rw [ofSnapshot, listed_load, hempty, List.nil_append]
  simp only [hnote]

end Vault

end Zettel
