import Mathlib.Data.List.Basic
import Mathlib.Tactic.SplitIfs
import Zettel.Vault

/-!
# What linking does to the edges

For each way of changing notes and branches, what it does to the parents, the children, the branches
and the attributes of every note, and to the tables.
-/

namespace Zettel.Graph

variable {g g' : Graph} {b : Branch} {f : Edges → Edges} {n m p : NoteId}

/-- The branches that place a note. -/
def parentBranches (g : Graph) (n : NoteId) : List BranchId := (g.edges n).parentBranches

/-- The relations that point at a note. -/
def incoming (g : Graph) (n : NoteId) : List AttributeId := (g.edges n).incoming

/-- A note without its edges. -/
def bare? (g : Graph) (n : NoteId) : Option Note :=
  (g.notes.get? n).map fun note => { note with edges := {} }

/-- The id and the title that a note shows. -/
def caption? (g : Graph) (n : NoteId) : Option (NoteId × String) :=
  (g.notes.get? n).map fun note => (note.id, note.title)

/-- What is shown of a note depends on its own fields only. -/
theorem caption?_congr (h : g'.bare? n = g.bare? n) : g'.caption? n = g.caption? n := by
  have hcaption : ∀ g : Graph,
      g.caption? n = (g.bare? n).map fun note => (note.id, note.title) := fun g => by
    rw [caption?, bare?, Option.map_map]
    rfl
  rw [hcaption, hcaption, h]

/-- What every step leaves alone, all steps together leave alone. -/
theorem view_foldl {α β γ : Type} {step : α → β → α} (view : α → γ)
    (h : ∀ a b, view (step a b) = view a) (bs : List β) (a : α) :
    view (bs.foldl step a) = view a :=
  List.foldlRecOn bs step (motive := fun a' => view a' = view a) rfl
    fun a' ih b _ => (h a' b).trans ih

/-! ## Notes by their edges -/

theorem hasNote_iff : g.hasNote n = true ↔ ∃ note, g.notes.get? n = some note := by
  rw [hasNote, Table.contains, Option.isSome_iff_exists]

/-- A note that does not exist has no edges. -/
theorem edges_eq_getD (g : Graph) (n : NoteId) :
    g.edges n = ((g.notes.get? n).map Note.edges).getD {} := by
  rw [edges]
  cases g.notes.get? n <;> rfl

/-- A note that does not exist has no edges. -/
theorem edges_of_unknown (h : ¬g.hasNote n = true) : g.edges n = {} := by
  rw [hasNote, Table.contains, Option.not_isSome_iff_eq_none] at h
  rw [edges, h]

/-- Only an existing note has edges. -/
theorem hasNote_of_mem_edges {α : Type} {x : α} (view : Edges → List α) (hnone : view {} = [])
    (h : x ∈ view (g.edges n)) : g.hasNote n = true := by
  by_contra hn
  rw [edges_of_unknown hn, hnone] at h
  exact absurd h (by simp)

/-- Only notes that exist have parents. -/
theorem hasNote_of_mem_parents (h : p ∈ g.parents n) : g.hasNote n = true :=
  hasNote_of_mem_edges Edges.parents rfl h

/-- Only notes that exist have children. -/
theorem hasNote_of_mem_children (h : m ∈ g.children n) : g.hasNote n = true :=
  hasNote_of_mem_edges Edges.children rfl h

theorem hasNote_of_mem_parentBranches {id : BranchId} (h : id ∈ g.parentBranches n) :
    g.hasNote n = true :=
  hasNote_of_mem_edges Edges.parentBranches rfl h

theorem hasNote_of_mem_owned {id : AttributeId} (h : id ∈ g.owned n) : g.hasNote n = true :=
  hasNote_of_mem_edges Edges.owned rfl h

theorem hasNote_of_mem_incoming {id : AttributeId} (h : id ∈ g.incoming n) : g.hasNote n = true :=
  hasNote_of_mem_edges Edges.incoming rfl h

/-! ## Changing the edges of one note -/

@[simp]
theorem hasNote_modifyEdges : (g.modifyEdges n f).hasNote m = g.hasNote m := by
  rw [hasNote, hasNote, Table.contains, Table.contains, modifyEdges, Table.get?_modify]
  split_ifs with h
  · rw [h, Option.isSome_map]
  · rfl

theorem edges_modifyEdges : (g.modifyEdges n f).edges m =
    if m = n ∧ g.hasNote n = true then f (g.edges n) else g.edges m := by
  by_cases hm : m = n
  · subst hm
    rw [edges_eq_getD, edges_eq_getD, modifyEdges, Table.get?_modify, if_pos rfl, hasNote,
      Table.contains]
    cases hnote : g.notes.get? m <;> simp
  · rw [edges_eq_getD, edges_eq_getD g m, modifyEdges, Table.get?_modify, if_neg hm]
    simp [hm]

@[simp]
theorem bare?_modifyEdges : (g.modifyEdges n f).bare? m = g.bare? m := by
  rw [bare?, bare?, modifyEdges, Table.get?_modify]
  split_ifs with h
  · rw [h, Option.map_map]
    rfl
  · rfl

@[simp]
theorem attributes_modifyEdges : (g.modifyEdges n f).attributes = g.attributes := rfl

@[simp]
theorem branches_modifyEdges : (g.modifyEdges n f).branches = g.branches := rfl

@[simp]
theorem placements_modifyEdges : (g.modifyEdges n f).placements = g.placements := rfl

/-- The edges of a note that does not exist cannot be changed. -/
theorem modifyEdges_of_unknown (h : ¬g.hasNote n = true) : g.modifyEdges n f = g := by
  rw [hasNote, Table.contains_iff] at h
  rw [modifyEdges, Table.modify_of_not_mem h]

/-- What the change leaves alone at every note. -/
theorem edges_modifyEdges_of {β : Type} (view : Edges → β) (h : ∀ e, view (f e) = view e)
    (n m : NoteId) : view ((g.modifyEdges n f).edges m) = view (g.edges m) := by
  rw [edges_modifyEdges]
  split_ifs with hm
  · rw [h, hm.1]
  · rfl

/-- Puts another table of branches into the graph. -/
def setBranches (g : Graph) (branches : Table BranchId Branch) : Graph :=
  { g with branches := branches }

section SetBranches

variable {branches : Table BranchId Branch}

@[simp]
theorem edges_setBranches : (g.setBranches branches).edges m = g.edges m := rfl

@[simp]
theorem parents_setBranches : (g.setBranches branches).parents m = g.parents m := rfl

@[simp]
theorem children_setBranches : (g.setBranches branches).children m = g.children m := rfl

@[simp]
theorem owned_setBranches : (g.setBranches branches).owned m = g.owned m := rfl

@[simp]
theorem incoming_setBranches : (g.setBranches branches).incoming m = g.incoming m := rfl

@[simp]
theorem parentBranches_setBranches :
    (g.setBranches branches).parentBranches m = g.parentBranches m := rfl

@[simp]
theorem hasNote_setBranches : (g.setBranches branches).hasNote m = g.hasNote m := rfl

@[simp]
theorem bare?_setBranches : (g.setBranches branches).bare? m = g.bare? m := rfl

@[simp]
theorem attributes_setBranches : (g.setBranches branches).attributes = g.attributes := rfl

@[simp]
theorem branches_setBranches : (g.setBranches branches).branches = branches := rfl

@[simp]
theorem placements_setBranches : (g.setBranches branches).placements = g.placements := rfl

end SetBranches

/-- Puts another table of placements into the graph. -/
def setPlacements (g : Graph) (placements : Table (NoteId × NoteId) BranchId) : Graph :=
  { g with placements := placements }

section SetPlacements

variable {placements : Table (NoteId × NoteId) BranchId}

@[simp]
theorem edges_setPlacements : (g.setPlacements placements).edges m = g.edges m := rfl

@[simp]
theorem hasNote_setPlacements : (g.setPlacements placements).hasNote m = g.hasNote m := rfl

@[simp]
theorem bare?_setPlacements : (g.setPlacements placements).bare? m = g.bare? m := rfl

@[simp]
theorem attributes_setPlacements : (g.setPlacements placements).attributes = g.attributes := rfl

@[simp]
theorem branches_setPlacements : (g.setPlacements placements).branches = g.branches := rfl

@[simp]
theorem placements_setPlacements : (g.setPlacements placements).placements = placements := rfl

end SetPlacements

/-! ## Joining notes -/

/-- The branch joins its notes, if it is linked. -/
def Joins (g : Graph) (b : Branch) : Prop :=
  b.child ≠ rootId ∧ g.hasNote b.child = true ∧ g.hasNote b.parent = true ∧
    g.placements.contains (b.child, b.parent) = false

instance (g : Graph) (b : Branch) : Decidable (g.Joins b) :=
  inferInstanceAs (Decidable (_ ∧ _ ∧ _ ∧ _))

/-- Notes a branch on its child. -/
def noteBranch (g : Graph) (b : Branch) : Graph :=
  g.modifyEdges b.child fun e =>
    if e.parentBranches.contains b.id then e
    else { e with parentBranches := e.parentBranches ++ [b.id] }

/-- Makes the child of a branch a child of its parent. -/
def joinNotes (g : Graph) (b : Branch) : Graph :=
  ((g.setPlacements (g.placements.insert (b.child, b.parent) b.id)).modifyEdges b.child
    fun e => { e with parents := e.parents ++ [b.parent] }).modifyEdges b.parent
    fun e => { e with children := e.children ++ [b.child] }

theorem linkBranch_eq (g : Graph) (b : Branch) :
    g.linkBranch b = if g.Joins b then (g.noteBranch b).joinNotes b else g.noteBranch b := by
  rw [linkBranch]
  by_cases hn : g.hasNote b.child = true
  · rw [if_pos hn]
    by_cases hj : g.Joins b
    · have hcond : ¬((decide (b.child = rootId) || !g.hasNote b.parent ||
          g.placements.contains (b.child, b.parent)) = true) := by
        obtain ⟨hroot, -, hp, hfree⟩ := hj
        simp [hroot, hp, hfree]
      rw [if_pos hj]
      exact if_neg (by simpa using hcond)
    · rw [if_neg hj]
      refine if_pos ?_
      by_contra hcond
      refine hj ⟨?_, hn, ?_, ?_⟩ <;> simp_all
  · have hj : ¬g.Joins b := fun h => hn h.2.1
    rw [if_neg hn, if_neg hj, noteBranch, modifyEdges_of_unknown hn]

@[simp]
theorem hasNote_linkBranch : (g.linkBranch b).hasNote m = g.hasNote m := by
  rw [linkBranch_eq]
  split_ifs <;> simp [joinNotes, noteBranch]

@[simp]
theorem bare?_linkBranch : (g.linkBranch b).bare? m = g.bare? m := by
  rw [linkBranch_eq]
  split_ifs <;> simp [joinNotes, noteBranch]

@[simp]
theorem attributes_linkBranch : (g.linkBranch b).attributes = g.attributes := by
  rw [linkBranch_eq]
  split_ifs <;> rfl

@[simp]
theorem branches_linkBranch : (g.linkBranch b).branches = g.branches := by
  rw [linkBranch_eq]
  split_ifs <;> rfl

@[simp]
theorem index_linkBranch : (g.linkBranch b).index = g.index := by
  rw [linkBranch_eq]
  split_ifs <;> rfl

/-- Only a branch that joins its notes is found under them. -/
theorem placements_linkBranch : (g.linkBranch b).placements =
    if g.Joins b then g.placements.insert (b.child, b.parent) b.id else g.placements := by
  rw [linkBranch_eq]
  split_ifs <;> rfl

@[simp]
theorem hasNote_noteBranch : (g.noteBranch b).hasNote m = g.hasNote m := hasNote_modifyEdges

/-- Noting a branch leaves alone what does not read the branches of a note. -/
theorem edges_noteBranch_of {β : Type} (view : Edges → β)
    (h : ∀ e branches, view { e with parentBranches := branches } = view e) (m : NoteId) :
    view ((g.noteBranch b).edges m) = view (g.edges m) := by
  refine edges_modifyEdges_of view (fun e => ?_) _ m
  split_ifs
  · rfl
  · exact h e _

theorem parents_linkBranch : (g.linkBranch b).parents m =
    if g.Joins b ∧ m = b.child then g.parents m ++ [b.parent] else g.parents m := by
  have hnoted := edges_noteBranch_of (g := g) (b := b) Edges.parents (fun _ _ => rfl)
  rw [linkBranch_eq]
  by_cases hj : g.Joins b
  · have hchild := hj.2.1
    simp only [hj, if_true, true_and, joinNotes, parents, edges_modifyEdges]
    split_ifs <;> simp_all
  · rw [if_neg hj, if_neg fun h => hj h.1]
    exact hnoted m

theorem children_linkBranch : (g.linkBranch b).children m =
    if g.Joins b ∧ m = b.parent then g.children m ++ [b.child] else g.children m := by
  have hnoted := edges_noteBranch_of (g := g) (b := b) Edges.children (fun _ _ => rfl)
  rw [linkBranch_eq]
  by_cases hj : g.Joins b
  · have hparent := hj.2.2.1
    simp only [hj, if_true, true_and, joinNotes, children, edges_modifyEdges]
    split_ifs <;> simp_all
  · rw [if_neg hj, if_neg fun h => hj h.1]
    exact hnoted m

@[simp]
theorem owned_linkBranch : (g.linkBranch b).owned m = g.owned m := by
  have hnoted := edges_noteBranch_of (g := g) (b := b) Edges.owned (fun _ _ => rfl)
  rw [linkBranch_eq]
  split_ifs
  · simp only [joinNotes, owned, edges_modifyEdges]
    split_ifs <;> simp_all
  · exact hnoted m

@[simp]
theorem incoming_linkBranch : (g.linkBranch b).incoming m = g.incoming m := by
  have hnoted := edges_noteBranch_of (g := g) (b := b) Edges.incoming (fun _ _ => rfl)
  rw [linkBranch_eq]
  split_ifs
  · simp only [joinNotes, incoming, edges_modifyEdges]
    split_ifs <;> simp_all
  · exact hnoted m

theorem parentBranches_linkBranch : (g.linkBranch b).parentBranches m =
    if (m = b.child ∧ g.hasNote m = true) ∧ b.id ∉ g.parentBranches m then
      g.parentBranches m ++ [b.id]
    else g.parentBranches m := by
  have hnoted : (g.linkBranch b).parentBranches m = (g.noteBranch b).parentBranches m := by
    rw [linkBranch_eq]
    split_ifs
    · simp only [joinNotes, parentBranches, edges_modifyEdges]
      split_ifs <;> simp_all
    · rfl
  rw [hnoted, noteBranch]
  by_cases hm : m = b.child ∧ g.hasNote m = true
  · obtain ⟨rfl, hn⟩ := hm
    simp only [parentBranches, edges_modifyEdges, hn, List.contains_iff_mem]
    split_ifs <;> simp_all
  · have hm' : ¬(m = b.child ∧ g.hasNote b.child = true) := fun h => hm ⟨h.1, h.1 ▸ h.2⟩
    rw [if_neg fun h => hm h.1, parentBranches, edges_modifyEdges, if_neg hm', parentBranches]

theorem mem_parentBranches_linkBranch {id : BranchId} :
    id ∈ (g.linkBranch b).parentBranches m ↔
      id ∈ g.parentBranches m ∨ id = b.id ∧ m = b.child ∧ g.hasNote m = true := by
  rw [parentBranches_linkBranch]
  split_ifs with h
  · obtain ⟨⟨rfl, hn⟩, -⟩ := h
    simp [hn]
  · constructor
    · exact Or.inl
    · rintro (hid | ⟨rfl, hm⟩)
      · exact hid
      · by_contra hid
        exact h ⟨hm, hid⟩

/-! ## Separating notes -/

/-- The placements without the branch's. -/
def placementsWithout (g : Graph) (b : Branch) : Table (NoteId × NoteId) BranchId :=
  if g.placements.get? (b.child, b.parent) = some b.id then
    g.placements.erase (b.child, b.parent)
  else g.placements

theorem unlinkBranch_eq (g : Graph) (b : Branch) : g.unlinkBranch b =
    ((g.setPlacements (g.placementsWithout b)).modifyEdges b.child fun e =>
      { e with
        parentBranches := e.parentBranches.filter (· ≠ b.id)
        parents := e.parents.erase b.parent }).modifyEdges b.parent fun e =>
      { e with children := e.children.erase b.child } := by
  rw [unlinkBranch, placementsWithout]
  split_ifs <;> rfl

@[simp]
theorem hasNote_unlinkBranch : (g.unlinkBranch b).hasNote m = g.hasNote m := by
  simp [unlinkBranch_eq]

@[simp]
theorem bare?_unlinkBranch : (g.unlinkBranch b).bare? m = g.bare? m := by
  simp [unlinkBranch_eq]

@[simp]
theorem attributes_unlinkBranch : (g.unlinkBranch b).attributes = g.attributes := by
  simp [unlinkBranch_eq]

@[simp]
theorem branches_unlinkBranch : (g.unlinkBranch b).branches = g.branches := by
  simp [unlinkBranch_eq]

@[simp]
theorem index_unlinkBranch : (g.unlinkBranch b).index = g.index := by
  rw [unlinkBranch_eq]
  rfl

theorem placements_unlinkBranch : (g.unlinkBranch b).placements = g.placementsWithout b := by
  simp [unlinkBranch_eq]

/-- The child loses the parent that the branch names. -/
theorem parents_unlinkBranch : (g.unlinkBranch b).parents m =
    if m = b.child then (g.parents m).erase b.parent else g.parents m := by
  have hunknown : ∀ n, ¬g.hasNote n = true → g.edges n = {} := fun n => edges_of_unknown
  simp only [unlinkBranch_eq, parents, edges_modifyEdges]
  split_ifs <;> simp_all

/-- The parent loses the child that the branch names. -/
theorem children_unlinkBranch : (g.unlinkBranch b).children m =
    if m = b.parent then (g.children m).erase b.child else g.children m := by
  have hunknown : ∀ n, ¬g.hasNote n = true → g.edges n = {} := fun n => edges_of_unknown
  simp only [unlinkBranch_eq, children, edges_modifyEdges]
  split_ifs <;> simp_all

@[simp]
theorem owned_unlinkBranch : (g.unlinkBranch b).owned m = g.owned m := by
  simp only [unlinkBranch_eq, owned, edges_modifyEdges]
  split_ifs <;> simp_all

@[simp]
theorem incoming_unlinkBranch : (g.unlinkBranch b).incoming m = g.incoming m := by
  simp only [unlinkBranch_eq, incoming, edges_modifyEdges]
  split_ifs <;> simp_all

/-- The child loses the branch. -/
theorem parentBranches_unlinkBranch : (g.unlinkBranch b).parentBranches m =
    if m = b.child then (g.parentBranches m).filter (· ≠ b.id) else g.parentBranches m := by
  have hunknown : ∀ n, ¬g.hasNote n = true → g.edges n = {} := fun n => edges_of_unknown
  simp only [unlinkBranch_eq, parentBranches, edges_modifyEdges]
  split_ifs <;> simp_all

theorem mem_parentBranches_unlinkBranch {id : BranchId} :
    id ∈ (g.unlinkBranch b).parentBranches m ↔
      id ∈ g.parentBranches m ∧ ¬(id = b.id ∧ m = b.child) := by
  rw [parentBranches_unlinkBranch]
  split_ifs with hm
  · simp [hm]
  · simp [hm]

/-! ## The order of edges -/

section Order

variable {n : NoteId}

@[simp]
theorem hasNote_sortChildren : (g.sortChildren n).hasNote m = g.hasNote m := hasNote_modifyEdges

@[simp]
theorem bare?_sortChildren : (g.sortChildren n).bare? m = g.bare? m := bare?_modifyEdges

@[simp]
theorem attributes_sortChildren : (g.sortChildren n).attributes = g.attributes := rfl

@[simp]
theorem branches_sortChildren : (g.sortChildren n).branches = g.branches := rfl

@[simp]
theorem placements_sortChildren : (g.sortChildren n).placements = g.placements := rfl

/-- Sorting the children leaves alone what does not read them. -/
theorem edges_sortChildren_of {β : Type} (view : Edges → β)
    (h : ∀ e children, view { e with children := children } = view e) (m : NoteId) :
    view ((g.sortChildren n).edges m) = view (g.edges m) :=
  edges_modifyEdges_of view (fun e => h e _) _ m

@[simp]
theorem parents_sortChildren : (g.sortChildren n).parents m = g.parents m :=
  edges_sortChildren_of Edges.parents (fun _ _ => rfl) m

@[simp]
theorem owned_sortChildren : (g.sortChildren n).owned m = g.owned m :=
  edges_sortChildren_of Edges.owned (fun _ _ => rfl) m

@[simp]
theorem incoming_sortChildren : (g.sortChildren n).incoming m = g.incoming m :=
  edges_sortChildren_of Edges.incoming (fun _ _ => rfl) m

@[simp]
theorem parentBranches_sortChildren : (g.sortChildren n).parentBranches m = g.parentBranches m :=
  edges_sortChildren_of Edges.parentBranches (fun _ _ => rfl) m

/-- The children of one note are put in order. -/
theorem children_sortChildren : (g.sortChildren n).children m =
    if m = n then sortOn (g.positionUnder n) (g.children m) else g.children m := by
  have hunknown : ∀ n, ¬g.hasNote n = true → g.edges n = {} := fun n => edges_of_unknown
  have hnil : sortOn (g.positionUnder n) [] = [] :=
    List.eq_nil_of_length_eq_zero (sortBy_perm _ _).length_eq
  simp only [sortChildren, children, edges_modifyEdges]
  split_ifs <;> simp_all

/-- No child comes or goes when they are put in order. -/
theorem children_sortChildren_perm (g : Graph) (n m : NoteId) :
    ((g.sortChildren n).children m).Perm (g.children m) := by
  rw [children_sortChildren]
  split_ifs
  · exact sortBy_perm _ _
  · rfl

@[simp]
theorem hasNote_resortParents : (g.resortParents n).hasNote m = g.hasNote m := hasNote_modifyEdges

@[simp]
theorem bare?_resortParents : (g.resortParents n).bare? m = g.bare? m :=
  bare?_modifyEdges

@[simp]
theorem attributes_resortParents : (g.resortParents n).attributes = g.attributes := rfl

@[simp]
theorem branches_resortParents : (g.resortParents n).branches = g.branches := rfl

@[simp]
theorem placements_resortParents : (g.resortParents n).placements = g.placements := rfl

/-- Putting the parents in order leaves alone what does not read them. -/
theorem edges_resortParents_of {β : Type} (view : Edges → β)
    (h : ∀ e parents, view { e with parents := parents } = view e) (m : NoteId) :
    view ((g.resortParents n).edges m) = view (g.edges m) :=
  edges_modifyEdges_of view (fun e => h e _) _ m

@[simp]
theorem children_resortParents : (g.resortParents n).children m = g.children m :=
  edges_resortParents_of Edges.children (fun _ _ => rfl) m

@[simp]
theorem owned_resortParents : (g.resortParents n).owned m = g.owned m :=
  edges_resortParents_of Edges.owned (fun _ _ => rfl) m

@[simp]
theorem incoming_resortParents : (g.resortParents n).incoming m = g.incoming m :=
  edges_resortParents_of Edges.incoming (fun _ _ => rfl) m

@[simp]
theorem parentBranches_resortParents : (g.resortParents n).parentBranches m = g.parentBranches m :=
  edges_resortParents_of Edges.parentBranches (fun _ _ => rfl) m

/-- Whether a note archives the notes below is read from its attributes. -/
theorem archivesSubtree_congr (howned : g'.owned n = g.owned n)
    (hstored : ∀ id ∈ g.owned n, g'.attributes.get? id = g.attributes.get? id) :
    g'.archivesSubtree n = g.archivesSubtree n := by
  rw [archivesSubtree, archivesSubtree, howned, Bool.eq_iff_iff, List.any_eq_true, List.any_eq_true]
  refine exists_congr fun id => and_congr_right fun hid => ?_
  rw [hstored id hid]

/-- Some parents, with those that archive their subtrees behind the others. -/
def archivedLast (g : Graph) (ps : List NoteId) : List NoteId :=
  ps.filter (!g.archivesSubtree ·) ++ ps.filter (g.archivesSubtree ·)

/-- The parents of one note are put in order. -/
theorem parents_resortParents : (g.resortParents n).parents m =
    if m = n then g.archivedLast (g.parents m) else g.parents m := by
  have hunknown : ∀ n, ¬g.hasNote n = true → g.edges n = {} := fun n => edges_of_unknown
  simp only [resortParents, parents, edges_modifyEdges, archivedLast]
  split_ifs <;> simp_all

/-- No parent comes or goes when those that archive are put last. -/
theorem archivedLast_perm (g : Graph) (ps : List NoteId) : (g.archivedLast ps).Perm ps := by
  have h := List.filter_append_perm (fun p => !g.archivesSubtree p) ps
  simpa [archivedLast] using h

/-- No parent comes or goes when they are put in order. -/
theorem parents_resortParents_perm (g : Graph) (n m : NoteId) :
    ((g.resortParents n).parents m).Perm (g.parents m) := by
  rw [parents_resortParents]
  split_ifs
  · exact archivedLast_perm g _
  · rfl

end Order

/-! ## Notes -/

section Notes

variable {row : NoteRow}

theorem hasNote_putNote :
    (Vault.putNote g row).hasNote m = (decide (m = row.id) || g.hasNote m) := by
  rw [hasNote, hasNote, Table.contains, Table.contains, Vault.putNote, Table.get?_insert]
  split_ifs with h <;> simp [h]

/-- A new note comes without edges. -/
theorem edges_putNote : (Vault.putNote g row).edges m = if m = row.id then {} else g.edges m := by
  rw [edges_eq_getD, edges_eq_getD, Vault.putNote, Table.get?_insert]
  split_ifs <;> rfl

/-- The note is the one that the row describes. -/
theorem bare?_putNote : (Vault.putNote g row).bare? m =
    if m = row.id then some (Note.ofRow row {}) else g.bare? m := by
  rw [bare?, bare?, Vault.putNote, Table.get?_insert]
  split_ifs <;> rfl

@[simp]
theorem attributes_putNote : (Vault.putNote g row).attributes = g.attributes := rfl

@[simp]
theorem branches_putNote : (Vault.putNote g row).branches = g.branches := rfl

@[simp]
theorem placements_putNote : (Vault.putNote g row).placements = g.placements := rfl

/-- Gives a note the fields of a row and leaves its edges. -/
def renewNote (g : Graph) (row : NoteRow) : Graph :=
  { g with notes := g.notes.insert row.id (Note.ofRow row (g.edges row.id)) }

theorem hasNote_renewNote (h : g.hasNote row.id = true) :
    (g.renewNote row).hasNote m = g.hasNote m := by
  rw [hasNote, Table.contains, renewNote, Table.get?_insert]
  split_ifs with hm
  · rw [hm, h]
    rfl
  · rfl

/-- A note that is written again keeps its edges. -/
@[simp]
theorem edges_renewNote : (g.renewNote row).edges m = g.edges m := by
  rw [edges_eq_getD, renewNote, Table.get?_insert]
  split_ifs with hm
  · rw [hm]
    rfl
  · rw [edges_eq_getD]

/-- The fields of the note are those of the new row. -/
theorem bare?_renewNote : (g.renewNote row).bare? m =
    if m = row.id then some (Note.ofRow row {}) else g.bare? m := by
  rw [bare?, bare?, renewNote, Table.get?_insert]
  split_ifs <;> rfl

@[simp]
theorem attributes_renewNote : (g.renewNote row).attributes = g.attributes := rfl

@[simp]
theorem branches_renewNote : (g.renewNote row).branches = g.branches := rfl

@[simp]
theorem placements_renewNote : (g.renewNote row).placements = g.placements := rfl

/-- Takes a note out of its table. -/
def eraseNote (g : Graph) (n : NoteId) : Graph := { g with notes := g.notes.erase n }

theorem hasNote_eraseNote : (g.eraseNote n).hasNote m = (decide (m ≠ n) && g.hasNote m) := by
  rw [hasNote, hasNote, Table.contains, Table.contains, eraseNote, Table.get?_erase]
  split_ifs with h <;> simp [h]

/-- The edges of a note go with it. -/
theorem edges_eraseNote : (g.eraseNote n).edges m = if m = n then {} else g.edges m := by
  rw [edges_eq_getD, edges_eq_getD, eraseNote, Table.get?_erase]
  split_ifs <;> rfl

theorem bare?_eraseNote (h : m ≠ n) : (g.eraseNote n).bare? m = g.bare? m := by
  rw [bare?, bare?, eraseNote, Table.get?_erase, if_neg h]

@[simp]
theorem attributes_eraseNote : (g.eraseNote n).attributes = g.attributes := rfl

@[simp]
theorem branches_eraseNote : (g.eraseNote n).branches = g.branches := rfl

@[simp]
theorem placements_eraseNote : (g.eraseNote n).placements = g.placements := rfl

end Notes

end Zettel.Graph
