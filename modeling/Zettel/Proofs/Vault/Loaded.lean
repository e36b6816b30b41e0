import Zettel.Proofs.Graph.ParentOrder
import Zettel.Proofs.Vault.Convergence

/-!
# What a loaded vault reads

The rows of a snapshot determine the lists of the vault that is loaded from them, order included. A
note has the parents that its branches place it under, in the order of the branches, with those that
an attribute row archives behind the others; and it owns its attributes in the order of their rows.
Of several branches between the same notes the first one is looked up.

Main statements: `readsFrom_ofSnapshot`, a loaded vault reads as its snapshot says,
`placements_ofSnapshot`, which branch is looked up, and `ReadsFrom.agrees`, two graphs that read from
the same snapshot agree.
-/

namespace Zettel

namespace Graph

variable {g : Graph} {b : Branch} {bs before after : List Branch} {n m : NoteId}

instance (g : Graph) (b : Branch) : Decidable (g.Joinable b) :=
  inferInstanceAs (Decidable (_ ∧ _ ∧ _))

/-! ## Parents in the order of the branches -/

/-- A placement is looked up exactly where notes lie below each other. -/
def PlacesParents (g : Graph) : Prop :=
  ∀ c p, g.placements.contains (c, p) = true ↔ p ∈ g.parents c

/-- A branch that is added sets the placement and the parent together. -/
theorem PlacesParents.addBranch (h : g.PlacesParents) (b : Branch) :
    (g.addBranch b).PlacesParents := by
  intro c p
  rw [addBranch_eq, contains_placements_linkBranch, mem_parents_linkBranch]
  exact or_congr_left (h c p)

/-- A branch places its child below its parent, if both exist and this has not been done before. -/
theorem PlacesParents.parents_addBranch (h : g.PlacesParents) (b : Branch) (m : NoteId) :
    (g.addBranch b).parents m = addNew (g.parents m)
      (([b].filter fun b => b.child = m && g.Joinable b).map Branch.parent) := by
  have hjoins : (g.setBranches (g.branches.insert b.id b)).Joins b ↔
      g.Joinable b ∧ b.parent ∉ g.parents b.child := by
    rw [← h, Bool.not_eq_true]
    simp only [Joins, Joinable, hasNote_setBranches, placements_setBranches, and_assoc]
  rw [addBranch_eq, parents_linkBranch, parents_setBranches]
  simp only [hjoins]
  by_cases hm : b.child = m ∧ g.Joinable b
  · obtain ⟨rfl, hj⟩ := hm
    by_cases hp : b.parent ∈ g.parents b.child <;> simp [hj, hp, addNew]
  · have hnot : ¬((g.Joinable b ∧ b.parent ∉ g.parents b.child) ∧ m = b.child) := fun h =>
      hm ⟨h.2.symm, h.1.1⟩
    have hnone : ([b].filter fun b => b.child = m && g.Joinable b) = [] := by simpa using hm
    rw [if_neg hnot, hnone]
    rfl

/-- Branches place a note below their parents in their own order, each parent once. -/
theorem PlacesParents.parents_addBranches (h : g.PlacesParents) (bs : List Branch) (m : NoteId) :
    (g.addBranches bs).parents m = addNew (g.parents m)
      ((bs.filter fun b => b.child = m && g.Joinable b).map Branch.parent) := by
  induction bs generalizing g with
  | nil => rfl
  | cons b bs ih =>
    have hstep : g.addBranches (b :: bs) = (g.addBranch b).addBranches bs := rfl
    have hjoinable : ∀ b', (g.addBranch b).Joinable b' ↔ g.Joinable b' := by simp [Joinable]
    simp only [hstep, ih (h.addBranch b), hjoinable, h.parents_addBranch, ← addNew_append,
      ← List.map_append, ← List.filter_append, List.singleton_append]

/-- If the branch that goes is the one that is looked up, its notes are separated and its placement
goes too. -/
theorem PlacesParents.eraseBranch (h : g.PlacesParents) (hg : g.Linked)
    (hb : g.branches.get? b.id = some b)
    (hfirst : b.parent ∈ g.parents b.child →
      g.placements.get? (b.child, b.parent) = some b.id) : (g.eraseBranch b).PlacesParents := by
  intro c p
  rw [hg.mem_parents_eraseBranch, Table.contains, Option.isSome_iff_exists]
  simp only [hg.get?_placements_eraseBranch hb]
  constructor
  · rintro ⟨id, hid, hne⟩
    have hp : p ∈ g.parents c := (h c p).1 (by rw [Table.contains, hid]; rfl)
    refine ⟨hp, ?_⟩
    rintro ⟨rfl, rfl⟩
    exact hne (Option.some.inj (hid.symm.trans (hfirst hp)))
  · rintro ⟨hp, hother⟩
    have hplaced := (h c p).2 hp
    rw [Table.contains, Option.isSome_iff_exists] at hplaced
    obtain ⟨id, hid⟩ := hplaced
    refine ⟨id, hid, ?_⟩
    rintro rfl
    obtain ⟨b', hb', rfl, rfl⟩ := hg.placed hid
    obtain rfl := Option.some.inj (hb.symm.trans hb')
    exact hother ⟨rfl, rfl⟩

/-! ## The branch that is looked up -/

theorem get?_placements_addBranch (g : Graph) (b : Branch) (k : NoteId × NoteId) :
    (g.addBranch b).placements.get? k =
      if g.Joins b ∧ k = (b.child, b.parent) then some b.id else g.placements.get? k := by
  have hjoins : (g.setBranches (g.branches.insert b.id b)).Joins b ↔ g.Joins b := Iff.rfl
  rw [addBranch_eq, placements_linkBranch]
  by_cases hj : g.Joins b
  · simp only [hjoins, hj, if_true, true_and, placements_setBranches, Table.get?_insert]
  · simp only [hjoins, hj, if_false, false_and, placements_setBranches]

/-- A branch that is looked up goes on being so. -/
theorem get?_placements_addBranches {k : NoteId × NoteId} {id : BranchId}
    (h : g.placements.get? k = some id) : (g.addBranches bs).placements.get? k = some id := by
  induction bs generalizing g with
  | nil => exact h
  | cons b bs ih =>
    refine ih (g := g.addBranch b) ?_
    rw [get?_placements_addBranch, if_neg]
    · exact h
    · rintro ⟨hj, rfl⟩
      have hfree := hj.2.2.2
      rw [Table.contains, h] at hfree
      exact Bool.false_ne_true hfree.symm

/-- Branches between other notes have no bearing on a look-up. -/
theorem get?_placements_addBranches_of_apart {k : NoteId × NoteId}
    (h : ∀ b ∈ bs, (b.child, b.parent) ≠ k) :
    (g.addBranches bs).placements.get? k = g.placements.get? k := by
  induction bs generalizing g with
  | nil => rfl
  | cons b bs ih =>
    rw [List.forall_mem_cons] at h
    refine (ih (g := g.addBranch b) h.2).trans ?_
    rw [get?_placements_addBranch, if_neg fun hk => h.1 hk.2.symm]

/-- **Of several branches between the same notes the first one is looked up.** -/
theorem get?_placements_addBranches_first (hj : g.Joinable b)
    (hfree : g.placements.get? (b.child, b.parent) = none)
    (hfirst : ∀ b' ∈ before, (b'.child, b'.parent) ≠ (b.child, b.parent)) :
    (g.addBranches (before ++ b :: after)).placements.get? (b.child, b.parent) = some b.id := by
  have hsplit : g.addBranches (before ++ b :: after) =
      ((g.addBranches before).addBranch b).addBranches after := by
    rw [addBranches, List.foldl_append, List.foldl_cons]
    rfl
  have hbefore := (get?_placements_addBranches_of_apart (g := g) hfirst).trans hfree
  rw [hsplit]
  refine get?_placements_addBranches ?_
  rw [get?_placements_addBranch, if_pos]
  refine ⟨⟨hj.1, ?_, ?_, ?_⟩, rfl⟩
  · simpa using hj.2.1
  · simpa using hj.2.2
  · rw [Table.contains, hbefore]
    rfl

end Graph

namespace Snapshot

/-! ## What a snapshot says -/

/-- A label among the rows marks the note, and all notes below, as archived. -/
def archives (s : Snapshot) (n : NoteId) : Bool :=
  s.readAttributes.any fun a => a.owner = n && a.archivesSubtree

/-- The branch places the note `n`, an existing one other than the root note, below an existing
one. -/
def places (s : Snapshot) (n : NoteId) (row : BranchRow) : Bool :=
  !row.isDeleted && row.child = n && n ≠ rootId && n ∈ s.noteIds && row.parent ∈ s.noteIds

/-- The notes that branches place a note below, in the order of the branches. -/
def parentsOf (s : Snapshot) (n : NoteId) : List NoteId :=
  addNew [] ((s.branches.filter (s.places n)).map BranchRow.parent)

/-- No branch before this row places the same note under the same parent. -/
def IsFirst (s : Snapshot) (row : BranchRow) : Prop := ∃ before after,
  s.branches = before ++ row :: after ∧
    ∀ b ∈ before, s.places row.child b = true → b.parent ≠ row.parent

/-- The attributes that stand on a note, in the order of their rows. -/
def ownedBy (s : Snapshot) (n : NoteId) : List AttributeId :=
  if n ∈ s.noteIds then (s.readAttributes.filter fun a => a.owner = n).map Attribute.id else []

/-- The attribute is described by a row, and its note exists. -/
def HasAttribute (s : Snapshot) (a : Attribute) : Prop :=
  a ∈ s.readAttributes ∧ a.owner ∈ s.noteIds

variable {s : Snapshot} {n p : NoteId} {row : BranchRow}

theorem places_iff : s.places n row = true ↔ row.isDeleted = false ∧ row.child = n ∧ n ≠ rootId ∧
    n ∈ s.noteIds ∧ row.parent ∈ s.noteIds := by
  simp [places, and_assoc]

theorem mem_parentsOf :
    p ∈ s.parentsOf n ↔ ∃ row ∈ s.branches, s.places n row = true ∧ row.parent = p := by
  simp [parentsOf, mem_addNew, and_assoc]

theorem IsFirst.mem (h : s.IsFirst row) : row ∈ s.branches := by
  obtain ⟨before, after, hsplit, -⟩ := h
  simp [hsplit]

/-- Parents and children by the rows are notes of the snapshot. -/
theorem mem_noteIds_of_mem_parentsOf (h : p ∈ s.parentsOf n) :
    n ∈ s.noteIds ∧ p ∈ s.noteIds := by
  obtain ⟨row, -, hplaces, rfl⟩ := mem_parentsOf.1 h
  obtain ⟨-, -, -, hn, hp⟩ := places_iff.1 hplaces
  exact ⟨hn, hp⟩

/-- A branch between a note and one of its parents places the note. -/
theorem places_of_mem_parentsOf (hlive : row.isDeleted = false)
    (h : row.parent ∈ s.parentsOf row.child) : s.places row.child row = true := by
  obtain ⟨row', -, hplaces, hp⟩ := mem_parentsOf.1 h
  obtain ⟨-, -, hroot, hn, hp'⟩ := places_iff.1 hplaces
  exact places_iff.2 ⟨hlive, rfl, hroot, hn, hp ▸ hp'⟩

end Snapshot

namespace Graph

variable {g g' : Graph} {s : Snapshot} {n : NoteId}

/-- The graph has the notes of the snapshot, with the parents and attributes that it says. -/
structure ReadsFrom (g : Graph) (s : Snapshot) : Prop where
  hasNote : ∀ n, g.hasNote n = true ↔ n ∈ s.noteIds
  parents : ∀ n, g.parents n = behind s.archives (s.parentsOf n)
  owned : ∀ n, g.owned n = s.ownedBy n
  stored : ∀ id a, g.attributes.get? id = some a ↔ s.HasAttribute a ∧ a.id = id

/-- Graphs that read from the same snapshot agree on all notes. -/
theorem ReadsFrom.agrees (h : g.ReadsFrom s) (h' : g'.ReadsFrom s) : g.Agrees g' Set.univ where
  hasNote n _ := by rw [Bool.eq_iff_iff, h.hasNote, h'.hasNote]
  parents n _ := by rw [h.parents, h'.parents]
  owned n _ := by rw [h.owned, h'.owned]
  stored _ _ id _ := Option.ext fun a => by rw [h.stored, h'.stored]

/-- An existing note archives the notes below exactly if a row says so. -/
theorem archivesSubtree_eq_archives (howned : g.owned n = s.ownedBy n)
    (hstored : ∀ id a, g.attributes.get? id = some a ↔ s.HasAttribute a ∧ a.id = id)
    (hn : n ∈ s.noteIds) :
    g.archivesSubtree n = s.archives n := by
  rw [Bool.eq_iff_iff, archivesSubtree, Snapshot.archives, howned, Snapshot.ownedBy, if_pos hn,
    List.any_map, List.any_filter, List.any_eq_true, List.any_eq_true]
  refine exists_congr fun a => and_congr_right fun ha => ?_
  by_cases howner : a.owner = n
  · have hget := (hstored a.id a).2 ⟨⟨ha, howner ▸ hn⟩, rfl⟩
    simp [howner, hget]
  · simp [howner]

/-- The parents in the graph are those that the rows say, in some order. -/
theorem ReadsFrom.mem_parents_iff (h : g.ReadsFrom s) {p : NoteId} :
    p ∈ g.parents n ↔ p ∈ s.parentsOf n := by
  rw [h.parents, mem_behind]

/-- A note archives those below in the graph exactly if its rows say so. -/
theorem ReadsFrom.archivesSubtree (h : g.ReadsFrom s) (hn : n ∈ s.noteIds) :
    g.archivesSubtree n = s.archives n :=
  archivesSubtree_eq_archives (h.owned n) h.stored hn

end Graph

namespace Vault

variable {v : Vault} {s : Snapshot} {a : Attribute} {row : BranchRow} {n m : NoteId}

/-! ## Loading a snapshot -/

/-- The stored attributes are the rows that stand on a note. -/
theorem attributes_ofSnapshot (hs : s.HasDistinctIds) {id : AttributeId} :
    (ofSnapshot s).graph.attributes.get? id = some a ↔ s.HasAttribute a ∧ a.id = id := by
  rw [(stores_ofSnapshot hs).attributes]
  constructor
  · rintro ⟨row, hrow, hfrom⟩
    obtain ⟨ha, hn⟩ := Option.filter_eq_some_iff.1 hfrom
    cases row with
    | ofAttribute row =>
      rw [Row.attribute?, Option.ite_none_right_eq_some] at ha
      obtain ⟨rfl, ha⟩ := ha
      obtain rfl := Option.some.inj ha
      have hmem : row ∈ s.attributes := by simpa [Snapshot.rows] using hrow
      exact ⟨⟨List.mem_map_of_mem hmem, hasNote_ofSnapshot.1 hn⟩, rfl⟩
    | ofNote => simp [Row.attribute?] at ha
    | ofBranch => simp [Row.attribute?] at ha
  · rintro ⟨⟨hmem, hn⟩, rfl⟩
    obtain ⟨row, hrow, rfl⟩ := List.mem_map.1 hmem
    refine ⟨.ofAttribute row, by simp [Snapshot.rows, hrow], ?_⟩
    refine Option.filter_eq_some_iff.2 ⟨if_pos rfl, ?_⟩
    exact hasNote_ofSnapshot.2 hn

/-- In a new vault each note has its attributes in the order of their rows. -/
theorem owned_ofSnapshot (s : Snapshot) (n : NoteId) :
    (ofSnapshot s).graph.owned n = s.ownedBy n := by
  rw [Snapshot.ownedBy]
  split_ifs with hn
  · rw [ofSnapshot, owned_load hn]
    simp only [eq_comm]
  · rw [Graph.owned, Graph.edges_of_unknown (mt hasNote_ofSnapshot.1 hn)]

/-- A note has no edges before the branches are added. -/
theorem parents_putNotes (s : Snapshot) (n : NoteId) :
    (Vault.empty.graph.putNotes s.notes).parents n = [] := by
  rw [Graph.parents, Graph.edges_putNotes]
  split_ifs <;> rfl

theorem placements_putNotes (s : Snapshot) :
    (Vault.empty.graph.putNotes s.notes).placements = ∅ :=
  Graph.putNotes_of Graph.placements (fun _ _ => rfl) _ _

theorem placesParents_putNotes (s : Snapshot) :
    (Vault.empty.graph.putNotes s.notes).PlacesParents := by
  intro c p
  rw [placements_putNotes, parents_putNotes]
  simp [Table.contains]

theorem places_iff_joinable_putNotes (hrow : row.isDeleted = false) :
    s.places n row = true ↔
      row.child = n ∧ (Vault.empty.graph.putNotes s.notes).Joinable (Branch.ofRow row) := by
  have hnote : ∀ n, (Vault.empty.graph.putNotes s.notes).hasNote n = true ↔ n ∈ s.noteIds := by
    intro n
    rw [Graph.hasNote_putNotes, Bool.or_eq_true, decide_eq_true_iff]
    exact or_iff_left Bool.false_ne_true
  rw [Snapshot.places_iff, Graph.Joinable, hnote, hnote, and_iff_right hrow]
  refine and_congr_right ?_
  rintro rfl
  rfl

/-- A note is placed below its parents in the order of the branches. -/
theorem parents_placedBy_empty (s : Snapshot) (n : NoteId) :
    (empty.placedBy s).parents n = s.parentsOf n := by
  have hrows : (s.branches.filter fun row => !row.isDeleted).filter ((fun b => b.child = n &&
      (Vault.empty.graph.putNotes s.notes).Joinable b) ∘ Branch.ofRow) =
        s.branches.filter (s.places n) := by
    rw [List.filter_filter]
    refine List.filter_congr fun row _ => ?_
    rw [Bool.eq_iff_iff]
    by_cases hdeleted : row.isDeleted = true
    · simp [hdeleted, Snapshot.places]
    · rw [Bool.not_eq_true] at hdeleted
      simp only [places_iff_joinable_putNotes hdeleted, hdeleted, Function.comp_apply,
        Bool.not_false, Bool.and_true, Bool.and_eq_true, decide_eq_true_eq]
      rfl
  rw [placedBy, (placesParents_putNotes s).parents_addBranches, parents_putNotes,
    Snapshot.liveBranches, List.filter_map, hrows, List.map_map]
  rfl

/-- **A note has the parents that its branches place it below**, in the order of the branches and
with the archived ones behind the others. -/
theorem parents_ofSnapshot (hs : s.HasDistinctIds) (n : NoteId) :
    (ofSnapshot s).graph.parents n = behind s.archives (s.parentsOf n) := by
  obtain ⟨ns, hns, heq⟩ := graph_load empty s
  let g := ((empty.placedBy s).sortAll s.placingNotes).attachAll s.readAttributes
  have hplaced : g.parents n = s.parentsOf n := by
    rw [Graph.attachAll_of (Graph.parents · n) (by simp),
      Graph.sortAll_of (Graph.parents · n) (by simp), parents_placedBy_empty]
  have harchives : g.archivesSubtree = (ofSnapshot s).graph.archivesSubtree := by
    refine funext fun p => (Graph.archivesSubtree_congr ?_ fun id _ => ?_).symm
    · rw [ofSnapshot, heq]
      exact Graph.resortAll_of (Graph.owned · p) (by simp) g ns
    · rw [ofSnapshot, heq]
      exact congrArg (·.get? id) (Graph.resortAll_of Graph.attributes (by simp) g ns)
  have hparents : (ofSnapshot s).graph.parents n = if n ∈ ns then
      behind g.archivesSubtree (s.parentsOf n) else s.parentsOf n := by
    rw [ofSnapshot, heq, ← hplaced]
    exact Graph.parents_foldl_resortParents_eq g ns n
  rw [hparents, harchives]
  split_ifs with hn
  · refine behind_congr fun p hp => ?_
    exact Graph.archivesSubtree_eq_archives (owned_ofSnapshot s p)
      (fun _ _ => attributes_ofSnapshot hs) (Snapshot.mem_noteIds_of_mem_parentsOf hp).2
  · -- an unknown note is placed nowhere
    have hnone : s.parentsOf n = [] := by
      refine List.eq_nil_iff_forall_not_mem.2 fun p hp => hn ?_
      rw [hns, hasNote_placedBy, Bool.or_eq_true, decide_eq_true_iff]
      exact Or.inl (Snapshot.mem_noteIds_of_mem_parentsOf hp).1
    rw [hnone]
    rfl

/-- **A loaded vault reads as its snapshot says.** -/
theorem readsFrom_ofSnapshot (hs : s.HasDistinctIds) : (ofSnapshot s).graph.ReadsFrom s where
  hasNote _ := hasNote_ofSnapshot
  parents := parents_ofSnapshot hs
  owned := owned_ofSnapshot s
  stored _ _ := attributes_ofSnapshot hs

theorem placesParents_ofSnapshot (hs : s.HasDistinctIds) : (ofSnapshot s).graph.PlacesParents := by
  have hlinked := linked_ofSnapshot hs.branches
  have hknown := (Reachable.ofSnapshot hs).of_isKept Graph.isKept_placesKnown
  exact fun _ _ => ⟨fun hcp => (edgesFollow_ofSnapshot hs.branches).placesJoined hlinked hknown hcp,
    fun hp => hlinked.parent_placed hp⟩

/-- The branches that are not deleted are stored. -/
theorem branches_ofSnapshot_of_mem (hs : s.HasDistinctIds) (hrow : row ∈ s.branches)
    (hlive : row.isDeleted = false) :
    (ofSnapshot s).graph.branches.get? row.id = some (Branch.ofRow row) := by
  refine ((stores_ofSnapshot hs).branches _ _).2 ⟨.ofBranch row, ?_, if_pos ⟨rfl, hlive⟩⟩
  simp [Snapshot.rows, hrow]

/-- The first of several branches between the same notes is looked up. -/
theorem placements_ofSnapshot (hfirst : s.IsFirst row) (hplaces : s.places row.child row = true) :
    (ofSnapshot s).graph.placements.get? (row.child, row.parent) = some row.id := by
  obtain ⟨before, after, hsplit, hfirst⟩ := hfirst
  obtain ⟨hlive, -, hroot, hchild, hparent⟩ := Snapshot.places_iff.1 hplaces
  have hbranches : s.liveBranches =
      (before.filter fun b => !b.isDeleted).map Branch.ofRow ++ Branch.ofRow row ::
        (after.filter fun b => !b.isDeleted).map Branch.ofRow := by
    rw [Snapshot.liveBranches, hsplit, List.filter_append, List.map_append,
      List.filter_cons_of_pos (by simpa using hlive), List.map_cons]
  rw [ofSnapshot, placements_load, placedBy, hbranches]
  refine Graph.get?_placements_addBranches_first (b := Branch.ofRow row)
    ((places_iff_joinable_putNotes hlive).1 hplaces).2 ?_ ?_
  · rw [placements_putNotes, Table.get?_empty]
  · intro b' hb' heq
    obtain ⟨b, hb, rfl⟩ := List.mem_map.1 hb'
    obtain ⟨hb, hdeleted⟩ := List.mem_filter.1 hb
    obtain ⟨hsame, hsame'⟩ := Prod.mk.inj heq
    refine hfirst b hb (Snapshot.places_iff.2 ⟨?_, hsame, hroot, hchild, ?_⟩) hsame'
    · simpa using hdeleted
    · rwa [show b.parent = row.parent from hsame']

end Vault

end Zettel
