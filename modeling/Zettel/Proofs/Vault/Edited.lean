import Zettel.Proofs.Vault.Loaded

/-!
# Rows that change in place of others

What a notification does to a graph that reads from a snapshot: the graph reads from an edited
snapshot afterwards. A note row stays where it is. An attribute row leaves its place, and the new
one comes in behind the others; since both put parents in order, the branch rows are then found in
the order in which the parents stood before. A branch row comes in behind the others as well, with
the rows between the same notes behind it.

Main statements: `readsFrom_deleteAttribute`, `readsFrom_upsertAttribute`, `ReadsFrom.renewNote` and
`readsFrom_upsertBranch`.
-/

namespace Zettel

/-! ## Edited snapshots -/

namespace Snapshot

variable {s s' : Snapshot} {n : NoteId} {row old : AttributeRow}

/-- The branch rows, with those under a note that archives the notes below behind the others. -/
def resettled (s : Snapshot) : List BranchRow := behind (s.archives ∘ BranchRow.parent) s.branches

/-- The snapshot without an attribute, and with its branches in the order in which it is read. -/
def withoutAttribute (s : Snapshot) (id : AttributeId) : Snapshot :=
  { s with attributes := s.attributes.filter (·.id ≠ id), branches := s.resettled }

/-- The snapshot with one attribute more, and with its branches in the order in which it is read. -/
def withAttribute (s : Snapshot) (row : AttributeRow) : Snapshot :=
  { s with attributes := s.attributes ++ [row], branches := s.resettled }

theorem places_congr (hnotes : s'.notes = s.notes) : s'.places n = s.places n := by
  funext row
  rw [places, places, noteIds, noteIds, hnotes]

/-- Branches in the order in which they are read give parents in this order. -/
theorem parentsOf_of_resettled (hnotes : s'.notes = s.notes) (hbranches : s'.branches = s.resettled)
    (n : NoteId) : s'.parentsOf n = behind s.archives (s.parentsOf n) := by
  rw [parentsOf, parentsOf, hbranches, resettled, places_congr hnotes, filter_behind, map_behind,
    addNew_behind]

/-- Without the attribute the parents are put in order anew, those that archive behind the
others. -/
theorem parentsOf_withoutAttribute (s : Snapshot) (id : AttributeId) (n : NoteId) :
    (s.withoutAttribute id).parentsOf n = behind s.archives (s.parentsOf n) := by
  refine parentsOf_of_resettled ?_ ?_ n <;> rfl

/-- The same goes for an attribute more. -/
theorem parentsOf_withAttribute (s : Snapshot) (row : AttributeRow) (n : NoteId) :
    (s.withAttribute row).parentsOf n = behind s.archives (s.parentsOf n) := by
  refine parentsOf_of_resettled ?_ ?_ n <;> rfl

/-- An id stands for one row, so the attribute with that id is that of the row. -/
theorem eq_of_mem_readAttributes (hs : (s.attributes.map AttributeRow.id).Nodup)
    (hold : old ∈ s.attributes) {a : Attribute} (ha : a ∈ s.readAttributes) (hid : a.id = old.id) :
    a = Attribute.ofRow old := by
  obtain ⟨row, hrow, rfl⟩ := List.mem_map.1 ha
  rw [List.inj_on_of_nodup_map hs hrow hold hid]

theorem readAttributes_withoutAttribute (s : Snapshot) (id : AttributeId) :
    (s.withoutAttribute id).readAttributes = s.readAttributes.filter (·.id ≠ id) := by
  rw [readAttributes, readAttributes, List.filter_map]
  rfl

theorem readAttributes_withAttribute (s : Snapshot) (row : AttributeRow) :
    (s.withAttribute row).readAttributes = s.readAttributes ++ [Attribute.ofRow row] :=
  List.map_append

/-- The snapshot describes all attributes but the one that it goes without. -/
theorem hasAttribute_withoutAttribute {id : AttributeId} {a : Attribute} :
    (s.withoutAttribute id).HasAttribute a ↔ s.HasAttribute a ∧ a.id ≠ id := by
  rw [HasAttribute, readAttributes_withoutAttribute, List.mem_filter, decide_eq_true_iff]
  exact and_right_comm

theorem hasAttribute_withAttribute {a : Attribute} : (s.withAttribute row).HasAttribute a ↔
    s.HasAttribute a ∨ a = Attribute.ofRow row ∧ row.owner ∈ s.noteIds := by
  have hnotes : (s.withAttribute row).noteIds = s.noteIds := rfl
  rw [HasAttribute, readAttributes_withAttribute, hnotes, List.mem_append, List.mem_singleton,
    or_and_right]
  refine or_congr_right (and_congr_right ?_)
  rintro rfl
  rfl

theorem ownedBy_withoutAttribute (id : AttributeId) (n : NoteId) :
    (s.withoutAttribute id).ownedBy n = (s.ownedBy n).filter (· ≠ id) := by
  have hnotes : (s.withoutAttribute id).noteIds = s.noteIds := rfl
  rw [ownedBy, ownedBy, readAttributes_withoutAttribute, hnotes]
  split_ifs
  · rw [List.filter_map, List.filter_comm]
    rfl
  · rfl

theorem ownedBy_withAttribute (row : AttributeRow) (n : NoteId) :
    (s.withAttribute row).ownedBy n =
      if row.owner = n ∧ n ∈ s.noteIds then s.ownedBy n ++ [row.id] else s.ownedBy n := by
  have hnotes : (s.withAttribute row).noteIds = s.noteIds := rfl
  have howner : (Attribute.ofRow row).owner = row.owner := rfl
  have hid : (Attribute.ofRow row).id = row.id := rfl
  rw [ownedBy, ownedBy, readAttributes_withAttribute, hnotes, List.filter_append, List.map_append]
  by_cases hn : n ∈ s.noteIds
  · by_cases hrow : row.owner = n <;> simp [hn, hrow, howner, hid]
  · simp [hn]

/-- An attribute has no bearing on whether other notes archive the notes below. -/
theorem archives_withoutAttribute (hs : (s.attributes.map AttributeRow.id).Nodup)
    (hold : old ∈ s.attributes)
    (hn : ((Attribute.ofRow old).archivesSubtree && decide (old.owner = n)) = false) :
    (s.withoutAttribute old.id).archives n = s.archives n := by
  rw [archives, archives, readAttributes_withoutAttribute, List.any_filter, Bool.eq_iff_iff,
    List.any_eq_true, List.any_eq_true]
  refine exists_congr fun a => and_congr_right fun ha => ?_
  rw [Bool.and_eq_true, decide_eq_true_iff]
  refine and_iff_right_of_imp fun harchives hid => ?_
  obtain rfl := eq_of_mem_readAttributes hs hold ha hid
  rw [Bool.and_comm] at harchives
  exact Bool.false_ne_true (hn.symm.trans harchives)

/-- Who archives does not change with an attribute that does not archive. -/
theorem archives_withAttribute
    (hn : ((Attribute.ofRow row).archivesSubtree && decide (row.owner = n)) = false) :
    (s.withAttribute row).archives n = s.archives n := by
  rw [Bool.and_comm] at hn
  rw [archives, archives, readAttributes_withAttribute, List.any_append, List.any_cons,
    List.any_nil, Bool.or_false]
  exact (congrArg (_ || ·) hn).trans (Bool.or_false _)

end Snapshot

namespace Graph

variable {g g' : Graph} {s s' : Snapshot} {a : Attribute} {n : NoteId}

/-! ## Attributes -/

/-- Parents that are in order stay so, where no other notes archive the notes below. -/
theorem ReadsFrom.parents_eq (h : g.ReadsFrom s)
    (harchives : ∀ p ∈ g.parents n, s'.archives p = s.archives p) :
    g.parents n = behind s'.archives (behind s.archives (s.parentsOf n)) := by
  rw [h.parents] at harchives ⊢
  rw [behind_congr harchives, behind_behind]

section Changed

variable (h : g.ReadsFrom s) (hg : g.Linked) (hnotes : s'.notes = s.notes)
  (hbranches : s'.branches = s.resettled)
  (hsame : ∀ p, (a.archivesSubtree && decide (a.owner = p)) = false → s'.archives p = s.archives p)
include h hg hnotes hbranches hsame

/-- A change of an attribute puts the parents below its owner in order, from the order that they
have. -/
theorem ReadsFrom.resortBelow (hknown : ∀ n, g'.hasNote n = g.hasNote n)
    (hparents : ∀ n, g'.parents n = g.parents n)
    (hchildren : g'.children a.owner = g.children a.owner)
    (howned : ∀ n, g'.owned n = s'.ownedBy n)
    (hstored : ∀ id a', g'.attributes.get? id = some a' ↔ s'.HasAttribute a' ∧ a'.id = id) :
    (g'.resortBelow a).ReadsFrom s' where
  hasNote n := by
    rw [hasNote_resortBelow, hknown, Snapshot.noteIds, hnotes]
    exact h.hasNote n
  parents n := by
    rw [parents_resortBelow_eq, hparents, hchildren,
      Snapshot.parentsOf_of_resettled hnotes hbranches]
    simp only [hg.mirror]
    split_ifs with hbelow
    · rw [← h.parents]
      refine behind_congr fun p hp => archivesSubtree_eq_archives (howned p) hstored ?_
      rw [Snapshot.noteIds, hnotes]
      exact (h.hasNote p).1 (hg.parent_known hp)
    · -- the attribute archives nothing, or its owner is not among the parents
      refine h.parents_eq fun p hp => hsame p ?_
      rw [Bool.and_eq_false_iff, decide_eq_false_iff_not]
      by_contra hboth
      rw [not_or, Bool.not_eq_false, not_not] at hboth
      obtain ⟨ha, rfl⟩ := hboth
      rw [Attribute.archivesSubtree, Bool.and_eq_true] at ha
      exact hbelow ⟨ha.1, hp⟩
  owned n := by rw [owned_resortBelow, howned]
  stored := by rwa [attributes_resortBelow]

/-- An attribute of an unknown note archives no parents. -/
theorem ReadsFrom.of_unknown (hn : a.owner ∉ s.noteIds)
    (howned : ∀ n, g.owned n = s'.ownedBy n)
    (hstored : ∀ id a', g.attributes.get? id = some a' ↔ s'.HasAttribute a' ∧ a'.id = id) :
    g.ReadsFrom s' where
  hasNote n := by
    rw [Snapshot.noteIds, hnotes]
    exact h.hasNote n
  parents n := by
    rw [Snapshot.parentsOf_of_resettled hnotes hbranches]
    refine h.parents_eq fun p hp => hsame p ?_
    have hother : a.owner ≠ p := by
      rintro rfl
      exact hn ((h.hasNote _).1 (hg.parent_known hp))
    rw [decide_eq_false hother, Bool.and_false]
  owned := howned
  stored := hstored

end Changed

/-- Without the attribute, what is stored is what the other rows describe. -/
theorem ReadsFrom.get?_erase_iff (h : g.ReadsFrom s) (deleted id : AttributeId) (a : Attribute) :
    (g.attributes.erase deleted).get? id = some a ↔
      (s.withoutAttribute deleted).HasAttribute a ∧ a.id = id := by
  rw [Snapshot.hasAttribute_withoutAttribute, Table.get?_erase, and_assoc]
  split_ifs with hid
  · simp +contextual [hid]
  · rw [h.stored]
    refine and_congr_right fun _ => (and_iff_right_of_imp ?_).symm
    rintro rfl
    exact hid

/-- Without the attribute, the lists of other notes stay the same. -/
theorem ReadsFrom.ownedBy_withoutAttribute_eq (h : g.ReadsFrom s) (hg : g.Consistent)
    {deleted : AttributeId} (hother : ∀ a, g.attributes.get? deleted = some a → a.owner ≠ n) :
    (s.withoutAttribute deleted).ownedBy n = g.owned n := by
  rw [Snapshot.ownedBy_withoutAttribute, ← h.owned]
  refine List.filter_eq_self.2 fun id hid => ?_
  obtain ⟨a, ha, rfl⟩ := hg.owned_stored hid
  rw [decide_eq_true_iff]
  rintro rfl
  exact hother a ha rfl

/-- Nothing is stored under the id of a row whose note does not exist. -/
theorem ReadsFrom.get?_of_unknown (h : g.ReadsFrom s)
    (hs : (s.attributes.map AttributeRow.id).Nodup) {old : AttributeRow} (hold : old ∈ s.attributes)
    (hn : old.owner ∉ s.noteIds) : g.attributes.get? old.id = none := by
  refine Option.eq_none_iff_forall_ne_some.2 fun a ha => hn ?_
  obtain ⟨⟨hmem, howner⟩, hid⟩ := (h.stored _ a).1 ha
  rwa [Snapshot.eq_of_mem_readAttributes hs hold hmem hid] at howner

/-- Under an id that no row has there is nothing. -/
theorem ReadsFrom.get?_of_free (h : g.ReadsFrom s) {id : AttributeId}
    (hfree : id ∉ s.attributes.map AttributeRow.id) : g.attributes.get? id = none := by
  refine Option.eq_none_iff_forall_ne_some.2 fun a ha => hfree ?_
  obtain ⟨⟨hmem, -⟩, rfl⟩ := (h.stored _ a).1 ha
  obtain ⟨row, hrow, rfl⟩ := List.mem_map.1 hmem
  exact List.mem_map_of_mem hrow

end Graph

open Zettel.Graph

namespace Vault

variable {v : Vault} {s : Snapshot} {old row : AttributeRow} {n : NoteId}

/-- **When an attribute leaves, the graph reads as if its row had not been there.** -/
theorem readsFrom_deleteAttribute (h : v.graph.ReadsFrom s) (hg : v.graph.Consistent)
    (hs : (s.attributes.map AttributeRow.id).Nodup) (hold : old ∈ s.attributes) :
    (v.deleteAttribute old.id).graph.ReadsFrom (s.withoutAttribute old.id) := by
  let a := Attribute.ofRow old
  have hsame : ∀ p, (a.archivesSubtree && decide (a.owner = p)) = false →
      (s.withoutAttribute old.id).archives p = s.archives p := fun p hp =>
    Snapshot.archives_withoutAttribute hs hold hp
  by_cases hn : old.owner ∈ s.noteIds
  · have hget : v.graph.attributes.get? a.id = some a :=
      (h.stored _ a).2 ⟨⟨List.mem_map_of_mem hold, hn⟩, rfl⟩
    have howned : ∀ n, (v.graph.removeAttribute a).owned n =
        (s.withoutAttribute old.id).ownedBy n := by
      intro n
      rw [owned_removeAttribute]
      split_ifs with hrow
      · rw [Snapshot.ownedBy_withoutAttribute, ← h.owned]
        rfl
      · refine (h.ownedBy_withoutAttribute_eq hg fun a' ha' => ?_).symm
        obtain rfl := Option.some.inj (hget.symm.trans ha')
        exact Ne.symm hrow
    rw [show v.deleteAttribute old.id = _ from deleteAttribute_of_some hget]
    refine h.resortBelow hg.toLinked rfl rfl hsame (fun n => by simp) (fun n => by simp) (by simp)
      howned ?_
    rw [attributes_removeAttribute]
    exact h.get?_erase_iff old.id
  · have hnone := h.get?_of_unknown hs hold hn
    rw [deleteAttribute_of_none hnone]
    refine h.of_unknown hg.toLinked rfl rfl hsame hn (fun n => ?_) fun id a' => ?_
    · refine (h.ownedBy_withoutAttribute_eq hg fun a' ha' => ?_).symm
      exact absurd (hnone.symm.trans ha') (Option.some_ne_none a').symm
    · rw [← h.get?_erase_iff, Table.get?_erase]
      split_ifs with hid
      · simp [hid, hnone]
      · rfl

/-- **When a new attribute comes, the graph reads as if its row had been the last.** -/
theorem readsFrom_upsertAttribute (h : v.graph.ReadsFrom s) (hg : v.graph.Consistent)
    (hfree : row.id ∉ s.attributes.map AttributeRow.id) :
    (v.upsertAttribute row).graph.ReadsFrom (s.withAttribute row) := by
  let a := Attribute.ofRow row
  have hnone := h.get?_of_free hfree
  have hsame : ∀ p, (a.archivesSubtree && decide (a.owner = p)) = false →
      (s.withAttribute row).archives p = s.archives p := fun p hp =>
    Snapshot.archives_withAttribute hp
  by_cases hn : row.owner ∈ s.noteIds
  · have hknown : v.graph.hasNote a.owner = true := (h.hasNote _).2 hn
    have hgraph : (v.upsertAttribute row).graph = (v.graph.attach a).resortBelow a := by
      rw [upsertAttribute_eq, deleteAttribute_of_none hnone]
      exact congrArg Vault.graph (if_pos hknown)
    have howned : ∀ n, (v.graph.attach a).owned n = (s.withAttribute row).ownedBy n := by
      intro n
      rw [owned_attach hknown, Snapshot.ownedBy_withAttribute, h.owned]
      refine if_congr ?_ rfl rfl
      rw [eq_comm]
      exact (and_iff_left_of_imp fun hrow => hrow ▸ hn).symm
    rw [hgraph]
    refine h.resortBelow hg.toLinked rfl rfl hsame (fun n => by simp) (fun n => by simp) (by simp)
      howned fun id a' => ?_
    rw [attributes_attach, Snapshot.hasAttribute_withAttribute, Table.get?_insert, or_and_right,
      ← h.stored]
    split_ifs with hid
    · rw [hid, show v.graph.attributes.get? a.id = none from hnone]
      simp +contextual [hn, eq_comm, a]
    · refine (or_iff_left ?_).symm
      rintro ⟨⟨rfl, -⟩, rfl⟩
      exact hid rfl
  · have hunknown : ¬v.graph.hasNote row.owner = true := mt (h.hasNote _).1 hn
    rw [upsertAttribute_of_unknown hunknown, deleteAttribute_of_none hnone]
    refine h.of_unknown hg.toLinked rfl rfl hsame hn (fun n => ?_) fun id a' => ?_
    · rw [Snapshot.ownedBy_withAttribute, if_neg, h.owned]
      rintro ⟨rfl, hmem⟩
      exact hn hmem
    · rw [h.stored, Snapshot.hasAttribute_withAttribute]
      simp [hn]

end Vault

/-! ## Notes -/

/-- The snapshot with a note row in place of the one with the same id. -/
def Snapshot.withNote (s : Snapshot) (row : NoteRow) : Snapshot :=
  { s with notes := s.notes.map fun old => if old.id = row.id then row else old }

theorem Snapshot.noteIds_withNote (s : Snapshot) (row : NoteRow) :
    (s.withNote row).noteIds = s.noteIds := by
  rw [noteIds, noteIds, withNote, List.map_map]
  refine List.map_congr_left fun old _ => ?_
  rw [Function.comp_apply]
  split_ifs with hid
  · exact hid.symm
  · rfl

/-- **A note that is renewed keeps what is read of it.** -/
theorem Graph.ReadsFrom.renewNote {g : Graph} {s : Snapshot} (h : g.ReadsFrom s) {row : NoteRow}
    (hn : row.id ∈ s.noteIds) : (g.renewNote row).ReadsFrom (s.withNote row) := by
  have hids := s.noteIds_withNote row
  have hplaces : ∀ n, (s.withNote row).places n = s.places n := by
    intro n
    funext b
    rw [Snapshot.places, Snapshot.places, hids]
  constructor
  · intro n
    rw [hasNote_renewNote ((h.hasNote _).2 hn), hids]
    exact h.hasNote n
  · intro n
    rw [Graph.parents, edges_renewNote, Snapshot.parentsOf, hplaces]
    exact h.parents n
  · intro n
    rw [Graph.owned, edges_renewNote, Snapshot.ownedBy, hids]
    exact h.owned n
  · intro id a
    rw [Snapshot.HasAttribute, hids]
    exact h.stored id a

/-! ## Branches -/

/-- The other branch is between the same notes. -/
def BranchRow.sharesPlace (row other : BranchRow) : Bool :=
  other.child = row.child && other.parent = row.parent

/-- Two rows share a place if child and parent are the same. -/
theorem BranchRow.sharesPlace_iff {row other : BranchRow} : row.sharesPlace other = true ↔
    other.child = row.child ∧ other.parent = row.parent := by
  simp [sharesPlace]

namespace Snapshot

variable {s : Snapshot} {row b : BranchRow} {n : NoteId}

/-- The snapshot with a branch row in place of the one with the same id, and with all branches
between its notes at the end, this one first. -/
def withBranch (s : Snapshot) (row : BranchRow) : Snapshot :=
  { s with branches := s.branches.filter (!row.sharesPlace ·) ++
      row :: s.branches.filter fun b => row.sharesPlace b && b.id ≠ row.id }

theorem branches_withBranch (s : Snapshot) (row : BranchRow) : (s.withBranch row).branches =
    s.branches.filter (!row.sharesPlace ·) ++
      row :: s.branches.filter fun b => row.sharesPlace b && b.id ≠ row.id := rfl

/-- What a row places does not depend on the other rows. -/
theorem places_withBranch (s : Snapshot) (row : BranchRow) (n : NoteId) :
    (s.withBranch row).places n = s.places n := places_congr rfl

/-- Branches between the same notes place the same note. -/
theorem places_of_sharesPlace (hrow : row.isDeleted = false) (hshares : row.sharesPlace b = true)
    (h : s.places n b = true) : n = row.child ∧ s.places n row = true := by
  obtain ⟨hchild, hparent⟩ := BranchRow.sharesPlace_iff.1 hshares
  obtain ⟨-, hc, hroot, hn, hp⟩ := places_iff.1 h
  exact ⟨hc.symm.trans hchild,
    places_iff.2 ⟨hrow, hchild.symm.trans hc, hroot, hn, hparent ▸ hp⟩⟩

/-- The upper note of the branch becomes the last parent of the lower one. -/
theorem parentsOf_withBranch (hplaces : s.places row.child row = true) :
    (s.withBranch row).parentsOf row.child =
      (s.parentsOf row.child).filter (· ≠ row.parent) ++ [row.parent] := by
  have hothers : ((s.branches.filter (!row.sharesPlace ·)).filter (s.places row.child)).map
      BranchRow.parent = ((s.branches.filter (s.places row.child)).map BranchRow.parent).filter
        (· ≠ row.parent) := by
    rw [List.filter_map, List.filter_comm]
    refine congrArg _ (List.filter_congr fun b hb => ?_)
    have hchild := (places_iff.1 (List.mem_filter.1 hb).2).2.1
    simp [BranchRow.sharesPlace, hchild]
  have hsame : ∀ p ∈ ((s.branches.filter fun b => row.sharesPlace b && b.id ≠ row.id).filter
      (s.places row.child)).map BranchRow.parent, p = row.parent := by
    intro p hp
    obtain ⟨b, hb, rfl⟩ := List.mem_map.1 hp
    have hshares := (List.mem_filter.1 (List.mem_filter.1 hb).1).2
    rw [Bool.and_eq_true] at hshares
    exact (BranchRow.sharesPlace_iff.1 hshares.1).2
  have hnew : row.parent ∉ (s.parentsOf row.child).filter (· ≠ row.parent) := by simp
  have hstep : ∀ seen rest : List NoteId, row.parent ∉ seen →
      addNew seen (row.parent :: rest) = addNew (seen ++ [row.parent]) rest := by
    intro seen rest hseen
    exact congrArg (rest.foldl _ ·) (if_neg (by simpa using hseen))
  rw [parentsOf, branches_withBranch, places_withBranch, List.filter_append,
    List.filter_cons_of_pos hplaces, List.map_append, List.map_cons, addNew_append, hothers,
    show addNew [] _ = (s.parentsOf row.child).filter (· ≠ row.parent) from
      addNew_filter (· ≠ row.parent) [] _, hstep _ _ hnew]
  refine addNew_of_subset fun p hp => ?_
  rw [hsame p hp]
  exact List.mem_append_right _ List.mem_cons_self

/-- Where the branch places nothing, all parents stay. -/
theorem parentsOf_withBranch_of_not_places (hrow : row.isDeleted = false)
    (hplaces : ¬s.places n row = true) : (s.withBranch row).parentsOf n = s.parentsOf n := by
  have hnone : ∀ b, s.places n b = true → row.sharesPlace b = false := by
    intro b hb
    rw [← Bool.not_eq_true]
    exact fun hshares => hplaces (places_of_sharesPlace hrow hshares hb).2
  have hothers : (s.branches.filter (!row.sharesPlace ·)).filter (s.places n) =
      s.branches.filter (s.places n) := by
    rw [List.filter_filter]
    refine List.filter_congr fun b _ => ?_
    cases hb : s.places n b with
    | true => simp [hnone b hb]
    | false => rfl
  have hsame : (s.branches.filter fun b => row.sharesPlace b && b.id ≠ row.id).filter
      (s.places n) = [] := by
    refine List.filter_eq_nil_iff.2 fun b hb hplaced => ?_
    have hshares := (List.mem_filter.1 hb).2
    rw [hnone b hplaced] at hshares
    exact Bool.false_ne_true hshares
  rw [parentsOf, parentsOf, branches_withBranch, places_withBranch, List.filter_append,
    List.filter_cons_of_neg hplaces, hothers, hsame, List.append_nil]

end Snapshot

namespace Graph

variable {g : Graph} {s : Snapshot} {b : Branch} {row : BranchRow}

section Replaced

variable (h : g.ReadsFrom s) (hg : g.Linked) (herased : (g.eraseBranch b).PlacesParents)
  (hchild : b.child = row.child) (hparent : b.parent = row.parent) (hrow : row.isDeleted = false)
include h hg herased hchild hparent hrow

/-- Where the branch places the note, its parent comes last; elsewhere nothing is lost. -/
theorem ReadsFrom.parents_addBranch_eraseBranch (n : NoteId) :
    ((g.eraseBranch b).addBranch (Branch.ofRow row)).parents n =
      if s.places n row then (g.parents n).filter (· ≠ row.parent) ++ [row.parent]
      else g.parents n := by
  have hjoins : ((Branch.ofRow row).child = n ∧ (g.eraseBranch b).Joinable (Branch.ofRow row)) ↔
      s.places n row = true := by
    rw [Snapshot.places_iff, and_iff_right hrow, Joinable, hasNote_eraseBranch,
      hasNote_eraseBranch, h.hasNote, h.hasNote]
    refine and_congr_right ?_
    rintro rfl
    rfl
  have hparents : (g.eraseBranch b).parents n =
      if n = row.child then (g.parents n).filter (· ≠ row.parent) else g.parents n := by
    rw [parents_eraseBranch, (hg.nodup_parents n).erase_eq_filter, hchild, hparent]
    refine if_congr Iff.rfl (List.filter_congr fun p _ => ?_) rfl
    rw [Bool.eq_iff_iff, bne_iff_ne, decide_eq_true_iff]
  rw [herased.parents_addBranch, hparents]
  by_cases hn : s.places n row = true
  · obtain rfl := (Snapshot.places_iff.1 hn).2.1
    rw [if_pos rfl, if_pos hn, List.filter_cons_of_pos (by simpa using hjoins.2 hn)]
    exact if_neg (by simp [Branch.ofRow])
  · rw [if_neg hn, List.filter_cons_of_neg (by simpa using mt hjoins.1 hn)]
    refine ite_eq_right_iff.2 ?_
    rintro rfl
    refine List.filter_eq_self.2 fun p hp => ?_
    rw [decide_eq_true_iff]
    rintro rfl
    exact hn (Snapshot.places_of_mem_parentsOf hrow (h.mem_parents_iff.1 hp))

/-- The parents are in order afterwards. -/
theorem ReadsFrom.parents_placeBranch (n : NoteId) :
    (Vault.placeBranch (g.eraseBranch b) row).parents n = behind s.archives
      (if s.places n row then (g.parents n).filter (· ≠ row.parent) ++ [row.parent]
        else g.parents n) := by
  have hknown : ∀ p ∈ g.parents n, p ∈ s.noteIds := fun p hp =>
    (Snapshot.mem_noteIds_of_mem_parentsOf (h.mem_parents_iff.1 hp)).2
  rw [Vault.placeBranch, parents_resortParents, parents_sortChildren,
    h.parents_addBranch_eraseBranch hg herased hchild hparent hrow]
  by_cases hn : n = row.child
  · rw [if_pos hn]
    refine behind_congr fun p hp => ?_
    refine (archivesSubtree_congr (by simp) (by simp)).trans (h.archivesSubtree ?_)
    split_ifs at hp with hplaces
    · rcases List.mem_append.1 hp with hp | hp
      · exact hknown p (List.mem_of_mem_filter hp)
      · rw [List.mem_singleton.1 hp]
        exact (Snapshot.places_iff.1 hplaces).2.2.2.2
    · exact hknown p hp
  · have hnot : ¬s.places n row = true := fun hplaces =>
      hn (Snapshot.places_iff.1 hplaces).2.1.symm
    rw [if_neg hn, if_neg hnot, h.parents, behind_behind]

/-- Without the old branch and with the new one the graph reads from the edited snapshot. -/
theorem ReadsFrom.placeBranch :
    (Vault.placeBranch (g.eraseBranch b) row).ReadsFrom (s.withBranch row) where
  hasNote n := by
    rw [hasNote_placeBranch, hasNote_eraseBranch]
    exact h.hasNote n
  parents n := by
    rw [h.parents_placeBranch hg herased hchild hparent hrow, h.parents]
    split_ifs with hn
    · obtain rfl := (Snapshot.places_iff.1 hn).2.1
      rw [filter_behind, behind_behind_append, Snapshot.parentsOf_withBranch hn]
      rfl
    · rw [behind_behind, Snapshot.parentsOf_withBranch_of_not_places hrow hn]
      rfl
  owned n := by
    rw [Vault.placeBranch, owned_resortParents, owned_sortChildren, owned_addBranch,
      owned_eraseBranch]
    exact h.owned n
  stored id a := by
    rw [Vault.placeBranch, attributes_resortParents, attributes_sortChildren,
      attributes_addBranch, attributes_eraseBranch]
    exact h.stored id a

end Replaced

end Graph

namespace Vault

variable {s : Snapshot} {old row : BranchRow}

/-- **When a branch comes in place of one that is looked up, the graph reads as if its row had come
behind those between other notes.** -/
theorem readsFrom_upsertBranch (hs : s.HasDistinctIds) (hold : s.IsFirst old)
    (hlive : old.isDeleted = false) (hid : old.id = row.id) (hshares : row.sharesPlace old = true)
    (hrow : row.isDeleted = false) :
    ((ofSnapshot s).upsertBranch row).graph.ReadsFrom (s.withBranch row) := by
  obtain ⟨hchild, hparent⟩ := BranchRow.sharesPlace_iff.1 hshares
  let g := (ofSnapshot s).graph
  let b := Branch.ofRow old
  have h : g.ReadsFrom s := readsFrom_ofSnapshot hs
  have hg : g.Linked := linked_ofSnapshot hs.branches
  have hget : g.branches.get? b.id = some b :=
    branches_ofSnapshot_of_mem hs hold.mem hlive
  have hgraph : ((ofSnapshot s).upsertBranch row).graph = placeBranch (g.eraseBranch b) row := by
    rw [upsertBranch_eq, ← hid, show (ofSnapshot s).deleteBranch old.id = _ from
      deleteBranch_of_some hget, hrow]
    rfl
  have herased : (g.eraseBranch b).PlacesParents := by
    refine (placesParents_ofSnapshot hs).eraseBranch hg hget fun hp => ?_
    exact placements_ofSnapshot hold
      (Snapshot.places_of_mem_parentsOf hlive (h.mem_parents_iff.1 hp))
  rw [hgraph]
  exact h.placeBranch hg herased hchild hparent hrow

end Vault

end Zettel
