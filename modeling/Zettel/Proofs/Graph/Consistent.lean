import Zettel.Proofs.Graph.Attachment

/-!
# Consistent graphs

In a consistent graph the edges follow the tables: notes are joined by branches that are stored, and
own the attributes that are stored for them. Every change of the graph keeps it consistent, as long
as ids are not used twice and a note leaves after its branches and attributes.
-/

namespace Zettel.Graph

/-! ## The invariant -/

/-- Branches and attributes are stored under their own ids. -/
structure Keyed (g : Graph) : Prop where
  branch_id : ∀ ⦃id b⦄, g.branches.get? id = some b → b.id = id
  attribute_id : ∀ ⦃id a⦄, g.attributes.get? id = some a → a.id = id

/-- The edges between notes follow stored branches. -/
structure Linked (g : Graph) : Prop where
  branch_id : ∀ ⦃id b⦄, g.branches.get? id = some b → b.id = id
  placed : ∀ ⦃c p id⦄, g.placements.get? (c, p) = some id →
    ∃ b, g.branches.get? id = some b ∧ b.child = c ∧ b.parent = p
  parent_placed : ∀ ⦃c p⦄, p ∈ g.parents c → g.placements.contains (c, p) = true
  parent_known : ∀ ⦃c p⦄, p ∈ g.parents c → g.hasNote p = true
  rootless : g.parents rootId = []
  mirror : ∀ ⦃c p⦄, c ∈ g.children p ↔ p ∈ g.parents c
  nodup_parents : ∀ n, (g.parents n).Nodup
  nodup_children : ∀ n, (g.children n).Nodup
  parentBranch_stored : ∀ ⦃n id⦄, id ∈ g.parentBranches n →
    ∃ b, g.branches.get? id = some b ∧ b.child = n

/-- Notes own the attributes that are stored for them. -/
structure Attached (g : Graph) : Prop where
  attribute_id : ∀ ⦃id a⦄, g.attributes.get? id = some a → a.id = id
  owner : ∀ ⦃id a⦄, g.attributes.get? id = some a → id ∈ g.owned a.owner
  owned_stored : ∀ ⦃n id⦄, id ∈ g.owned n → ∃ a, g.attributes.get? id = some a ∧ a.owner = n

/-- The edges follow the tables. -/
structure Consistent (g : Graph) : Prop extends g.Linked, g.Attached where
  noted : ∀ ⦃id b⦄, g.branches.get? id = some b → g.hasNote b.child = true →
    id ∈ g.parentBranches b.child
  pointed : ∀ ⦃id a t⦄, g.attributes.get? id = some a → a.target? = some t →
    g.hasNote t = true → id ∈ g.incoming t

variable {g g' : Graph} {b : Branch} {a : Attribute} {n : NoteId}

/-- Whether rows stand under their ids depends on the two tables only. -/
theorem Keyed.of_eq (h : g.Keyed) (hbranches : g'.branches = g.branches)
    (hattributes : g'.attributes = g.attributes) : g'.Keyed :=
  ⟨hbranches ▸ h.branch_id, hattributes ▸ h.attribute_id⟩

theorem Consistent.keyed (h : g.Consistent) : g.Keyed := ⟨h.branch_id, h.attribute_id⟩

/-- The look-up finds the branch between a note and a parent of it. -/
theorem Linked.branchBetween?_of_mem_parents (h : g.Linked) {c p : NoteId}
    (hp : p ∈ g.parents c) : ∃ b, g.branchBetween? c p = some b ∧ b.child = c ∧ b.parent = p := by
  have hplaced := h.parent_placed hp
  rw [Table.contains, Option.isSome_iff_exists] at hplaced
  obtain ⟨id, hid⟩ := hplaced
  obtain ⟨b, hb, hends⟩ := h.placed hid
  exact ⟨b, by rw [branchBetween?, hid, Option.bind_some, hb], hends⟩

/-- Every edge between two notes comes from a branch that is stored. -/
theorem Linked.placement_stored (h : g.Linked) {c p : NoteId} (hp : p ∈ g.parents c) :
    ∃ id b, g.branches.get? id = some b ∧ b.child = c ∧ b.parent = p := by
  obtain ⟨b, hb, hends⟩ := h.branchBetween?_of_mem_parents hp
  obtain ⟨id, -, hid⟩ := Option.bind_eq_some_iff.1 hb
  exact ⟨id, b, hid, hends⟩

/-- Nothing is placed above the root note. -/
theorem Linked.child_ne_root (h : g.Linked) {c p : NoteId} (hp : p ∈ g.parents c) :
    c ≠ rootId := by
  rintro rfl
  rw [h.rootless] at hp
  exact absurd hp (by simp)

/-- A branch is noted on its child exactly if both are stored. -/
theorem Consistent.mem_parentBranches_iff (h : g.Consistent) {id : BranchId} :
    id ∈ g.parentBranches n ↔
      g.hasNote n = true ∧ ∃ b, g.branches.get? id = some b ∧ b.child = n := by
  constructor
  · intro hid
    exact ⟨hasNote_of_mem_parentBranches hid, h.parentBranch_stored hid⟩
  · rintro ⟨hn, b, hb, rfl⟩
    exact h.noted hb hn

/-! ## Order -/

/-- The order of parents and children has no bearing on the branches. -/
theorem Linked.of_perm (h : g.Linked)
    (hnote : ∀ c p, p ∈ g.parents c → g.hasNote p = true → g'.hasNote p = true)
    (hbranches : g'.branches = g.branches) (hplacements : g'.placements = g.placements)
    (hparents : ∀ n, (g'.parents n).Perm (g.parents n))
    (hchildren : ∀ n, (g'.children n).Perm (g.children n))
    (hnoted : ∀ n, g'.parentBranches n = g.parentBranches n) : g'.Linked where
  branch_id := by rw [hbranches]; exact h.branch_id
  placed := by rw [hbranches, hplacements]; exact h.placed
  parent_placed c p hp := by rw [hplacements]; exact h.parent_placed ((hparents _).mem_iff.1 hp)
  parent_known c p hp := by
    have hp' := (hparents c).mem_iff.1 hp
    exact hnote c p hp' (h.parent_known hp')
  rootless := by
    have hroot := hparents rootId
    rw [h.rootless] at hroot
    exact hroot.eq_nil
  mirror c p := by
    rw [(hchildren p).mem_iff, (hparents c).mem_iff, h.mirror]
  nodup_parents n := (hparents n).nodup_iff.2 (h.nodup_parents n)
  nodup_children n := (hchildren n).nodup_iff.2 (h.nodup_children n)
  parentBranch_stored := by
    intro n id hid
    rw [hnoted] at hid
    rw [hbranches]
    exact h.parentBranch_stored hid

theorem Attached.of_eq (h : g.Attached) (hattributes : g'.attributes = g.attributes)
    (howned : ∀ n, g'.owned n = g.owned n) : g'.Attached where
  attribute_id := by rw [hattributes]; exact h.attribute_id
  owner := by
    intro id a ha
    rw [howned]
    rw [hattributes] at ha
    exact h.owner ha
  owned_stored := by
    intro n id hid
    rw [howned] at hid
    rw [hattributes]
    exact h.owned_stored hid

theorem Linked.sortChildren (h : g.Linked) (n : NoteId) : (g.sortChildren n).Linked :=
  h.of_perm (by simp) (by simp) (by simp) (by simp) (children_sortChildren_perm g n) (by simp)

theorem Linked.resortParents (h : g.Linked) (n : NoteId) : (g.resortParents n).Linked :=
  h.of_perm (by simp) (by simp) (by simp) (parents_resortParents_perm g n) (by simp) (by simp)

theorem Consistent.sortChildren (h : g.Consistent) (n : NoteId) :
    (g.sortChildren n).Consistent where
  toLinked := h.toLinked.sortChildren n
  toAttached := h.toAttached.of_eq (by simp) (by simp)
  noted := by simpa using h.noted
  pointed := by simpa using h.pointed

theorem Consistent.resortParents (h : g.Consistent) (n : NoteId) :
    (g.resortParents n).Consistent where
  toLinked := h.toLinked.resortParents n
  toAttached := h.toAttached.of_eq (by simp) (by simp)
  noted := by simpa using h.noted
  pointed := by simpa using h.pointed

theorem Consistent.foldl_resortParents (h : g.Consistent) (ns : List NoteId) :
    (ns.foldl Graph.resortParents g).Consistent := by
  induction ns generalizing g with
  | nil => exact h
  | cons n ns ih => exact ih (h.resortParents n)

/-! ## Branches -/

theorem Linked.setBranches_insert (h : g.Linked) (hb : g.branches.get? b.id = none) :
    (g.setBranches (g.branches.insert b.id b)).Linked where
  branch_id id b' hb' := by
    rw [branches_setBranches, Table.get?_insert] at hb'
    split_ifs at hb' with hid
    · obtain rfl := Option.some.inj hb'
      exact hid.symm
    · exact h.branch_id hb'
  placed c p id hid := by
    obtain ⟨b', hb', hcp⟩ := h.placed hid
    refine ⟨b', ?_, hcp⟩
    rw [branches_setBranches, Table.get?_insert, if_neg]
    · exact hb'
    · rintro rfl
      rw [hb] at hb'
      exact absurd hb' (by simp)
  parent_placed := h.parent_placed
  parent_known := h.parent_known
  rootless := h.rootless
  mirror := h.mirror
  nodup_parents := h.nodup_parents
  nodup_children := h.nodup_children
  parentBranch_stored n id hid := by
    obtain ⟨b', hb', hn⟩ := h.parentBranch_stored hid
    refine ⟨b', ?_, hn⟩
    rw [branches_setBranches, Table.get?_insert, if_neg]
    · exact hb'
    · rintro rfl
      rw [hb] at hb'
      exact absurd hb' (by simp)

theorem mem_parents_linkBranch {c p : NoteId} : p ∈ (g.linkBranch b).parents c ↔
    p ∈ g.parents c ∨ g.Joins b ∧ c = b.child ∧ p = b.parent := by
  rw [parents_linkBranch]
  split_ifs with hj
  · obtain ⟨hj, rfl⟩ := hj
    simp [hj]
  · constructor
    · exact Or.inl
    · rintro (hp | ⟨hj', hc, -⟩)
      · exact hp
      · exact absurd ⟨hj', hc⟩ hj

theorem mem_children_linkBranch {c p : NoteId} : c ∈ (g.linkBranch b).children p ↔
    c ∈ g.children p ∨ g.Joins b ∧ c = b.child ∧ p = b.parent := by
  rw [children_linkBranch]
  split_ifs with hj
  · obtain ⟨hj, rfl⟩ := hj
    simp [hj]
  · constructor
    · exact Or.inl
    · rintro (hp | ⟨hj', -, hc⟩)
      · exact hp
      · exact absurd ⟨hj', hc⟩ hj

theorem contains_placements_linkBranch : (g.linkBranch b).placements.contains (c, p) = true ↔
    g.placements.contains (c, p) = true ∨ g.Joins b ∧ c = b.child ∧ p = b.parent := by
  rw [placements_linkBranch]
  split_ifs with hj
  · rw [Table.contains, Table.get?_insert]
    split_ifs with hcp
    · obtain ⟨rfl, rfl⟩ := Prod.mk.inj hcp
      simp [hj]
    · simp only [Prod.mk.injEq] at hcp
      simp [hj, hcp, Table.contains]
  · simp [hj]

/-- Once a branch has joined its notes, no other one joins them. -/
theorem joins_linkBranch {b' : Branch} : (g.linkBranch b).Joins b' ↔
    g.Joins b' ∧ ¬(g.Joins b ∧ b'.child = b.child ∧ b'.parent = b.parent) := by
  simp only [Joins, hasNote_linkBranch, ← Bool.not_eq_true, contains_placements_linkBranch, not_or,
    and_assoc]

/-- The order of children has no part in whether a branch joins its notes. -/
@[simp]
theorem joins_sortChildren {m : NoteId} : (g.sortChildren m).Joins b ↔ g.Joins b := by
  simp [Joins]

/-- A branch joins only notes that are not parent and child yet. -/
theorem Linked.not_mem_parents_of_joins (h : g.Linked) (hj : g.Joins b) :
    b.parent ∉ g.parents b.child := by
  intro hp
  have hfree := hj.2.2.2
  rw [h.parent_placed hp] at hfree
  exact absurd hfree (by simp)

/-- Linking a stored branch keeps the edges in line with the branches. -/
theorem Linked.linkBranch (h : g.Linked) (hb : g.branches.get? b.id = some b) :
    (g.linkBranch b).Linked where
  branch_id := by simpa using h.branch_id
  placed c p id hid := by
    rw [branches_linkBranch]
    rw [placements_linkBranch] at hid
    split_ifs at hid
    · rw [Table.get?_insert] at hid
      split_ifs at hid with hcp
      · obtain ⟨rfl, rfl⟩ := Prod.mk.inj hcp
        exact ⟨b, Option.some.inj hid ▸ hb, rfl, rfl⟩
      · exact h.placed hid
    · exact h.placed hid
  parent_placed c p hp := by
    rw [placements_linkBranch, Table.contains]
    rcases mem_parents_linkBranch.1 hp with hp | ⟨hj, rfl, rfl⟩
    · have hplaced := h.parent_placed hp
      split_ifs
      · rw [Table.get?_insert]
        split_ifs
        · rfl
        · exact hplaced
      · exact hplaced
    · rw [if_pos hj, Table.get?_insert_self]
      rfl
  parent_known c p hp := by
    rw [hasNote_linkBranch]
    rcases mem_parents_linkBranch.1 hp with hp | ⟨hj, -, rfl⟩
    · exact h.parent_known hp
    · exact hj.2.2.1
  rootless := by
    rw [parents_linkBranch, if_neg fun hj => hj.1.1 hj.2.symm]
    exact h.rootless
  mirror c p := by
    rw [mem_children_linkBranch, mem_parents_linkBranch, h.mirror]
  nodup_parents n := by
    rw [parents_linkBranch]
    split_ifs with hj
    · obtain ⟨hj, rfl⟩ := hj
      have hfresh := h.not_mem_parents_of_joins hj
      exact (List.nodup_cons.2 ⟨hfresh, h.nodup_parents _⟩).perm
        (List.perm_append_singleton _ _).symm
    · exact h.nodup_parents n
  nodup_children n := by
    rw [children_linkBranch]
    split_ifs with hj
    · obtain ⟨hj, rfl⟩ := hj
      have hfresh : b.child ∉ g.children b.parent := fun hc =>
        h.not_mem_parents_of_joins hj (h.mirror.1 hc)
      exact (List.nodup_cons.2 ⟨hfresh, h.nodup_children _⟩).perm
        (List.perm_append_singleton _ _).symm
    · exact h.nodup_children n
  parentBranch_stored n id hid := by
    rw [branches_linkBranch]
    rcases mem_parentBranches_linkBranch.1 hid with hid | ⟨rfl, rfl, -⟩
    · exact h.parentBranch_stored hid
    · exact ⟨b, hb, rfl⟩

theorem addBranch_eq (g : Graph) (b : Branch) :
    g.addBranch b = (g.setBranches (g.branches.insert b.id b)).linkBranch b := by
  rw [addBranch, branches_linkBranch, linkBranch_eq, linkBranch_eq]
  by_cases hj : g.Joins b
  · rw [if_pos hj, if_pos (show (g.setBranches (g.branches.insert b.id b)).Joins b from hj)]
    rfl
  · rw [if_neg hj, if_neg (show ¬(g.setBranches (g.branches.insert b.id b)).Joins b from hj)]
    rfl

@[simp]
theorem hasNote_addBranch : (g.addBranch b).hasNote n = g.hasNote n := by
  simp [addBranch_eq]

@[simp]
theorem bare?_addBranch : (g.addBranch b).bare? n = g.bare? n := by
  simp [addBranch_eq]

@[simp]
theorem attributes_addBranch : (g.addBranch b).attributes = g.attributes := by
  simp [addBranch_eq]

@[simp]
theorem branches_addBranch : (g.addBranch b).branches = g.branches.insert b.id b := by
  simp [addBranch_eq]

@[simp]
theorem index_addBranch : (g.addBranch b).index = g.index := by
  rw [addBranch_eq, index_linkBranch]
  rfl

@[simp]
theorem owned_addBranch : (g.addBranch b).owned n = g.owned n := by
  simp [addBranch_eq]

@[simp]
theorem incoming_addBranch : (g.addBranch b).incoming n = g.incoming n := by
  simp [addBranch_eq]

/-- The child notes the branch, if it exists. -/
theorem mem_parentBranches_addBranch {id : BranchId} :
    id ∈ (g.addBranch b).parentBranches n ↔
      id ∈ g.parentBranches n ∨ id = b.id ∧ n = b.child ∧ g.hasNote n = true := by
  rw [addBranch_eq, mem_parentBranches_linkBranch]
  rfl

theorem Keyed.addBranch (h : g.Keyed) (b : Branch) : (g.addBranch b).Keyed where
  branch_id id b' hb' := by
    rw [branches_addBranch, Table.get?_insert] at hb'
    split_ifs at hb' with hid
    · obtain rfl := Option.some.inj hb'
      exact hid.symm
    · exact h.branch_id hb'
  attribute_id := by simpa using h.attribute_id

/-- A branch with a new id leaves the edges mirrored. -/
theorem Linked.addBranch (h : g.Linked) (hb : g.branches.get? b.id = none) :
    (g.addBranch b).Linked := by
  rw [addBranch_eq]
  exact (h.setBranches_insert hb).linkBranch (by simp)

/-- A branch with a new id keeps the graph consistent. -/
theorem Consistent.addBranch (h : g.Consistent) (hb : g.branches.get? b.id = none) :
    (g.addBranch b).Consistent where
  toLinked := h.toLinked.addBranch hb
  toAttached := h.toAttached.of_eq (by simp) (by simp)
  noted id b' hb' hn := by
    rw [branches_addBranch, Table.get?_insert] at hb'
    rw [mem_parentBranches_addBranch]
    split_ifs at hb' with hid
    · obtain rfl := Option.some.inj hb'
      exact Or.inr ⟨hid, rfl, by simpa using hn⟩
    · exact Or.inl (h.noted hb' (by simpa using hn))
  pointed := by simpa using h.pointed

/-- Takes a branch out of its table and separates its notes. -/
def eraseBranch (g : Graph) (b : Branch) : Graph :=
  (g.setBranches (g.branches.erase b.id)).unlinkBranch b

@[simp]
theorem hasNote_eraseBranch : (g.eraseBranch b).hasNote n = g.hasNote n := by
  simp [eraseBranch]

@[simp]
theorem bare?_eraseBranch : (g.eraseBranch b).bare? n = g.bare? n := by
  simp [eraseBranch]

@[simp]
theorem attributes_eraseBranch : (g.eraseBranch b).attributes = g.attributes := by
  simp [eraseBranch]

@[simp]
theorem branches_eraseBranch : (g.eraseBranch b).branches = g.branches.erase b.id := by
  simp [eraseBranch]

@[simp]
theorem index_eraseBranch : (g.eraseBranch b).index = g.index := by
  rw [eraseBranch, index_unlinkBranch]
  rfl

@[simp]
theorem owned_eraseBranch : (g.eraseBranch b).owned n = g.owned n := by
  simp [eraseBranch]

@[simp]
theorem incoming_eraseBranch : (g.eraseBranch b).incoming n = g.incoming n := by
  simp [eraseBranch]

/-- The child loses the parent that the branch names. -/
theorem parents_eraseBranch : (g.eraseBranch b).parents n =
    if n = b.child then (g.parents n).erase b.parent else g.parents n := by
  rw [eraseBranch, parents_unlinkBranch, parents_setBranches]

/-- The parent loses the child that the branch names. -/
theorem children_eraseBranch : (g.eraseBranch b).children n =
    if n = b.parent then (g.children n).erase b.child else g.children n := by
  rw [eraseBranch, children_unlinkBranch, children_setBranches]

/-- The child loses the branch. -/
theorem parentBranches_eraseBranch : (g.eraseBranch b).parentBranches n =
    if n = b.child then (g.parentBranches n).filter (· ≠ b.id) else g.parentBranches n := by
  rw [eraseBranch, parentBranches_unlinkBranch, parentBranches_setBranches]

theorem mem_parentBranches_eraseBranch {id : BranchId} :
    id ∈ (g.eraseBranch b).parentBranches n ↔
      id ∈ g.parentBranches n ∧ ¬(id = b.id ∧ n = b.child) := by
  rw [eraseBranch, mem_parentBranches_unlinkBranch, parentBranches_setBranches]

theorem Keyed.eraseBranch (h : g.Keyed) (b : Branch) : (g.eraseBranch b).Keyed where
  branch_id id b' hb' := by
    rw [branches_eraseBranch, Table.get?_erase] at hb'
    split_ifs at hb'
    exact h.branch_id hb'
  attribute_id := by simpa using h.attribute_id

/-- Of the edges to parents only the one of the branch goes. -/
theorem Linked.mem_parents_eraseBranch (h : g.Linked) {c p : NoteId} :
    p ∈ (g.eraseBranch b).parents c ↔ p ∈ g.parents c ∧ ¬(c = b.child ∧ p = b.parent) := by
  rw [parents_eraseBranch]
  split_ifs with hc
  · rw [(h.nodup_parents c).mem_erase_iff]
    simp [hc, and_comm]
  · simp [hc]

/-- Of the edges to children only the one of the branch goes. -/
theorem Linked.mem_children_eraseBranch (h : g.Linked) {c p : NoteId} :
    c ∈ (g.eraseBranch b).children p ↔ c ∈ g.children p ∧ ¬(c = b.child ∧ p = b.parent) := by
  rw [children_eraseBranch]
  split_ifs with hp
  · rw [(h.nodup_children p).mem_erase_iff]
    simp [hp, and_comm]
  · simp [hp]

theorem Linked.get?_placements_eraseBranch (h : g.Linked) (hb : g.branches.get? b.id = some b)
    {c p : NoteId} {id : BranchId} : (g.eraseBranch b).placements.get? (c, p) = some id ↔
      g.placements.get? (c, p) = some id ∧ id ≠ b.id := by
  rw [eraseBranch, placements_unlinkBranch, placementsWithout]
  change (if g.placements.get? (b.child, b.parent) = some b.id then
    g.placements.erase (b.child, b.parent) else g.placements).get? (c, p) = some id ↔ _
  have hown : g.placements.get? (c, p) = some b.id → c = b.child ∧ p = b.parent := by
    intro hid
    obtain ⟨b', hb', rfl, rfl⟩ := h.placed hid
    obtain rfl := Option.some.inj (hb.symm.trans hb')
    exact ⟨rfl, rfl⟩
  by_cases hcp : g.placements.get? (b.child, b.parent) = some b.id
  · rw [if_pos hcp, Table.get?_erase]
    split_ifs with heq
    · simp [heq, hcp, eq_comm]
    · refine ⟨fun hid => ⟨hid, ?_⟩, fun hid => hid.1⟩
      rintro rfl
      exact heq (Prod.ext (hown hid).1 (hown hid).2)
  · rw [if_neg hcp]
    refine ⟨fun hid => ⟨hid, ?_⟩, fun hid => hid.1⟩
    rintro rfl
    obtain ⟨rfl, rfl⟩ := hown hid
    exact hcp hid

/-- Erasing a stored branch keeps the edges in line with the branches. -/
theorem Linked.eraseBranch (h : g.Linked) (hb : g.branches.get? b.id = some b) :
    (g.eraseBranch b).Linked where
  branch_id id b' hb' := by
    rw [branches_eraseBranch, Table.get?_erase] at hb'
    split_ifs at hb'
    exact h.branch_id hb'
  placed c p id hid := by
    obtain ⟨hid, hne⟩ := (h.get?_placements_eraseBranch hb).1 hid
    obtain ⟨b', hb', hcp⟩ := h.placed hid
    refine ⟨b', ?_, hcp⟩
    rwa [branches_eraseBranch, Table.get?_erase, if_neg hne]
  parent_placed c p hp := by
    obtain ⟨hp, hne⟩ := h.mem_parents_eraseBranch.1 hp
    have hplaced := h.parent_placed hp
    rw [Table.contains, Option.isSome_iff_exists] at hplaced ⊢
    obtain ⟨id, hid⟩ := hplaced
    refine ⟨id, (h.get?_placements_eraseBranch hb).2 ⟨hid, ?_⟩⟩
    rintro rfl
    obtain ⟨b', hb', rfl, rfl⟩ := h.placed hid
    obtain rfl := Option.some.inj (hb.symm.trans hb')
    exact hne ⟨rfl, rfl⟩
  parent_known c p hp := by
    rw [hasNote_eraseBranch]
    exact h.parent_known (h.mem_parents_eraseBranch.1 hp).1
  rootless := by
    refine List.eq_nil_iff_forall_not_mem.2 fun p hp => ?_
    have hroot := (h.mem_parents_eraseBranch.1 hp).1
    rw [h.rootless] at hroot
    exact absurd hroot (by simp)
  mirror c p := by
    rw [h.mem_children_eraseBranch, h.mem_parents_eraseBranch, h.mirror]
  nodup_parents n := by
    rw [parents_eraseBranch]
    split_ifs
    · exact (h.nodup_parents n).erase _
    · exact h.nodup_parents n
  nodup_children n := by
    rw [children_eraseBranch]
    split_ifs
    · exact (h.nodup_children n).erase _
    · exact h.nodup_children n
  parentBranch_stored n id hid := by
    rw [mem_parentBranches_eraseBranch] at hid
    obtain ⟨hid, hne⟩ := hid
    obtain ⟨b', hb', hn⟩ := h.parentBranch_stored hid
    refine ⟨b', ?_, hn⟩
    rw [branches_eraseBranch, Table.get?_erase, if_neg]
    · exact hb'
    · rintro rfl
      obtain rfl := Option.some.inj (hb.symm.trans hb')
      exact hne ⟨rfl, hn.symm⟩

theorem Consistent.eraseBranch (h : g.Consistent) (hb : g.branches.get? b.id = some b) :
    (g.eraseBranch b).Consistent where
  toLinked := h.toLinked.eraseBranch hb
  toAttached := h.toAttached.of_eq (by simp) (by simp)
  noted id b' hb' hn := by
    rw [branches_eraseBranch, Table.get?_erase] at hb'
    rw [hasNote_eraseBranch] at hn
    split_ifs at hb' with hid
    exact mem_parentBranches_eraseBranch.2 ⟨h.noted hb' hn, fun heq => hid heq.1⟩
  pointed := by simpa using h.pointed

/-! ## Attributes -/

theorem Keyed.attach (h : g.Keyed) (a : Attribute) : (g.attach a).Keyed where
  branch_id := by simpa using h.branch_id
  attribute_id id a' ha' := by
    rw [attributes_attach, Table.get?_insert] at ha'
    split_ifs at ha' with hid
    · obtain rfl := Option.some.inj ha'
      exact hid.symm
    · exact h.attribute_id ha'

theorem Keyed.removeAttribute (h : g.Keyed) (a : Attribute) : (g.removeAttribute a).Keyed where
  branch_id := by simpa using h.branch_id
  attribute_id id a' ha' := by
    rw [attributes_removeAttribute, Table.get?_erase] at ha'
    split_ifs at ha'
    exact h.attribute_id ha'

theorem Linked.attach (h : g.Linked) (a : Attribute) : (g.attach a).Linked :=
  h.of_perm (by simp) (by simp) (by simp) (by simp) (by simp) (by simp)

theorem Linked.removeAttribute (h : g.Linked) (a : Attribute) : (g.removeAttribute a).Linked :=
  h.of_perm (by simp) (by simp) (by simp) (by simp) (by simp) (by simp)

/-- An attribute with a new id keeps the graph consistent. -/
theorem Consistent.attach (h : g.Consistent) (hn : g.hasNote a.owner = true)
    (ha : g.attributes.get? a.id = none) : (g.attach a).Consistent where
  toLinked := h.toLinked.attach a
  attribute_id := (h.keyed.attach a).attribute_id
  owner id a' ha' := by
    rw [attributes_attach, Table.get?_insert] at ha'
    rw [owned_attach hn]
    split_ifs at ha' with hid
    · obtain rfl := Option.some.inj ha'
      simp [hid]
    · have hown := h.owner ha'
      split_ifs
      · exact List.mem_append_left _ hown
      · exact hown
  owned_stored n id hid := by
    rw [attributes_attach, Table.get?_insert]
    by_cases heq : id = a.id
    · rw [owned_attach hn] at hid
      rw [if_pos heq]
      split_ifs at hid with hna
      · exact ⟨a, rfl, hna.symm⟩
      · obtain ⟨a', ha', -⟩ := h.owned_stored hid
        rw [heq, ha] at ha'
        exact absurd ha' (by simp)
    · rw [if_neg heq]
      rw [owned_attach hn] at hid
      split_ifs at hid
      · rcases List.mem_append.1 hid with hid | hid
        · exact h.owned_stored hid
        · exact absurd (List.mem_singleton.1 hid) heq
      · exact h.owned_stored hid
  noted := by simpa using h.noted
  pointed id a' t ha' ht hnote := by
    rw [attributes_attach, Table.get?_insert] at ha'
    rw [hasNote_attach] at hnote
    rw [incoming_attach]
    split_ifs at ha' with hid
    · obtain rfl := Option.some.inj ha'
      rw [if_pos ⟨ht, hnote⟩]
      simp [hid]
    · have hin := h.pointed ha' ht hnote
      split_ifs
      · exact List.mem_append_left _ hin
      · exact hin

theorem Consistent.removeAttribute (h : g.Consistent) (ha : g.attributes.get? a.id = some a) :
    (g.removeAttribute a).Consistent where
  toLinked := h.toLinked.removeAttribute a
  attribute_id := (h.keyed.removeAttribute a).attribute_id
  owner id a' ha' := by
    rw [attributes_removeAttribute, Table.get?_erase] at ha'
    split_ifs at ha' with hid
    have hown := h.owner ha'
    rw [owned_removeAttribute]
    split_ifs
    · exact List.mem_filter.2 ⟨hown, by simpa using hid⟩
    · exact hown
  owned_stored n id hid := by
    have hown : id ∈ g.owned n := by
      rw [owned_removeAttribute] at hid
      split_ifs at hid
      · exact (List.mem_filter.1 hid).1
      · exact hid
    obtain ⟨a', ha', hn⟩ := h.owned_stored hown
    refine ⟨a', ?_, hn⟩
    rw [attributes_removeAttribute, Table.get?_erase, if_neg]
    · exact ha'
    · rintro rfl
      obtain rfl := Option.some.inj (ha.symm.trans ha')
      rw [owned_removeAttribute, if_pos hn.symm] at hid
      simpa using (List.mem_filter.1 hid).2
  noted := by simpa using h.noted
  pointed id a' t ha' ht hnote := by
    rw [attributes_removeAttribute, Table.get?_erase] at ha'
    rw [hasNote_removeAttribute] at hnote
    split_ifs at ha' with hid
    have hin := h.pointed ha' ht hnote
    rw [incoming_removeAttribute]
    split_ifs
    · exact List.mem_filter.2 ⟨hin, by simpa using hid⟩
    · exact hin

/-! ## Notes -/

/-- A new note has no edges, as it had none before. -/
theorem edges_putNote_of_new {row : NoteRow} (hn : ¬g.hasNote row.id = true) (m : NoteId) :
    (Vault.putNote g row).edges m = g.edges m := by
  rw [edges_putNote]
  split_ifs with hm
  · rw [hm, edges_of_unknown hn]
  · rfl

/-- A new note has no edges, so they still follow the branches. -/
theorem Linked.putNote (h : g.Linked) {row : NoteRow} (hn : ¬g.hasNote row.id = true) :
    (Vault.putNote g row).Linked := by
  have hedges := edges_putNote_of_new hn
  refine h.of_perm ?_ rfl rfl ?_ ?_ ?_
  · intro c p _ hp
    rw [hasNote_putNote, hp, Bool.or_true]
  · simp [parents, hedges]
  · simp [children, hedges]
  · simp [parentBranches, hedges]

theorem Linked.renewNote (h : g.Linked) {row : NoteRow} (hn : g.hasNote row.id = true) :
    (g.renewNote row).Linked := by
  refine h.of_perm ?_ rfl rfl ?_ ?_ ?_
  · intro c p _ hp
    rwa [hasNote_renewNote hn]
  · simp [parents]
  · simp [children]
  · simp [parentBranches]

theorem Consistent.renewNote (h : g.Consistent) {row : NoteRow}
    (hn : g.hasNote row.id = true) : (g.renewNote row).Consistent where
  toLinked := h.toLinked.renewNote hn
  toAttached := h.toAttached.of_eq rfl (by simp [owned])
  noted id b hb hchild := by
    rw [hasNote_renewNote hn] at hchild
    simpa [parentBranches] using h.noted hb hchild
  pointed id a t ha ht hnote := by
    rw [hasNote_renewNote hn] at hnote
    simpa [incoming] using h.pointed ha ht hnote

/-- A note without branches lies below and above no other. -/
theorem Linked.parents_of_unplaced (h : g.Linked)
    (hbranches : ∀ id b, g.branches.get? id = some b → b.child ≠ n ∧ b.parent ≠ n)
    {c p : NoteId} (hp : p ∈ g.parents c) : c ≠ n ∧ p ≠ n := by
  obtain ⟨id, b, hb, rfl, rfl⟩ := h.placement_stored hp
  exact hbranches id b hb

/-- Taking out a note without branches changes no edges between notes. -/
theorem Linked.edges_eraseNote (h : g.Linked)
    (hbranches : ∀ id b, g.branches.get? id = some b → b.child ≠ n ∧ b.parent ≠ n) (m : NoteId) :
    (g.eraseNote n).parents m = g.parents m ∧ (g.eraseNote n).children m = g.children m ∧
      (g.eraseNote n).parentBranches m = g.parentBranches m := by
  simp only [parents, children, parentBranches, Graph.edges_eraseNote]
  split_ifs with hm
  · subst hm
    refine ⟨?_, ?_, ?_⟩
    · exact (List.eq_nil_iff_forall_not_mem.2 fun p hp =>
        (h.parents_of_unplaced hbranches hp).1 rfl).symm
    · exact (List.eq_nil_iff_forall_not_mem.2 fun c hc =>
        (h.parents_of_unplaced hbranches (h.mirror.1 hc)).2 rfl).symm
    · refine (List.eq_nil_iff_forall_not_mem.2 fun id hid => ?_).symm
      obtain ⟨b, hb, hm⟩ := h.parentBranch_stored hid
      exact (hbranches id b hb).1 hm
  · exact ⟨rfl, rfl, rfl⟩

theorem Linked.eraseNote (h : g.Linked)
    (hbranches : ∀ id b, g.branches.get? id = some b → b.child ≠ n ∧ b.parent ≠ n) :
    (g.eraseNote n).Linked := by
  have hedges := h.edges_eraseNote hbranches
  refine h.of_perm ?_ rfl rfl ?_ ?_ ?_
  · intro c p hp hn
    simp [hasNote_eraseNote, hn, (h.parents_of_unplaced hbranches hp).2]
  · simp [hedges]
  · simp [hedges]
  · simp [hedges]

/-- A note without branches and attributes can go. -/
theorem Consistent.eraseNote (h : g.Consistent)
    (hbranches : ∀ id b, g.branches.get? id = some b → b.child ≠ n ∧ b.parent ≠ n)
    (hattributes : ∀ id a, g.attributes.get? id = some a → a.owner ≠ n) :
    (g.eraseNote n).Consistent where
  toLinked := h.toLinked.eraseNote hbranches
  toAttached := by
    refine h.toAttached.of_eq rfl fun m => ?_
    rw [owned, Graph.edges_eraseNote]
    split_ifs with hm
    · refine (List.eq_nil_iff_forall_not_mem.2 fun id hid => ?_).symm
      obtain ⟨a, ha, hm'⟩ := h.owned_stored hid
      exact hattributes id a ha (hm'.trans hm)
    · rfl
  noted id b hb hn := by
    rw [(h.toLinked.edges_eraseNote hbranches _).2.2]
    rw [hasNote_eraseNote, Bool.and_eq_true] at hn
    exact h.noted hb hn.2
  pointed id a t ha ht hn := by
    rw [hasNote_eraseNote, Bool.and_eq_true, decide_eq_true_eq] at hn
    rw [incoming, Graph.edges_eraseNote, if_neg hn.1]
    exact h.pointed ha ht hn.2

end Zettel.Graph
