import Zettel.Proofs.Graph.Consistent

/-!
# The arrival of a note

Rows may come before the note that they mention. When the note arrives, the branches at either end
of it are linked and the relations that point at it are noted on it.

Main statement: `Consistent.arrive`, after this the graph is consistent again.
-/

namespace Zettel.Graph

variable {g : Graph} {n m : NoteId}

/-- Links branches and puts the children of their parents in order. -/
def linkAll (g : Graph) (bs : List Branch) : Graph :=
  bs.foldl (fun g b => (g.linkBranch b).sortChildren b.parent) g

/-- Notes relations on the note that they point at. -/
def pointAll (g : Graph) (n : NoteId) (relations : List Attribute) : Graph :=
  relations.foldl
    (fun g a => g.modifyEdges n fun e => { e with incoming := e.incoming ++ [a.id] }) g

/-- The stored branches that place the note or are placed under it. -/
def branchesAt (g : Graph) (n : NoteId) : List Branch :=
  g.branches.values.filter fun b => b.child = n || b.parent = n

/-- The stored relations that point at the note. -/
def relationsTo (g : Graph) (n : NoteId) : List Attribute :=
  g.attributes.values.filter fun a => a.target? = some n

/-- Puts a new note into the graph and joins it with what waited for it. -/
def arrive (g : Graph) (row : NoteRow) : Graph :=
  let g := Vault.putNote g row
  ((g.linkAll (g.branchesAt row.id)).pointAll row.id (g.relationsTo row.id)).resortParents row.id

/-- The branches at a note are those that name it at either end. -/
theorem mem_branchesAt (hid : ∀ ⦃id b⦄, g.branches.get? id = some b → b.id = id) {b : Branch} :
    b ∈ g.branchesAt n ↔ g.branches.get? b.id = some b ∧ (b.child = n ∨ b.parent = n) := by
  rw [branchesAt, List.mem_filter, Table.mem_values_iff, Bool.or_eq_true, decide_eq_true_eq,
    decide_eq_true_eq]
  refine and_congr_left fun _ => ⟨?_, fun hb => ⟨_, hb⟩⟩
  rintro ⟨id, hb⟩
  rwa [hid hb]

/-! ## Linking many branches -/

section LinkAll

variable {bs : List Branch}

@[simp]
theorem hasNote_linkAll : (g.linkAll bs).hasNote m = g.hasNote m :=
  view_foldl (hasNote · m) (fun _ _ => by simp) bs g

@[simp]
theorem bare?_linkAll : (g.linkAll bs).bare? m = g.bare? m :=
  view_foldl (bare? · m) (fun _ _ => by simp) bs g

@[simp]
theorem attributes_linkAll : (g.linkAll bs).attributes = g.attributes :=
  view_foldl Graph.attributes (fun _ _ => by simp) bs g

@[simp]
theorem branches_linkAll : (g.linkAll bs).branches = g.branches :=
  view_foldl Graph.branches (fun _ _ => by simp) bs g

@[simp]
theorem index_linkAll : (g.linkAll bs).index = g.index :=
  view_foldl Graph.index (fun _ _ => by exact index_linkBranch) bs g

@[simp]
theorem owned_linkAll : (g.linkAll bs).owned m = g.owned m :=
  view_foldl (owned · m) (fun _ _ => by simp) bs g

@[simp]
theorem incoming_linkAll : (g.linkAll bs).incoming m = g.incoming m :=
  view_foldl (incoming · m) (fun _ _ => by simp) bs g

theorem Linked.linkAll (h : g.Linked) (hbs : ∀ b ∈ bs, g.branches.get? b.id = some b) :
    (g.linkAll bs).Linked := by
  induction bs generalizing g with
  | nil => exact h
  | cons b bs ih =>
    have hlinked := h.linkBranch (hbs b List.mem_cons_self)
    refine ih (hlinked.sortChildren b.parent) fun b' hb' => ?_
    rw [branches_sortChildren, branches_linkBranch]
    exact hbs b' (List.mem_cons_of_mem _ hb')

theorem parents_subset_linkAll : g.parents m ⊆ (g.linkAll bs).parents m := by
  induction bs generalizing g with
  | nil => exact fun _ hp => hp
  | cons b bs ih =>
    intro p hp
    refine ih ?_
    rw [parents_sortChildren]
    exact mem_parents_linkBranch.2 (Or.inl hp)

/-- Branches join the notes that the first of them would join. -/
theorem mem_parents_linkAll {c p : NoteId} : p ∈ (g.linkAll bs).parents c ↔
    p ∈ g.parents c ∨ ∃ b ∈ bs, g.Joins b ∧ c = b.child ∧ p = b.parent := by
  induction bs generalizing g with
  | nil => simp [linkAll]
  | cons b bs ih =>
    have hstep : g.linkAll (b :: bs) = ((g.linkBranch b).sortChildren b.parent).linkAll bs := rfl
    have hjoins : ∀ b', ((g.linkBranch b).sortChildren b.parent).Joins b' ↔
        g.Joins b' ∧ ¬(g.Joins b ∧ b'.child = b.child ∧ b'.parent = b.parent) := fun b' =>
      joins_sortChildren.trans joins_linkBranch
    rw [hstep, ih, parents_sortChildren, mem_parents_linkBranch, or_assoc]
    refine or_congr_right ?_
    simp only [hjoins, List.exists_mem_cons_iff]
    constructor
    · rintro (hfirst | ⟨b', hb', ⟨hj, -⟩, hends⟩)
      · exact Or.inl hfirst
      · exact Or.inr ⟨b', hb', hj, hends⟩
    · rintro (hfirst | ⟨b', hb', hj, rfl, rfl⟩)
      · exact Or.inl hfirst
      · by_cases hfirst : g.Joins b ∧ b'.child = b.child ∧ b'.parent = b.parent
        · exact Or.inl hfirst
        · exact Or.inr ⟨b', hb', ⟨hj, hfirst⟩, rfl, rfl⟩

/-- Linking the branches at a note changes the parents of another note only by putting the one note
behind them, once. -/
theorem parents_linkAll (hbs : ∀ b ∈ bs, b.child = n ∨ b.parent = n) (hm : m ≠ n) :
    (g.linkAll bs).parents m =
      if ∃ b ∈ bs, g.Joins b ∧ b.child = m then g.parents m ++ [n] else g.parents m := by
  induction bs generalizing g with
  | nil => simp [linkAll]
  | cons b bs ih =>
    have hstep : g.linkAll (b :: bs) = ((g.linkBranch b).sortChildren b.parent).linkAll bs := rfl
    have hparent : ∀ b' ∈ b :: bs, b'.child = m → b'.parent = n := by
      rintro b' hb' rfl
      exact (hbs b' hb').resolve_left hm
    have hjoins : ∀ b' ∈ bs, b'.child = m →
        (((g.linkBranch b).sortChildren b.parent).Joins b' ↔
          g.Joins b' ∧ ¬(g.Joins b ∧ b.child = m)) := by
      rintro b' hb' rfl
      rw [joins_sortChildren, joins_linkBranch]
      refine and_congr_right fun _ => not_congr (and_congr_right fun _ => ?_)
      refine ⟨fun h => h.1.symm, fun h => ⟨h.symm, ?_⟩⟩
      rw [hparent b' (List.mem_cons_of_mem b hb') rfl, hparent b List.mem_cons_self h]
    rw [hstep, ih fun b' hb' => hbs b' (List.mem_cons_of_mem b hb'), parents_sortChildren,
      parents_linkBranch]
    by_cases hj : g.Joins b ∧ b.child = m
    · have hlater : ¬∃ b' ∈ bs, ((g.linkBranch b).sortChildren b.parent).Joins b' ∧
          b'.child = m := fun ⟨b', hb', hj', hc⟩ => ((hjoins b' hb' hc).1 hj').2 hj
      rw [if_neg hlater, if_pos ⟨hj.1, hj.2.symm⟩, if_pos ⟨b, List.mem_cons_self, hj⟩,
        hparent b List.mem_cons_self hj.2]
    · have hlater : (∃ b' ∈ bs, ((g.linkBranch b).sortChildren b.parent).Joins b' ∧
          b'.child = m) ↔ ∃ b' ∈ b :: bs, g.Joins b' ∧ b'.child = m := by
        rw [List.exists_mem_cons_iff, or_iff_right hj]
        refine exists_congr fun b' => and_congr_right fun hb' => and_congr_left fun hc => ?_
        exact (hjoins b' hb' hc).trans (and_iff_left hj)
      rw [if_neg (c := g.Joins b ∧ m = b.child) fun h => hj ⟨h.1, h.2.symm⟩]
      simp only [hlater]

theorem mem_parentBranches_linkAll {id : BranchId} : id ∈ (g.linkAll bs).parentBranches m ↔
    id ∈ g.parentBranches m ∨ ∃ b ∈ bs, id = b.id ∧ m = b.child ∧ g.hasNote m = true := by
  induction bs generalizing g with
  | nil => simp [linkAll]
  | cons b bs ih =>
    have hstep : (g.linkAll (b :: bs)) = ((g.linkBranch b).sortChildren b.parent).linkAll bs := rfl
    rw [hstep, ih, parentBranches_sortChildren, mem_parentBranches_linkBranch,
      hasNote_sortChildren, hasNote_linkBranch]
    simp only [List.mem_cons, exists_eq_or_imp]
    exact or_assoc

/-- Branches that are noted on their child already add nothing. -/
theorem parentBranches_linkAll
    (hbs : ∀ b ∈ bs, b.child = m → g.hasNote m = true → b.id ∈ g.parentBranches m) :
    (g.linkAll bs).parentBranches m = g.parentBranches m := by
  induction bs generalizing g with
  | nil => rfl
  | cons b bs ih =>
    have hstep : ((g.linkBranch b).sortChildren b.parent).parentBranches m =
        g.parentBranches m := by
      rw [parentBranches_sortChildren, parentBranches_linkBranch, if_neg]
      rintro ⟨⟨hm, hn⟩, hid⟩
      exact hid (hbs b List.mem_cons_self hm.symm hn)
    refine Eq.trans (ih fun b' hb' hm hn => ?_) hstep
    rw [hstep]
    exact hbs b' (List.mem_cons_of_mem _ hb') hm (by simpa using hn)

end LinkAll

/-! ## Noting relations -/

section PointAll

variable {relations : List Attribute}

@[simp]
theorem hasNote_pointAll : (g.pointAll n relations).hasNote m = g.hasNote m :=
  view_foldl (hasNote · m) (fun _ _ => by simp) relations g

@[simp]
theorem bare?_pointAll : (g.pointAll n relations).bare? m = g.bare? m :=
  view_foldl (bare? · m) (fun _ _ => by simp) relations g

@[simp]
theorem attributes_pointAll : (g.pointAll n relations).attributes = g.attributes :=
  view_foldl Graph.attributes (fun _ _ => by simp) relations g

@[simp]
theorem index_pointAll : (g.pointAll n relations).index = g.index :=
  view_foldl Graph.index (fun _ _ => by rfl) relations g

@[simp]
theorem branches_pointAll : (g.pointAll n relations).branches = g.branches :=
  view_foldl Graph.branches (fun _ _ => by simp) relations g

@[simp]
theorem placements_pointAll : (g.pointAll n relations).placements = g.placements :=
  view_foldl Graph.placements (fun _ _ => by simp) relations g

/-- Noting relations leaves alone what does not read them. -/
theorem edges_pointAll_of {β : Type} (view : Edges → β)
    (h : ∀ e incoming, view { e with incoming := incoming } = view e) (m : NoteId) :
    view ((g.pointAll n relations).edges m) = view (g.edges m) :=
  view_foldl (fun g => view (g.edges m))
    (fun _ _ => edges_modifyEdges_of view (fun e => h e _) _ m) relations g

@[simp]
theorem parents_pointAll : (g.pointAll n relations).parents m = g.parents m :=
  edges_pointAll_of Edges.parents (fun _ _ => rfl) m

@[simp]
theorem children_pointAll : (g.pointAll n relations).children m = g.children m :=
  edges_pointAll_of Edges.children (fun _ _ => rfl) m

@[simp]
theorem owned_pointAll : (g.pointAll n relations).owned m = g.owned m :=
  edges_pointAll_of Edges.owned (fun _ _ => rfl) m

@[simp]
theorem parentBranches_pointAll : (g.pointAll n relations).parentBranches m = g.parentBranches m :=
  edges_pointAll_of Edges.parentBranches (fun _ _ => rfl) m

theorem incoming_pointAll (hn : g.hasNote n = true) : (g.pointAll n relations).incoming m =
    if m = n then g.incoming m ++ relations.map Attribute.id else g.incoming m := by
  induction relations generalizing g with
  | nil => simp [pointAll]
  | cons a relations ih =>
    rw [pointAll, List.foldl_cons, ← pointAll, ih (by simpa using hn)]
    simp only [incoming, edges_modifyEdges]
    split_ifs <;> simp_all

end PointAll

/-! ## The note is in its place -/

section Arrive

variable {row : NoteRow}

@[simp]
theorem attributes_arrive : (g.arrive row).attributes = g.attributes := by simp [Graph.arrive]

@[simp]
theorem branches_arrive : (g.arrive row).branches = g.branches := by simp [Graph.arrive]

@[simp]
theorem index_arrive : (g.arrive row).index = g.index :=
  index_pointAll.trans index_linkAll

/-- The note exists then, with those that did before. -/
theorem hasNote_arrive : (g.arrive row).hasNote m = (decide (m = row.id) || g.hasNote m) := by
  simp [Graph.arrive, hasNote_putNote]

/-- A note that comes owns nothing, and takes nothing from others. -/
theorem owned_arrive (hn : ¬g.hasNote row.id = true) : (g.arrive row).owned m = g.owned m := by
  rw [Graph.arrive, owned_resortParents, owned_pointAll, owned_linkAll, owned,
    edges_putNote_of_new hn, owned]

/-- What points at a new note is noted on it, and nothing else is. -/
theorem incoming_arrive : (g.arrive row).incoming m =
    if m = row.id then (g.relationsTo m).map Attribute.id else g.incoming m := by
  have hnew : (Vault.putNote g row).hasNote row.id = true := by simp [hasNote_putNote]
  rw [Graph.arrive, incoming_resortParents, incoming_pointAll (by simpa using hnew),
    incoming_linkAll, incoming, edges_putNote]
  split_ifs with hm
  · rw [hm]
    rfl
  · rfl

/-- Edges stay mirrored when a note comes. -/
theorem Linked.arrive (h : g.Linked) (hn : ¬g.hasNote row.id = true) : (g.arrive row).Linked := by
  have hput := h.putNote hn
  have hwaiting : ∀ b ∈ (Vault.putNote g row).branchesAt row.id,
      (Vault.putNote g row).branches.get? b.id = some b := fun b hb =>
    ((mem_branchesAt hput.branch_id).1 hb).1
  refine Linked.resortParents ?_ row.id
  exact (hput.linkAll hwaiting).of_perm (by simp) (by simp) (by simp) (by simp) (by simp) (by simp)

/-- **The graph is consistent when the new note has been joined.** Until then only the branches and
the relations that waited for the note are missing from its edges. -/
theorem Consistent.arrive (h : g.Consistent) (hn : ¬g.hasNote row.id = true) :
    (g.arrive row).Consistent where
  toLinked := h.toLinked.arrive hn
  toAttached := h.toAttached.of_eq attributes_arrive fun m => owned_arrive hn
  noted id b hb hchild := by
    rw [branches_arrive] at hb
    rw [Graph.hasNote_arrive] at hchild
    rw [Graph.arrive, parentBranches_resortParents, parentBranches_pointAll,
      mem_parentBranches_linkAll, hasNote_putNote]
    by_cases hc : b.child = row.id
    · obtain rfl := h.branch_id hb
      exact Or.inr ⟨b, (mem_branchesAt h.branch_id).2 ⟨hb, Or.inl hc⟩, rfl, rfl, hchild⟩
    · left
      rw [Bool.or_eq_true, decide_eq_true_eq] at hchild
      rw [parentBranches, edges_putNote_of_new hn]
      exact h.noted hb (hchild.resolve_left hc)
  pointed id a t ha ht hnote := by
    rw [attributes_arrive] at ha
    rw [incoming_arrive]
    split_ifs with heq
    · refine List.mem_map.2 ⟨a, ?_, h.attribute_id ha⟩
      exact List.mem_filter.2 ⟨Table.mem_values_iff.2 ⟨id, ha⟩, by simpa using ht⟩
    · rw [Graph.hasNote_arrive, Bool.or_eq_true, decide_eq_true_eq] at hnote
      exact h.pointed ha ht (hnote.resolve_left heq)

end Arrive

end Zettel.Graph
