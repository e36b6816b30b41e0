import Zettel.Proofs.Graph.Arrival
import Zettel.Proofs.Memory

/-!
# The steps of a vault

What each notification does to the graph and to the memory. A branch or an attribute is taken out
before it is put in again, and a note leaves after everything that mentions it (`strip_cases`), so
the graph stays consistent.
-/

namespace Zettel

namespace Graph

/-- The notes whose views are forgotten when the attribute changes. -/
def affectedBy (g : Graph) (a : Attribute) (affectsSubtree : Bool) : List NoteId :=
  if affectsSubtree then g.subtreeWithUsers a.owner else a.owner :: g.templatedNotes a.owner

variable {g : Graph} {b : Branch} {a : Attribute} {n : NoteId}

/-- Putting parents in order below a note keeps the graph consistent. -/
theorem Consistent.resortBelow (h : g.Consistent) (a : Attribute) :
    (g.resortBelow a).Consistent := by
  rw [Graph.resortBelow]
  split_ifs
  · exact h.foldl_resortParents _
  · exact h

end Graph

/-! ## Forgetting -/

namespace Memo

variable {memo memo' memo'' : Memo} {n : NoteId} {ns : List NoteId}

theorem of_forget : (memo.forget ns).of n = if n ∈ ns then {} else memo.of n := by
  induction ns generalizing memo with
  | nil => simp [forget]
  | cons m ns ih =>
    rw [forget, List.foldl_cons, ← forget, ih, of, Table.get?_erase]
    by_cases hm : n = m
    · simp [hm]
    · simp [hm, of]

/-- Notes are forgotten one after the other. -/
theorem forget_append (memo : Memo) (ns ns' : List NoteId) :
    memo.forget (ns ++ ns') = (memo.forget ns).forget ns' :=
  List.foldl_append

theorem of_forgetText : (memo.forgetText ns).of n =
    if n ∈ ns then { memo.of n with flatText := none } else memo.of n := by
  induction ns generalizing memo with
  | nil => simp [forgetText]
  | cons m ns ih =>
    rw [forgetText, List.foldl_cons, ← forgetText, ih]
    simp only [of, Table.get?_modify, List.mem_cons]
    by_cases hm : n = m
    · subst hm
      cases memo.get? n <;> simp
    · simp [hm]

/-- The first memory holds nothing that the second does not hold. -/
structure Within (memo' memo : Memo) : Prop where
  attributes : ∀ n a, (memo'.of n).attributes = some a → (memo.of n).attributes = some a
  ancestors : ∀ n ns, (memo'.of n).ancestors = some ns → (memo.of n).ancestors = some ns
  flatText : ∀ n text, (memo'.of n).flatText = some text → (memo.of n).flatText = some text

theorem Within.refl (memo : Memo) : memo.Within memo :=
  ⟨fun _ _ h => h, fun _ _ h => h, fun _ _ h => h⟩

theorem Within.trans (h : memo''.Within memo') (h' : memo'.Within memo) : memo''.Within memo :=
  ⟨fun n a ha => h'.attributes n a (h.attributes n a ha),
    fun n ns hns => h'.ancestors n ns (h.ancestors n ns hns),
    fun n text ht => h'.flatText n text (h.flatText n text ht)⟩

/-- Forgetting adds nothing to the memory. -/
theorem within_forget (memo : Memo) (ns : List NoteId) : (memo.forget ns).Within memo := by
  constructor <;> intro n x hx <;> rw [of_forget] at hx <;> split_ifs at hx
  · exact hx
  · exact hx
  · exact hx

/-- Nor does forgetting texts. -/
theorem within_forgetText (memo : Memo) (ns : List NoteId) : (memo.forgetText ns).Within memo := by
  constructor <;> intro n x hx <;> rw [of_forgetText] at hx <;> split_ifs at hx
  · exact hx
  · exact hx
  · exact hx
  · exact hx
  · exact hx

/-- What is forgotten stays forgotten. -/
theorem Within.of_eq_nothing (h : memo'.Within memo) (hn : memo.of n = {}) : memo'.of n = {} := by
  have hattributes := h.attributes n
  have hancestors := h.ancestors n
  have htext := h.flatText n
  rw [hn] at hattributes hancestors htext
  cases hc : memo'.of n with
  | mk attributes ancestors flatText =>
    rw [hc] at hattributes hancestors htext
    have h1 : attributes = none := Option.eq_none_iff_forall_ne_some.2 fun a ha =>
      absurd (hattributes a ha) (by simp)
    have h2 : ancestors = none := Option.eq_none_iff_forall_ne_some.2 fun a ha =>
      absurd (hancestors a ha) (by simp)
    have h3 : flatText = none := Option.eq_none_iff_forall_ne_some.2 fun a ha =>
      absurd (htext a ha) (by simp)
    rw [h1, h2, h3]

end Memo

namespace Vault

variable {v : Vault}

/-- Forgetting leaves the graph alone. -/
theorem graph_foldl_forgetSubtree (ns : List NoteId) (v : Vault) :
    (ns.foldl forgetSubtree v).graph = v.graph :=
  Graph.view_foldl Vault.graph (fun _ _ => by rfl) ns v

theorem within_foldl_forgetSubtree (ns : List NoteId) (v : Vault) :
    (ns.foldl forgetSubtree v).memo.Within v.memo := by
  induction ns generalizing v with
  | nil => exact .refl _
  | cons n ns ih => exact (ih _).trans (Memo.within_forget _ _)

/-! ## Branches -/

/-- A branch that is not stored is not taken out. -/
theorem deleteBranch_of_none {id : BranchId} (h : v.graph.branches.get? id = none) :
    v.deleteBranch id = v := by
  rw [deleteBranch, h]

/-- A branch is taken out with its edges, and what is below its child is forgotten. -/
theorem deleteBranch_of_some {b : Branch} (h : v.graph.branches.get? b.id = some b) :
    v.deleteBranch b.id =
      ⟨v.graph.eraseBranch b, v.memo.forget (v.graph.subtreeWithUsers b.child)⟩ := by
  rw [deleteBranch, h]
  rfl

/-- Deleting a branch takes it out, if it is stored. -/
theorem deleteBranch_cases (h : v.graph.Keyed) (id : BranchId) :
    v.graph.branches.get? id = none ∧ v.deleteBranch id = v ∨
      ∃ b, b.id = id ∧ v.graph.branches.get? b.id = some b ∧ v.deleteBranch id =
        ⟨v.graph.eraseBranch b, v.memo.forget (v.graph.subtreeWithUsers b.child)⟩ := by
  cases hb : v.graph.branches.get? id with
  | none => exact Or.inl ⟨rfl, deleteBranch_of_none hb⟩
  | some b =>
    obtain rfl := h.branch_id hb
    exact Or.inr ⟨b, rfl, hb, deleteBranch_of_some hb⟩

theorem get?_branches_deleteBranch (h : v.graph.Keyed) (id j : BranchId) :
    (v.deleteBranch id).graph.branches.get? j =
      if j = id then none else v.graph.branches.get? j := by
  rcases deleteBranch_cases h id with ⟨hnone, heq⟩ | ⟨b, rfl, -, heq⟩
  · rw [heq]
    split_ifs with hj
    · rw [hj, hnone]
    · rfl
  · rw [heq, Graph.branches_eraseBranch, Table.get?_erase]

theorem keyed_deleteBranch (h : v.graph.Keyed) (id : BranchId) :
    (v.deleteBranch id).graph.Keyed := by
  rcases deleteBranch_cases h id with ⟨-, heq⟩ | ⟨b, -, -, heq⟩
  · rwa [heq]
  · rw [heq]
    exact h.eraseBranch b

/-- Deleting a branch leaves alone what separating notes leaves alone. -/
theorem deleteBranch_of {β : Type} (view : Graph → β)
    (h : ∀ g b branches, view ((Graph.setBranches g branches).unlinkBranch b) = view g) (v : Vault)
    (id : BranchId) : view (v.deleteBranch id).graph = view v.graph := by
  rw [deleteBranch]
  split
  · rfl
  · exact h _ _ _

/-- Taking out a branch keeps the graph consistent. -/
theorem consistent_deleteBranch (h : v.graph.Consistent) (id : BranchId) :
    (v.deleteBranch id).graph.Consistent := by
  rcases deleteBranch_cases h.keyed id with ⟨-, heq⟩ | ⟨b, -, hb, heq⟩
  · rw [heq]
    exact h
  · rw [heq]
    exact h.eraseBranch hb

/-- The graph with a branch added and the edges in order. -/
def placeBranch (g : Graph) (row : BranchRow) : Graph :=
  ((g.addBranch (Branch.ofRow row)).sortChildren row.parent).resortParents row.child

/-- A branch that is written takes the place of the one with its id, or of none if it is marked as
deleted. -/
theorem upsertBranch_eq (v : Vault) (row : BranchRow) : v.upsertBranch row =
    if row.isDeleted then v.deleteBranch row.id
    else
      let g := placeBranch (v.deleteBranch row.id).graph row
      ⟨g, (v.deleteBranch row.id).memo.forget (g.subtreeWithUsers row.child)⟩ := rfl

/-! ## Attributes -/

theorem afterAttributeChange_eq (v : Vault) (a : Attribute) (affectsSubtree : Bool) :
    v.afterAttributeChange a affectsSubtree =
      ⟨v.graph.resortBelow a, v.memo.forget (v.graph.affectedBy a affectsSubtree)⟩ := by
  rw [afterAttributeChange, Graph.resortBelow]
  by_cases harchived : (a.isLabel && a.name = Attribute.archivedName) = true
  · simp only [harchived, if_true]
    cases affectsSubtree <;> rfl
  · simp only [harchived]
    cases affectsSubtree <;> rfl

/-- An attribute that is not stored is not taken out. -/
theorem deleteAttribute_of_none {id : AttributeId} (h : v.graph.attributes.get? id = none) :
    v.deleteAttribute id = v := by
  rw [deleteAttribute, h]

/-- An attribute is taken out, the parents below its owner are put in order, and what it affects is
forgotten. -/
theorem deleteAttribute_of_some {old : Attribute}
    (h : v.graph.attributes.get? old.id = some old) : v.deleteAttribute old.id =
      ⟨(v.graph.removeAttribute old).resortBelow old,
        v.memo.forget ((v.graph.removeAttribute old).affectedBy old old.affectsSubtree)⟩ := by
  rw [deleteAttribute, h]
  exact afterAttributeChange_eq _ _ _

/-- Deleting an attribute takes it off its owner, if it is stored. -/
theorem deleteAttribute_cases (h : v.graph.Keyed) (id : AttributeId) :
    v.graph.attributes.get? id = none ∧ v.deleteAttribute id = v ∨
      ∃ old, old.id = id ∧ v.graph.attributes.get? old.id = some old ∧ v.deleteAttribute id =
        ⟨(v.graph.removeAttribute old).resortBelow old,
          v.memo.forget ((v.graph.removeAttribute old).affectedBy old old.affectsSubtree)⟩ := by
  cases ha : v.graph.attributes.get? id with
  | none => exact Or.inl ⟨rfl, deleteAttribute_of_none ha⟩
  | some old =>
    obtain rfl := h.attribute_id ha
    exact Or.inr ⟨old, rfl, ha, deleteAttribute_of_some ha⟩

theorem get?_attributes_deleteAttribute (h : v.graph.Keyed) (id j : AttributeId) :
    (v.deleteAttribute id).graph.attributes.get? j =
      if j = id then none else v.graph.attributes.get? j := by
  rcases deleteAttribute_cases h id with ⟨hnone, heq⟩ | ⟨old, rfl, -, heq⟩
  · rw [heq]
    split_ifs with hj
    · rw [hj, hnone]
    · rfl
  · rw [heq, Graph.attributes_resortBelow, Graph.attributes_removeAttribute, Table.get?_erase]

theorem keyed_deleteAttribute (h : v.graph.Keyed) (id : AttributeId) :
    (v.deleteAttribute id).graph.Keyed := by
  rcases deleteAttribute_cases h id with ⟨-, heq⟩ | ⟨old, -, -, heq⟩
  · rwa [heq]
  · rw [heq]
    exact (h.removeAttribute old).of_eq (by simp) (by simp)

/-- Deleting an attribute leaves alone what neither attributes nor the order of parents bear on. -/
theorem deleteAttribute_of {β : Type} (view : Graph → β)
    (hremove : ∀ g a, view (Graph.removeAttribute g a) = view g)
    (hresort : ∀ g n, view (Graph.resortParents g n) = view g) (v : Vault) (id : AttributeId) :
    view (v.deleteAttribute id).graph = view v.graph := by
  rw [deleteAttribute]
  split
  · rfl
  · rw [afterAttributeChange_eq, Graph.resortBelow_of view hresort]
    exact hremove _ _

theorem owned_deleteAttribute_subset (v : Vault) (id : AttributeId) (m : NoteId) :
    (v.deleteAttribute id).graph.owned m ⊆ v.graph.owned m := by
  rw [deleteAttribute]
  split
  · exact fun _ hj => hj
  · next old _ =>
    rw [afterAttributeChange_eq, Graph.owned_resortBelow]
    show (v.graph.removeAttribute old).owned m ⊆ v.graph.owned m
    rw [Graph.owned_removeAttribute]
    split_ifs
    · exact List.filter_subset_self _
    · exact fun _ hj => hj

/-- Taking out an attribute keeps the graph consistent. -/
theorem consistent_deleteAttribute (h : v.graph.Consistent) (id : AttributeId) :
    (v.deleteAttribute id).graph.Consistent := by
  rcases deleteAttribute_cases h.keyed id with ⟨-, heq⟩ | ⟨old, -, hold, heq⟩
  · rw [heq]
    exact h
  · rw [heq]
    exact (h.removeAttribute hold).resortBelow old

theorem hasNote_deleteAttribute (v : Vault) (id : AttributeId) (m : NoteId) :
    (v.deleteAttribute id).graph.hasNote m = v.graph.hasNote m :=
  deleteAttribute_of (Graph.hasNote · m) (by simp) (by simp) v id

theorem upsertAttribute_eq (v : Vault) (row : AttributeRow) : v.upsertAttribute row =
    let w := v.deleteAttribute row.id
    let a := Attribute.ofRow row
    if w.graph.hasNote a.owner then
      ⟨(w.graph.attach a).resortBelow a, w.memo.forget ((w.graph.attach a).affectedBy a
        ((v.graph.attributes.get? row.id).any Attribute.affectsSubtree || a.affectsSubtree))⟩
    else w := by
  rw [upsertAttribute]
  simp only [Graph.addAttribute?_eq]
  split_ifs
  · exact afterAttributeChange_eq _ _ _
  · rfl

/-- An attribute whose owner does not exist is not stored, but the one with its id goes. -/
theorem upsertAttribute_of_unknown {row : AttributeRow} (h : ¬v.graph.hasNote row.owner = true) :
    v.upsertAttribute row = v.deleteAttribute row.id := by
  rw [upsertAttribute_eq]
  dsimp only
  rw [if_neg]
  rw [hasNote_deleteAttribute]
  exact h

/-! ## Notes -/

theorem upsertNote_of_known {row : NoteRow} (h : v.graph.hasNote row.id = true) :
    v.upsertNote row = ⟨v.graph.renewNote row, (v.memo.forget [row.id]).forgetText
      ((v.graph.renewNote row).subtreeWithUsers row.id)⟩ := by
  obtain ⟨note, hnote⟩ := Graph.hasNote_iff.1 h
  have hedges : note.edges = v.graph.edges row.id := by rw [Graph.edges, hnote]
  rw [upsertNote, hnote]
  dsimp only
  rw [hedges]
  rfl

/-- Joining a note with what waited for it does to the graph what `linkAll` and `pointAll` do. -/
theorem linkWaiting_cases (v : Vault) (n : NoteId) :
    (v.linkWaiting n).graph = (v.graph.linkAll (v.graph.branchesAt n)).pointAll n
      (v.graph.relationsTo n) ∧ (v.linkWaiting n).memo.Within v.memo := by
  have hloop : ∀ (relations : List Attribute) (w : Vault),
      (relations.foldl (fun w a => (w.mapGraph (·.modifyEdges n fun e =>
        { e with incoming := e.incoming ++ [a.id] })).forgetSubtree a.owner) w).graph =
          w.graph.pointAll n relations ∧
      (relations.foldl (fun w a => (w.mapGraph (·.modifyEdges n fun e =>
        { e with incoming := e.incoming ++ [a.id] })).forgetSubtree a.owner) w).memo.Within
          w.memo := by
    intro relations
    induction relations with
    | nil => exact fun w => ⟨rfl, .refl _⟩
    | cons a relations ih =>
      intro w
      obtain ⟨hgraph, hmemo⟩ := ih ((w.mapGraph (·.modifyEdges n fun e =>
        { e with incoming := e.incoming ++ [a.id] })).forgetSubtree a.owner)
      exact ⟨hgraph, hmemo.trans (Memo.within_forget _ _)⟩
  have hrelations : (v.graph.linkAll (v.graph.branchesAt n)).relationsTo n =
      v.graph.relationsTo n := by
    rw [Graph.relationsTo, Graph.attributes_linkAll, Graph.relationsTo]
  rw [← hrelations]
  exact hloop _ (v.mapGraph fun g => g.linkAll (g.branchesAt n))

theorem upsertNote_of_new {row : NoteRow} (h : ¬v.graph.hasNote row.id = true) :
    ∃ memo : Memo, memo.Within v.memo ∧ v.upsertNote row = ⟨v.graph.arrive row,
      memo.forget ((v.graph.arrive row).subtreeWithUsers row.id)⟩ := by
  have hnone : v.graph.notes.get? row.id = none := by
    rwa [Graph.hasNote, Table.contains, Option.not_isSome_iff_eq_none] at h
  obtain ⟨hgraph, hmemo⟩ :=
    linkWaiting_cases ((v.mapGraph (putNote · row)).forgetNote row.id) row.id
  refine ⟨_, hmemo.trans (Memo.within_forget _ _), ?_⟩
  rw [upsertNote, hnone]
  dsimp only
  rw [forgetSubtree, mapGraph, hgraph]
  rfl

/-- The vault without the attributes and branches of a note. -/
def strip (v : Vault) (n : NoteId) : Vault :=
  ((v.graph.branchesAt n).map Branch.id).foldl deleteBranch
    ((v.graph.owned n).foldl deleteAttribute v)

/-- A note goes when its attributes and branches have gone, and what users of it as a template have
below them is forgotten. -/
theorem deleteNote_of_known {n : NoteId} (h : v.graph.hasNote n = true) : v.deleteNote n =
    ((v.graph.templatedNotes n).filter (· ≠ n)).foldl forgetSubtree
      ⟨(v.strip n).graph.eraseNote n, (v.strip n).memo.forget [n]⟩ := by
  rw [deleteNote, if_pos h]
  rfl

/-! ### Taking everything off a note -/

theorem foldl_deleteAttribute (ids : List AttributeId) (h : v.graph.Keyed) :
    (ids.foldl deleteAttribute v).graph.Keyed ∧
      ∀ j, (ids.foldl deleteAttribute v).graph.attributes.get? j =
        if j ∈ ids then none else v.graph.attributes.get? j := by
  induction ids generalizing v with
  | nil => exact ⟨h, by simp⟩
  | cons id ids ih =>
    obtain ⟨hkeyed, hget⟩ := ih (keyed_deleteAttribute h id)
    refine ⟨hkeyed, fun j => (hget j).trans ?_⟩
    rw [get?_attributes_deleteAttribute h]
    by_cases hj : j = id <;> simp [hj]

theorem foldl_deleteBranch (ids : List BranchId) (h : v.graph.Keyed) :
    (ids.foldl deleteBranch v).graph.Keyed ∧
      ∀ j, (ids.foldl deleteBranch v).graph.branches.get? j =
        if j ∈ ids then none else v.graph.branches.get? j := by
  induction ids generalizing v with
  | nil => exact ⟨h, by simp⟩
  | cons id ids ih =>
    obtain ⟨hkeyed, hget⟩ := ih (keyed_deleteBranch h id)
    refine ⟨hkeyed, fun j => (hget j).trans ?_⟩
    rw [get?_branches_deleteBranch h]
    by_cases hj : j = id <;> simp [hj]

/-- Attributes go without the branches. -/
theorem branches_foldl_deleteAttribute (ids : List AttributeId) (v : Vault) :
    (ids.foldl deleteAttribute v).graph.branches = v.graph.branches :=
  Graph.view_foldl (·.graph.branches)
    (fun v id => deleteAttribute_of Graph.branches (by simp) (by simp) v id) ids v

/-- No note owns more when attributes have gone. -/
theorem owned_foldl_deleteAttribute_subset (ids : List AttributeId) (v : Vault) (m : NoteId) :
    (ids.foldl deleteAttribute v).graph.owned m ⊆ v.graph.owned m :=
  List.foldlRecOn ids _ (motive := fun w => w.graph.owned m ⊆ v.graph.owned m)
    (fun _ hj => hj) fun w hw id _ => List.Subset.trans (owned_deleteAttribute_subset w id m) hw

/-- What separating notes leaves alone, deleting branches leaves alone. -/
theorem foldl_deleteBranch_of {β : Type} (view : Graph → β)
    (h : ∀ g b branches, view ((Graph.setBranches g branches).unlinkBranch b) = view g)
    (ids : List BranchId) (v : Vault) : view (ids.foldl deleteBranch v).graph = view v.graph :=
  Graph.view_foldl (view ·.graph) (fun v id => deleteBranch_of view h v id) ids v

theorem consistent_foldl_deleteAttribute (ids : List AttributeId) (h : v.graph.Consistent) :
    (ids.foldl deleteAttribute v).graph.Consistent :=
  List.foldlRecOn ids _ (motive := fun w : Vault => w.graph.Consistent) h
    fun _ hw id _ => consistent_deleteAttribute hw id

/-- What deleting attributes and branches preserves holds when everything is taken off a note. -/
theorem strip_induction {P : Vault → Prop} (hattribute : ∀ w id, P w → P (w.deleteAttribute id))
    (hbranch : ∀ w id, P w → P (w.deleteBranch id)) (h : P v) (n : NoteId) : P (v.strip n) := by
  have howned : P ((v.graph.owned n).foldl deleteAttribute v) :=
    List.foldlRecOn _ _ h fun w hw id _ => hattribute w id hw
  exact List.foldlRecOn _ _ howned fun w hw id _ => hbranch w id hw

/-- No stored branch mentions the note, and no attribute that it owns is stored. -/
theorem strip_bare (h : v.graph.Keyed) (n : NoteId) : (v.strip n).graph.Keyed ∧
    (∀ id b, (v.strip n).graph.branches.get? id = some b → b.child ≠ n ∧ b.parent ≠ n) ∧
    ∀ id ∈ (v.strip n).graph.owned n, (v.strip n).graph.attributes.get? id = none := by
  obtain ⟨hkeyed, hattributes⟩ := foldl_deleteAttribute (v.graph.owned n) h
  obtain ⟨hkeyed', hbranches⟩ :=
    foldl_deleteBranch ((v.graph.branchesAt n).map Branch.id) hkeyed
  refine ⟨hkeyed', ?_, ?_⟩
  · intro id b hb
    rw [strip, hbranches, branches_foldl_deleteAttribute] at hb
    split_ifs at hb with hid
    obtain rfl := h.branch_id hb
    by_contra hat
    refine hid (List.mem_map_of_mem ((Graph.mem_branchesAt h.branch_id).2 ⟨hb, ?_⟩))
    by_contra hnot
    exact hat ⟨fun hc => hnot (Or.inl hc), fun hp => hnot (Or.inr hp)⟩
  · intro id hid
    rw [strip, foldl_deleteBranch_of (Graph.owned · n) (by simp)] at hid
    rw [strip, foldl_deleteBranch_of Graph.attributes (by simp), hattributes]
    exact if_pos (owned_foldl_deleteAttribute_subset _ v n hid)

/-- Nothing that is stored mentions the note, except as the target of a relation. -/
theorem strip_cases (h : v.graph.Consistent) (n : NoteId) : (v.strip n).graph.Consistent ∧
    (∀ id b, (v.strip n).graph.branches.get? id = some b → b.child ≠ n ∧ b.parent ≠ n) ∧
    ∀ id a, (v.strip n).graph.attributes.get? id = some a → a.owner ≠ n := by
  have hconsistent : (v.strip n).graph.Consistent :=
    strip_induction (P := fun w => w.graph.Consistent)
      (fun _ id hw => consistent_deleteAttribute hw id)
      (fun _ id hw => consistent_deleteBranch hw id) h n
  obtain ⟨-, hbranches, hattributes⟩ := strip_bare h.keyed n
  refine ⟨hconsistent, hbranches, ?_⟩
  rintro id a ha rfl
  rw [hattributes id (hconsistent.owner ha)] at ha
  exact absurd ha (by simp)

end Vault

end Zettel
