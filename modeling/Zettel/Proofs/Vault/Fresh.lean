import Zettel.Proofs.Graph.Closure
import Zettel.Proofs.Locality
import Zettel.Proofs.Vault.Kept

/-!
# Fresh vaults

A vault is fresh if everything that it remembers is what the view gives with nothing remembered. A
change leaves it fresh if it forgets all notes but those of a closed set on which the graphs before
and after agree (`Fresh.of_agrees`). The notes that are not reached from the changed one are such a
set, for each kind of change.

Main statements: `Fresh.deleteBranch`, `Fresh.upsertBranch`, `Fresh.deleteAttribute`,
`Fresh.upsertAttribute` and `Fresh.upsertNote`.
-/

namespace Zettel

/-! ## Freshness -/

namespace Vault

/-- What is remembered of the notes is what the views give with nothing remembered. -/
structure Fresh (v : Vault) : Prop where
  attributes : ∀ n a, v.graph.hasNote n = true → (v.memo.of n).attributes = some a →
    a = (v.graph.attributesOf n ∅).1
  ancestors : ∀ n ns, v.graph.hasNote n = true → (v.memo.of n).ancestors = some ns →
    ns = (v.graph.ancestors n ∅).1
  flatText : ∀ n text, v.graph.hasNote n = true → (v.memo.of n).flatText = some text →
    text = (v.graph.flatText n ∅).1

variable {v v' : Vault}

theorem fresh_iff : v.Fresh ↔ ∀ n, v.graph.hasNote n = true → v.graph.Fits n (v.memo.of n) := by
  constructor
  · intro h n hn
    refine ⟨fun a ha => ?_, fun ns hns => ?_, fun text ht => ?_⟩
    · rw [h.attributes n a hn ha, (v.graph.gives_attributesOf n).fst_empty]
    · rw [h.ancestors n ns hn hns, (v.graph.gives_ancestors n).fst_empty]
    · rw [h.flatText n text hn ht, (v.graph.gives_flatText n).fst_empty]
  · intro h
    refine ⟨fun n a hn ha => ?_, fun n ns hn hns => ?_, fun n text hn ht => ?_⟩
    · rw [(v.graph.gives_attributesOf n).fst_empty, (h n hn).attributes a ha]
    · rw [(v.graph.gives_ancestors n).fst_empty, (h n hn).ancestors ns hns]
    · rw [(v.graph.gives_flatText n).fst_empty, (h n hn).flatText text ht]

/-- **The criterion**: a change that forgets everything outside a closed set, and does not touch the
notes of the set, leaves the vault fresh. -/
theorem Fresh.of_agrees (h : v.Fresh) {S : Set NoteId} (hg : v.graph.Linked)
    (hg' : v'.graph.Linked) (hmemo : v'.memo.Within v.memo)
    (hagrees : v.graph.Agrees v'.graph S) (hS : v.graph.Closed S)
    (hkept : ∀ n, v'.graph.hasNote n = true →
      v'.memo.of n = {} ∨ n ∈ S ∧ v.graph.ShowsAlike v'.graph n) : v'.Fresh := by
  refine fresh_iff.2 fun n hn => ?_
  rcases hkept n hn with hnothing | ⟨hmem, hshow⟩
  · rw [hnothing]
    exact .nothing _ n
  · have hn' : v.graph.hasNote n = true := by rwa [← hagrees.hasNote n hmem]
    have hfits := (fresh_iff.1 h n hn').of_agrees hagrees hS hg hg' hmem hshow
    exact ⟨fun a ha => hfits.attributes a (hmemo.attributes n a ha),
      fun ns hns => hfits.ancestors ns (hmemo.ancestors n ns hns),
      fun text ht => hfits.flatText text (hmemo.flatText n text ht)⟩

end Vault

/-! ## What each change leaves alone -/

namespace Graph

variable {g : Graph} {b : Branch} {a : Attribute} {n : NoteId}

/-- The notes that are not reached from `n`. -/
def apartFrom (g : Graph) (n : NoteId) : Set NoteId := {m | m ∉ g.subtreeWithUsers n}

theorem ne_of_mem_apartFrom {m : NoteId} (h : m ∈ g.apartFrom n) (hm : g.hasNote m = true) :
    m ≠ n := by
  rintro rfl
  exact h (self_mem_walkDown hm)

theorem not_mem_children_of_mem_apartFrom (hg : g.Linked) {m : NoteId} (h : m ∈ g.apartFrom n) :
    m ∉ g.children n := by
  intro hm
  have hn := hasNote_of_mem_children hm
  have hm' := hasNote_of_mem_parents (hg.mirror.1 hm)
  exact h (mem_walkDown_of_step (self_mem_walkDown hn) (List.mem_append_left _ hm) hm')

theorem agrees_eraseBranch (g : Graph) (b : Branch) :
    g.Agrees (g.eraseBranch b) (g.apartFrom b.child) where
  hasNote n _ := by simp
  parents n hn := by
    rw [parents_eraseBranch]
    split_ifs with hc
    · have hunknown : ¬g.hasNote n = true := fun hnote => ne_of_mem_apartFrom hn hnote hc
      rw [parents, edges_of_unknown hunknown]
      rfl
    · rfl
  owned n _ := by simp
  stored n _ id _ := by simp

theorem Linked.showsAlike_eraseBranch (h : g.Linked) (hb : g.branches.get? b.id = some b)
    (hn : n ≠ b.child) : g.ShowsAlike (g.eraseBranch b) n := by
  refine showsAlike_of_branches (by simp) ?_ fun id hid => ?_
  · rw [parentBranches_eraseBranch, if_neg hn]
  · obtain ⟨b', hb', hc⟩ := h.parentBranch_stored hid
    rw [branches_eraseBranch, Table.get?_erase, if_neg]
    rintro rfl
    obtain rfl := Option.some.inj (hb.symm.trans hb')
    exact hn hc.symm

/-- Two notes without edges have the same parents. -/
theorem parents_eq_of_unknown {g' : Graph} (hg : ¬g.hasNote n = true) (hg' : ¬g'.hasNote n = true) :
    g'.parents n = g.parents n := by
  rw [parents, parents, edges_of_unknown hg, edges_of_unknown hg']

section PlaceBranch

variable {row : BranchRow}

@[simp]
theorem hasNote_placeBranch : (Vault.placeBranch g row).hasNote n = g.hasNote n := by
  simp [Vault.placeBranch]

theorem agrees_placeBranch (g : Graph) (row : BranchRow) :
    g.Agrees (Vault.placeBranch g row) ((Vault.placeBranch g row).apartFrom row.child) where
  hasNote n _ := hasNote_placeBranch
  parents n hn := by
    by_cases hnote : g.hasNote n = true
    · have hne : n ≠ row.child := ne_of_mem_apartFrom hn (by simpa using hnote)
      rw [Vault.placeBranch, parents_resortParents, if_neg hne, parents_sortChildren, addBranch_eq,
        parents_linkBranch, if_neg fun hj => hne hj.2, parents_setBranches]
    · exact parents_eq_of_unknown hnote (by simpa using hnote)
  owned n _ := by simp [Vault.placeBranch]
  stored n _ id _ := by simp [Vault.placeBranch]

theorem Linked.showsAlike_placeBranch (h : g.Linked) (hfree : g.branches.get? row.id = none)
    (hn : n ≠ row.child) : g.ShowsAlike (Vault.placeBranch g row) n := by
  refine showsAlike_of_branches (by simp [Vault.placeBranch]) ?_ fun id hid => ?_
  · rw [Vault.placeBranch, parentBranches_resortParents, parentBranches_sortChildren, addBranch_eq,
      parentBranches_linkBranch, if_neg fun hj => hn hj.1.1, parentBranches_setBranches]
  · obtain ⟨b, hb, -⟩ := h.parentBranch_stored hid
    have hne : id ≠ row.id := by
      rintro rfl
      rw [hfree] at hb
      exact absurd hb (by simp)
    rw [Vault.placeBranch, branches_resortParents, branches_sortChildren, branches_addBranch,
      Table.get?_insert]
    exact if_neg hne

end PlaceBranch

theorem agrees_resortBelow (hg : g.Linked) (a : Attribute) :
    g.Agrees (g.resortBelow a) (g.apartFrom a.owner) where
  hasNote n _ := by simp
  parents n hn := parents_resortBelow (not_mem_children_of_mem_apartFrom hg hn)
  owned n _ := by simp
  stored n _ id _ := by simp

theorem Attached.agrees_removeAttribute (h : g.Attached)
    (ha : g.attributes.get? a.id = some a) :
    g.Agrees (g.removeAttribute a) ((g.removeAttribute a).apartFrom a.owner) := by
  have hne : ∀ n ∈ (g.removeAttribute a).apartFrom a.owner, n ≠ a.owner := fun n hn heq =>
    ne_of_mem_apartFrom hn (by simpa [heq] using hasNote_of_mem_owned (h.owner ha)) heq
  refine ⟨fun n _ => by simp, fun n _ => by simp, fun n hn => ?_, fun n hn id hid => ?_⟩
  · rw [owned_removeAttribute, if_neg (hne n hn)]
  · obtain ⟨a', ha', hown⟩ := h.owned_stored hid
    rw [attributes_removeAttribute, Table.get?_erase, if_neg]
    rintro rfl
    obtain rfl := Option.some.inj (ha.symm.trans ha')
    exact hne n hn hown.symm

theorem Attached.agrees_attach (h : g.Attached) (hn : g.hasNote a.owner = true)
    (hfree : g.attributes.get? a.id = none) :
    g.Agrees (g.attach a) ((g.attach a).apartFrom a.owner) := by
  refine ⟨fun n _ => by simp, fun n _ => by simp, fun n hn' => ?_, fun n _ id hid => ?_⟩
  · have hne : n ≠ a.owner := fun heq => ne_of_mem_apartFrom hn' (by simpa [heq] using hn) heq
    rw [owned_attach hn, if_neg hne]
  · obtain ⟨a', ha', -⟩ := h.owned_stored hid
    rw [attributes_attach, Table.get?_insert, if_neg]
    rintro rfl
    rw [hfree] at ha'
    exact absurd ha' (by simp)

/-- Attributes are not part of what a note shows. -/
theorem showsAlike_of_eq {g' : Graph} (hbare : g'.bare? n = g.bare? n)
    (hnoted : g'.parentBranches n = g.parentBranches n) (hbranches : g'.branches = g.branches) :
    g.ShowsAlike g' n :=
  showsAlike_of_branches hbare hnoted fun id _ => by rw [hbranches]

section Arrive

variable {row : NoteRow}

theorem Consistent.agrees_arrive (h : g.Consistent) (hnew : ¬g.hasNote row.id = true) :
    g.Agrees (g.arrive row) ((g.arrive row).apartFrom row.id) := by
  have harrive := h.arrive hnew
  have hne : ∀ n ∈ (g.arrive row).apartFrom row.id, n ≠ row.id := fun n hn heq =>
    ne_of_mem_apartFrom hn (by simp [hasNote_arrive, heq]) heq
  refine ⟨fun n hn => ?_, fun n hn => ?_, fun n _ => ?_, fun n _ id _ => by simp [Graph.arrive]⟩
  · simp [hasNote_arrive, hne n hn]
  · have hparents : (g.arrive row).parents n =
        ((Vault.putNote g row).linkAll ((Vault.putNote g row).branchesAt row.id)).parents n := by
      rw [Graph.arrive, parents_resortParents, if_neg (hne n hn), parents_pointAll]
    have hbranches : ∀ b ∈ (Vault.putNote g row).branchesAt row.id,
        b.child = row.id ∨ b.parent = row.id := fun b hb => by
      simpa using (List.mem_filter.1 hb).2
    rw [parents_linkAll hbranches (hne n hn)] at hparents
    split_ifs at hparents with hjoined
    · have hmem : row.id ∈ (g.arrive row).parents n := by simp [hparents]
      exact absurd (harrive.mirror.2 hmem)
        (not_mem_children_of_mem_apartFrom harrive.toLinked hn)
    · rw [hparents, parents, edges_putNote_of_new hnew, parents]
  · rw [Graph.arrive, owned_resortParents, owned_pointAll, owned_linkAll, owned,
      edges_putNote_of_new hnew, owned]

theorem Consistent.showsAlike_arrive (h : g.Consistent) (hnew : ¬g.hasNote row.id = true)
    (hn : n ≠ row.id) : g.ShowsAlike (g.arrive row) n := by
  refine showsAlike_of_eq ?_ ?_ (by simp [Graph.arrive])
  · simp [Graph.arrive, bare?_putNote, hn]
  · rw [Graph.arrive, parentBranches_resortParents, parentBranches_pointAll, parentBranches_linkAll,
      parentBranches, edges_putNote_of_new hnew, parentBranches]
    intro b hb hc hnote
    rw [hasNote_putNote, Bool.or_eq_true, decide_eq_true_eq] at hnote
    have hstored := ((mem_branchesAt (h.toLinked.putNote hnew).branch_id).1 hb).1
    rw [parentBranches, edges_putNote_of_new hnew, ← hc]
    exact h.noted hstored (hc ▸ hnote.resolve_left hn)

end Arrive

end Graph

/-! ## What each change leaves fresh -/

namespace Vault

variable {v : Vault}

/-- The criterion for the changes that forget what is reached from one note in a graph `g`. -/
theorem Fresh.of_apartFrom (h : v.Fresh) (hv : v.graph.Linked) {g g' : Graph} (hg : g.Consistent)
    (hg' : g'.Linked) {memo : Memo} (hmemo : memo.Within v.memo) {n : NoteId}
    (hagrees : v.graph.Agrees g (g.apartFrom n)) (hagrees' : g.Agrees g' (g.apartFrom n))
    (hshow : ∀ m ∈ g.apartFrom n, g'.hasNote m = true → v.graph.ShowsAlike g' m) :
    Fresh ⟨g', memo.forget (g.subtreeWithUsers n)⟩ := by
  have hclosed : g.Closed (g.apartFrom n) := hg.closed_compl_subtreeWithUsers n
  refine h.of_agrees hv hg' ((Memo.within_forget _ _).trans hmemo) (hagrees.trans hagrees')
    (hagrees.symm.closed hclosed) fun m hm => ?_
  by_cases hreached : m ∈ g.subtreeWithUsers n
  · left
    rw [Memo.of_forget, if_pos hreached]
  · exact Or.inr ⟨hreached, hshow m hreached hm⟩

/-- **Deleting a branch leaves a vault fresh.** -/
theorem Fresh.deleteBranch (h : v.Fresh) (hv : v.graph.Consistent) (id : BranchId) :
    (v.deleteBranch id).Fresh := by
  rcases deleteBranch_cases hv.keyed id with ⟨-, heq⟩ | ⟨b, -, hb, heq⟩
  · rw [heq]
    exact h
  · rw [heq]
    refine h.of_apartFrom hv.toLinked hv (hv.eraseBranch hb).toLinked (.refl _) (.refl _ _)
      (Graph.agrees_eraseBranch _ b) fun m hm hnote => ?_
    exact hv.showsAlike_eraseBranch hb (Graph.ne_of_mem_apartFrom hm (by simpa using hnote))

/-- **Putting a branch leaves a vault fresh.** -/
theorem Fresh.upsertBranch (h : v.Fresh) (hv : v.graph.Consistent) (row : BranchRow) :
    (v.upsertBranch row).Fresh := by
  have hdeleted := h.deleteBranch hv row.id
  have hconsistent := consistent_deleteBranch hv row.id
  have hplaced := Graph.isKept_consistent.upsertBranch hv row hv
  have hfree : (v.deleteBranch row.id).graph.branches.get? row.id = none := by
    rw [get?_branches_deleteBranch hv.keyed]
    exact if_pos rfl
  rw [upsertBranch_eq] at hplaced ⊢
  split_ifs at hplaced ⊢
  · exact hdeleted
  · refine hdeleted.of_apartFrom hconsistent.toLinked hplaced hplaced.toLinked (.refl _)
      (Graph.agrees_placeBranch _ row) (.refl _ _) fun m hm hnote => ?_
    exact hconsistent.showsAlike_placeBranch hfree (Graph.ne_of_mem_apartFrom hm hnote)

/-- **Deleting an attribute that affects a subtree leaves a vault fresh.** -/
theorem Fresh.deleteAttribute (h : v.Fresh) (hv : v.graph.Consistent) {id : AttributeId}
    (haffects : ∀ old, v.graph.attributes.get? id = some old → old.affectsSubtree = true) :
    (v.deleteAttribute id).Fresh := by
  have hconsistent := consistent_deleteAttribute hv id
  rcases deleteAttribute_cases hv.keyed id with ⟨-, heq⟩ | ⟨old, rfl, hold, heq⟩
  · rw [heq]
    exact h
  · rw [heq] at hconsistent ⊢
    rw [haffects old hold, Graph.affectedBy, if_pos rfl]
    have hremoved := hv.removeAttribute hold
    refine h.of_apartFrom hv.toLinked hremoved hconsistent.toLinked (.refl _)
      (hv.agrees_removeAttribute hold) (Graph.agrees_resortBelow hremoved.toLinked old) ?_
    exact fun m _ _ => Graph.showsAlike_of_eq (by simp) (by simp) (by simp)

/-- **Putting an attribute that affects a subtree leaves a vault fresh.** -/
theorem Fresh.upsertAttribute (h : v.Fresh) (hv : v.graph.Consistent) {row : AttributeRow}
    (hold : ∀ old, v.graph.attributes.get? row.id = some old → old.affectsSubtree = true)
    (hnew : (Attribute.ofRow row).affectsSubtree = true) : (v.upsertAttribute row).Fresh := by
  have hdeleted := h.deleteAttribute hv hold
  have hconsistent := consistent_deleteAttribute hv row.id
  have hresult := Graph.isKept_consistent.upsertAttribute hv row hv
  have hfree : (v.deleteAttribute row.id).graph.attributes.get? row.id = none := by
    rw [get?_attributes_deleteAttribute hv.keyed]
    exact if_pos rfl
  rw [upsertAttribute_eq] at hresult ⊢
  dsimp only at hresult ⊢
  split_ifs at hresult ⊢ with hn
  · rw [hnew, Bool.or_true, Graph.affectedBy, if_pos rfl]
    have hattached := hconsistent.attach hn hfree
    refine hdeleted.of_apartFrom hconsistent.toLinked hattached hresult.toLinked (.refl _)
      (hconsistent.agrees_attach hn hfree) (Graph.agrees_resortBelow hattached.toLinked _) ?_
    exact fun m _ _ => Graph.showsAlike_of_eq (by simp) (by simp) (by simp)
  · exact hdeleted

/-- **Putting a note, known or new, leaves a vault fresh.** -/
theorem Fresh.upsertNote (h : v.Fresh) (hv : v.graph.Consistent) (row : NoteRow) :
    (v.upsertNote row).Fresh := by
  by_cases hn : v.graph.hasNote row.id = true
  · rw [upsertNote_of_known hn]
    refine h.of_agrees (S := Set.univ) hv.toLinked (hv.renewNote hn).toLinked ?_ ?_ ?_ ?_
    · exact (Memo.within_forgetText _ _).trans (Memo.within_forget _ _)
    · exact ⟨fun m _ => Graph.hasNote_renewNote hn, fun m _ => by simp [Graph.parents],
        fun m _ => by simp [Graph.owned], fun m _ id _ => rfl⟩
    · exact fun _ _ _ _ => Set.mem_univ _
    · intro m hm
      by_cases hrow : m = row.id
      · left
        simp [Memo.of_forgetText, Memo.of_forget, hrow]
      · exact Or.inr ⟨Set.mem_univ _, Graph.showsAlike_of_eq (by simp [Graph.bare?_renewNote, hrow])
          (by simp [Graph.parentBranches]) rfl⟩
  · obtain ⟨memo, hmemo, heq⟩ := upsertNote_of_new hn
    have harrive := hv.arrive hn
    rw [heq]
    refine h.of_apartFrom hv.toLinked harrive harrive.toLinked hmemo (hv.agrees_arrive hn)
      (.refl _ _) fun m hm hnote => ?_
    exact hv.showsAlike_arrive hn (Graph.ne_of_mem_apartFrom hm hnote)

end Vault

end Zettel
