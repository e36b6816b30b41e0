import Zettel.Proofs.Vault.Fresh

/-!
# The departure of a note

A note leaves with its attributes and its branches, one after the other. On the way the vault loses
nothing but these (`LosesAt`), and what draws on the note through a child or a template user is
forgotten with it.

Main statement: `Fresh.deleteNote`.
-/

namespace Zettel.Vault

open Zettel.Graph

variable {v v' v'' : Vault} {n m : NoteId}

/-! ## Losing what belongs to a note -/

/-- The second vault has lost attributes and branches of the note `n`, and nothing else. -/
structure LosesAt (n : NoteId) (v v' : Vault) : Prop where
  hasNote : ∀ m, v'.graph.hasNote m = v.graph.hasNote m
  parents_subset : ∀ m, v'.graph.parents m ⊆ v.graph.parents m
  parents_kept : ∀ m p, m ≠ n → p ≠ n → p ∈ v.graph.parents m → p ∈ v'.graph.parents m
  parents_eq : ∀ m, m ≠ n → n ∉ v.graph.parents m → v'.graph.parents m = v.graph.parents m
  owned : ∀ m, m ≠ n → v'.graph.owned m = v.graph.owned m
  stored : ∀ m, m ≠ n → ∀ id ∈ v.graph.owned m,
    v'.graph.attributes.get? id = v.graph.attributes.get? id
  attributes : ∀ id a, v'.graph.attributes.get? id = some a → v.graph.attributes.get? id = some a
  branches : ∀ id b, v'.graph.branches.get? id = some b → v.graph.branches.get? id = some b
  shows : ∀ m, m ≠ n → (∀ id b, v.graph.branches.get? id = some b → b.child = m → b.parent ≠ n) →
    v.graph.ShowsAlike v'.graph m
  within : v'.memo.Within v.memo

theorem LosesAt.refl (n : NoteId) (v : Vault) : LosesAt n v v where
  hasNote _ := rfl
  parents_subset _ _ hp := hp
  parents_kept _ _ _ _ hp := hp
  parents_eq _ _ _ := rfl
  owned _ _ := rfl
  stored _ _ _ _ := rfl
  attributes _ _ ha := ha
  branches _ _ hb := hb
  shows m _ _ := .refl _ m
  within := .refl _

theorem LosesAt.trans (h : LosesAt n v v') (h' : LosesAt n v' v'') : LosesAt n v v'' where
  hasNote m := (h'.hasNote m).trans (h.hasNote m)
  parents_subset m _ hp := h.parents_subset m (h'.parents_subset m hp)
  parents_kept m p hm hp hmem := h'.parents_kept m p hm hp (h.parents_kept m p hm hp hmem)
  parents_eq m hm hn := by
    have heq := h.parents_eq m hm hn
    exact (h'.parents_eq m hm (heq ▸ hn)).trans heq
  owned m hm := (h'.owned m hm).trans (h.owned m hm)
  stored m hm id hid := by
    have hid' : id ∈ v'.graph.owned m := by rwa [h.owned m hm]
    exact (h'.stored m hm id hid').trans (h.stored m hm id hid)
  attributes id a ha := h.attributes id a (h'.attributes id a ha)
  branches id b hb := h.branches id b (h'.branches id b hb)
  shows m hm hfar := (h.shows m hm hfar).trans
    (h'.shows m hm fun id b hb => hfar id b (h.branches id b hb))
  within := h'.within.trans h.within

/-- Drawing that does not touch the note `n` goes on. -/
theorem LosesAt.draws (h : LosesAt n v v') {u w : NoteId} (hu : u ≠ n) (hw : w ≠ n)
    (hdraws : v.graph.Draws u w) : v'.graph.Draws u w := by
  rcases hdraws with hp | ht
  · obtain ⟨hroot, hp⟩ := mem_parents_of_inheritsFrom hp
    left
    rw [inheritsFrom, if_neg hroot]
    exact h.parents_kept u w hu hw hp
  · right
    rw [h.owned u hu, templateTargets_congr (h.stored u hu)]
    exact ht

/-- Notes that do not draw on `n` have lost nothing. -/
theorem LosesAt.agrees (h : LosesAt n v v') (hv : v.graph.Linked) :
    v.graph.Agrees v'.graph {m | ¬v.graph.DrawsOn m n} := by
  have hne : ∀ m ∈ {m | ¬v.graph.DrawsOn m n}, m ≠ n := by
    rintro m hm rfl
    exact hm .refl
  refine ⟨fun m _ => h.hasNote m, fun m hm => h.parents_eq m (hne m hm) fun hp => ?_,
    fun m hm => h.owned m (hne m hm), fun m hm => h.stored m (hne m hm)⟩
  refine hm (.single (Or.inl ?_))
  rwa [inheritsFrom, if_neg (hv.child_ne_root hp)]

/-! ## One attribute or branch less -/

theorem losesAt_deleteAttribute (hv : v.graph.Consistent) {id : AttributeId}
    (hid : ∀ a, v.graph.attributes.get? id = some a → a.owner = n) :
    LosesAt n v (v.deleteAttribute id) := by
  rcases deleteAttribute_cases hv.keyed id with ⟨-, heq⟩ | ⟨old, rfl, hold, heq⟩
  · rw [heq]
    exact .refl n v
  · obtain rfl := hid old hold
    rw [heq]
    have hperm := parents_resortBelow_perm (v.graph.removeAttribute old) old
    have hparents : ∀ m, (v.graph.removeAttribute old).parents m = v.graph.parents m := fun m =>
      parents_removeAttribute
    constructor
    · simp
    · intro m p hp
      rw [← hparents]
      exact (hperm m).subset hp
    · intro m p _ _ hp
      rw [← hparents] at hp
      exact (hperm m).symm.subset hp
    · intro m _ hn
      rw [← hparents]
      refine parents_resortBelow fun hm => hn ?_
      rw [children_removeAttribute] at hm
      exact hv.mirror.1 hm
    · intro m hm
      simp [owned_removeAttribute, hm]
    · intro m hm id hid
      obtain ⟨a, ha, hown⟩ := hv.owned_stored hid
      rw [attributes_resortBelow, attributes_removeAttribute, Table.get?_erase, if_neg]
      rintro rfl
      obtain rfl := Option.some.inj (hold.symm.trans ha)
      exact hm hown.symm
    · intro id a ha
      rw [attributes_resortBelow, attributes_removeAttribute, Table.get?_erase] at ha
      split_ifs at ha
      exact ha
    · simp
    · exact fun m _ _ => showsAlike_of_eq (by simp) (by simp) (by simp)
    · exact Memo.within_forget _ _

theorem losesAt_deleteBranch (hv : v.graph.Consistent) {id : BranchId}
    (hid : ∀ b, v.graph.branches.get? id = some b → b.child = n ∨ b.parent = n) :
    LosesAt n v (v.deleteBranch id) := by
  rcases deleteBranch_cases hv.keyed id with ⟨-, heq⟩ | ⟨b, rfl, hb, heq⟩
  · rw [heq]
    exact .refl n v
  · have hat := hid b hb
    rw [heq]
    constructor
    · simp
    · intro m p hp
      exact (hv.mem_parents_eraseBranch.1 hp).1
    · intro m p hm hp hmem
      refine hv.mem_parents_eraseBranch.2 ⟨hmem, ?_⟩
      rintro ⟨rfl, rfl⟩
      exact hat.elim hm hp
    · intro m hm hn
      rw [parents_eraseBranch]
      split_ifs with hc
      · have hparent : b.parent = n := hat.resolve_left fun h => hm (hc.trans h)
        rw [hparent, List.erase_of_not_mem hn]
      · rfl
    · simp
    · simp
    · simp
    · intro id b' hb'
      rw [branches_eraseBranch, Table.get?_erase] at hb'
      split_ifs at hb'
      exact hb'
    · intro m hm hfar
      refine hv.showsAlike_eraseBranch hb ?_
      rintro rfl
      exact hfar b.id b hb rfl (hat.resolve_left hm)
    · exact Memo.within_forget _ _

/-! ## Drawing past a note -/

/-- A note draws on another one, and neither is `n`. -/
def DrawsPast (g : Graph) (n u w : NoteId) : Prop := g.Draws u w ∧ u ≠ n ∧ w ≠ n

/-- Whatever draws on `n` does so by way of a last note before it. -/
theorem exists_last_of_drawsOn {g : Graph} (hm : m ≠ n) (h : g.DrawsOn m n) :
    ∃ y, y ≠ n ∧ Relation.ReflTransGen (DrawsPast g n) m y ∧ g.Draws y n := by
  induction h using Relation.ReflTransGen.head_induction_on with
  | refl => exact absurd rfl hm
  | @head a b hab _ ih =>
    by_cases hb : b = n
    · exact ⟨a, hm, .refl, hb ▸ hab⟩
    · obtain ⟨y, hy, hby, hyn⟩ := ih hb
      exact ⟨y, hy, .head ⟨hab, hm, hb⟩ hby, hyn⟩

theorem LosesAt.drawsPast (h : LosesAt n v v') {y : NoteId}
    (hm : Relation.ReflTransGen (DrawsPast v.graph n) m y) :
    Relation.ReflTransGen (DrawsPast v'.graph n) m y :=
  Relation.ReflTransGen.mono (fun _ _ hd => ⟨h.draws hd.2.1 hd.2.2 hd.1, hd.2.1, hd.2.2⟩) _ _ hm

theorem drawsOn_of_drawsPast {g : Graph} {y : NoteId}
    (hm : Relation.ReflTransGen (DrawsPast g n) m y) : g.DrawsOn m y :=
  Relation.ReflTransGen.mono (fun _ _ hd => hd.1) _ _ hm

/-! ## Taking everything off the note -/

theorem losesAt_foldl_deleteAttribute (ids : List AttributeId) (hv : v.graph.Consistent)
    (hids : ∀ id ∈ ids, ∀ a, v.graph.attributes.get? id = some a → a.owner = n) :
    LosesAt n v (ids.foldl deleteAttribute v) := by
  induction ids generalizing v with
  | nil => exact .refl n v
  | cons id ids ih =>
    have hstep := losesAt_deleteAttribute hv (hids id List.mem_cons_self)
    refine hstep.trans (ih (consistent_deleteAttribute hv id) fun id' hid' a ha => ?_)
    exact hids id' (List.mem_cons_of_mem _ hid') a (hstep.attributes id' a ha)

/-- With a branch at the note, everything that draws on the child of the branch is forgotten. -/
theorem losesAt_foldl_deleteBranch (ids : List BranchId) (hv : v.graph.Consistent)
    (hids : ∀ id ∈ ids, ∀ b, v.graph.branches.get? id = some b → b.child = n ∨ b.parent = n) :
    LosesAt n v (ids.foldl deleteBranch v) ∧
      ∀ id ∈ ids, ∀ b, v.graph.branches.get? id = some b → v.graph.hasNote b.child = true →
        ∀ m, Relation.ReflTransGen (DrawsPast v.graph n) m b.child →
          (ids.foldl deleteBranch v).memo.of m = {} := by
  induction ids generalizing v with
  | nil => exact ⟨.refl n v, by simp⟩
  | cons id ids ih =>
    have hstep := losesAt_deleteBranch hv (hids id List.mem_cons_self)
    obtain ⟨hrest, hforgotten⟩ := ih (consistent_deleteBranch hv id) fun id' hid' b hb =>
      hids id' (List.mem_cons_of_mem _ hid') b (hstep.branches id' b hb)
    refine ⟨hstep.trans hrest, fun id' hid' b hb hchild m hm => ?_⟩
    by_cases heq : id' = id
    · subst heq
      have hid := hv.branch_id hb
      subst hid
      refine hrest.within.of_eq_nothing ?_
      rw [deleteBranch_of_some hb, Memo.of_forget, if_pos]
      exact hv.mem_subtreeWithUsers_of_drawsOn hchild (drawsOn_of_drawsPast hm)
    · have hmem := (List.mem_cons.1 hid').resolve_left heq
      refine hforgotten id' hmem b ?_ ?_ m (hstep.drawsPast hm)
      · rwa [get?_branches_deleteBranch hv.keyed, if_neg heq]
      · rwa [hstep.hasNote]

theorem foldl_forgetSubtree_forgets {ns : List NoteId} {y : NoteId} (hy : y ∈ ns)
    (hm : m ∈ v.graph.subtreeWithUsers y) : (ns.foldl forgetSubtree v).memo.of m = {} := by
  induction ns generalizing v with
  | nil => exact absurd hy (by simp)
  | cons a ns ih =>
    rcases List.mem_cons.1 hy with rfl | hy
    · refine (within_foldl_forgetSubtree ns _).of_eq_nothing ?_
      rw [forgetSubtree, Memo.of_forget, if_pos hm]
    · exact ih hy hm

/-- The vault that a note has been stripped in, and then taken out of. -/
theorem strip_spec (hv : v.graph.Consistent) : LosesAt n v (v.strip n) ∧
    (v.strip n).graph.Consistent ∧
    ∀ b, v.graph.branches.get? b.id = some b → b.child = n ∨ b.parent = n →
      v.graph.hasNote b.child = true →
        ∀ m, Relation.ReflTransGen (DrawsPast v.graph n) m b.child →
          (v.strip n).memo.of m = {} := by
  have howned : ∀ id ∈ v.graph.owned n, ∀ a, v.graph.attributes.get? id = some a → a.owner = n := by
    intro id hid a ha
    obtain ⟨a', ha', hown⟩ := hv.owned_stored hid
    obtain rfl := Option.some.inj (ha.symm.trans ha')
    exact hown
  have hfirst := losesAt_foldl_deleteAttribute (v.graph.owned n) hv howned
  have hconsistent := consistent_foldl_deleteAttribute (v.graph.owned n) hv
  have hbranches := branches_foldl_deleteAttribute (v.graph.owned n) v
  have hat : ∀ id ∈ (v.graph.branchesAt n).map Branch.id, ∀ b,
      ((v.graph.owned n).foldl deleteAttribute v).graph.branches.get? id = some b →
        b.child = n ∨ b.parent = n := by
    intro id hid b hb
    obtain ⟨b', hb', rfl⟩ := List.mem_map.1 hid
    obtain ⟨hstored, hat⟩ := (mem_branchesAt hv.branch_id).1 hb'
    rw [hbranches] at hb
    obtain rfl := Option.some.inj (hstored.symm.trans hb)
    exact hat
  obtain ⟨hsecond, hforgotten⟩ := losesAt_foldl_deleteBranch _ hconsistent hat
  refine ⟨hfirst.trans hsecond, (strip_cases hv n).1, ?_⟩
  intro b hb hatb hchild m hm
  refine hforgotten b.id ?_ b ?_ ?_ m (hfirst.drawsPast hm)
  · exact List.mem_map_of_mem ((mem_branchesAt hv.branch_id).2 ⟨hb, hatb⟩)
  · rwa [hbranches]
  · rwa [hfirst.hasNote]

/-! ## Taking the note out -/

theorem agrees_eraseNote (g : Graph) {S : Set NoteId} (hS : ∀ m ∈ S, m ≠ n) :
    g.Agrees (g.eraseNote n) S where
  hasNote m hm := by simp [hasNote_eraseNote, hS m hm]
  parents m hm := by simp [parents, edges_eraseNote, hS m hm]
  owned m hm := by simp [owned, edges_eraseNote, hS m hm]
  stored _ _ _ _ := rfl

theorem drawsOn_eraseNote {g : Graph} {y : NoteId}
    (hm : Relation.ReflTransGen (DrawsPast g n) m y) : (g.eraseNote n).DrawsOn m y := by
  have hagrees := agrees_eraseNote (n := n) g (S := {m | m ≠ n}) fun _ hm => hm
  exact Relation.ReflTransGen.mono (fun _ _ hd => (hagrees.draws_iff hd.2.1).2 hd.1) _ _ hm

/-- **Deleting a note leaves a vault fresh.** What draws on the note and stays does so by way of a
child, whose branch is deleted, or of a template user; with either it is forgotten. -/
theorem Fresh.deleteNote (h : v.Fresh) (hv : v.graph.Consistent) (n : NoteId) :
    (v.deleteNote n).Fresh := by
  by_cases hn : v.graph.hasNote n = true
  · have hdeleted := Graph.isKept_consistent.deleteNote hv n hv
    obtain ⟨hlost, -, hforgotten⟩ := strip_spec (n := n) hv
    rw [deleteNote_of_known hn] at hdeleted ⊢
    rw [graph_foldl_forgetSubtree] at hdeleted
    generalize hw : ((v.graph.templatedNotes n).filter (· ≠ n)).foldl forgetSubtree
      ⟨(v.strip n).graph.eraseNote n, (v.strip n).memo.forget [n]⟩ = w
    have hgraph : w.graph = (v.strip n).graph.eraseNote n := by
      rw [← hw, graph_foldl_forgetSubtree]
    have hmemo : w.memo.Within (v.strip n).memo := by
      rw [← hw]
      exact (within_foldl_forgetSubtree _ _).trans (Memo.within_forget _ _)
    have hne : ∀ m ∈ {m | ¬v.graph.DrawsOn m n}, m ≠ n := by
      rintro m hm rfl
      exact hm .refl
    have hclosed : v.graph.Closed {m | ¬v.graph.DrawsOn m n} := fun m hm x hx hxn =>
      hm (.head hx hxn)
    refine h.of_agrees hv.toLinked (hgraph ▸ hdeleted.toLinked) (hmemo.trans hlost.within)
      (hgraph ▸ (hlost.agrees hv.toLinked).trans (agrees_eraseNote _ hne)) hclosed fun m hm => ?_
    rw [hgraph, hasNote_eraseNote, Bool.and_eq_true, decide_eq_true_eq, hlost.hasNote] at hm
    obtain ⟨hmn, hnote⟩ := hm
    by_cases hdraws : v.graph.DrawsOn m n
    · left
      obtain ⟨y, hy, hmy, hyn⟩ := exists_last_of_drawsOn hmn hdraws
      have hynote := hyn.hasNote
      rcases hyn with hp | ht
      · -- the branch between `y` and the note has been deleted
        obtain ⟨id, b, hb, rfl, hparent⟩ :=
          hv.placement_stored (mem_parents_of_inheritsFrom hp).2
        obtain rfl := hv.branch_id hb
        exact hmemo.of_eq_nothing (hforgotten b hb (Or.inr hparent) hynote m hmy)
      · -- the note was a template of `y`
        have huser := hv.mem_templateUsers_of_target ht hn
        rw [← hw]
        refine foldl_forgetSubtree_forgets (y := y) ?_ ?_
        · exact List.mem_filter.2 ⟨mem_templatedNotes_iff.2 ⟨hn, .single huser⟩, by simpa using hy⟩
        · refine hdeleted.mem_subtreeWithUsers_of_drawsOn ?_
            (drawsOn_eraseNote (hlost.drawsPast hmy))
          simp [hasNote_eraseNote, hy, hlost.hasNote, hynote]
    · by_cases hfar : ∀ id b, v.graph.branches.get? id = some b → b.child = m → b.parent ≠ n
      · refine Or.inr ⟨hdraws, (hlost.shows m hmn hfar).trans ?_⟩
        rw [hgraph]
        exact showsAlike_of_eq (bare?_eraseNote hmn)
          (by simp [parentBranches, edges_eraseNote, hmn]) rfl
      · left
        push Not at hfar
        obtain ⟨id, b, hb, rfl, hparent⟩ := hfar
        obtain rfl := hv.branch_id hb
        exact hmemo.of_eq_nothing (hforgotten b hb (Or.inr hparent) hnote _ .refl)
  · rw [Vault.deleteNote, if_neg hn]
    exact h

end Zettel.Vault
