import Zettel.Proofs.Inheritance.Plain
import Zettel.Proofs.Vault.Fresh
import Zettel.Proofs.Vault.Invalidation

/-!
# Changes of plain attributes

A change between plain attributes forgets the owner, the notes that use it as their template, the
users of these, and so on. These need not be all notes that take the attributes of the owner: an
inheritable template relation that a note acquires from a template of its own reaches the notes
below, and these are not looked for. A note that is missed keeps what was remembered of it.

Main statements: `Reachable.keepsContent_iff_covered`, when such a change leaves right what is
remembered, and `stale_acquiringVault`, a vault where it does not.
-/

namespace Zettel

namespace Graph

variable {g g₁ g' : Graph} {a : Attribute} {n : NoteId}

/-! ## What depends on a plain attribute -/

/-- Nothing of the note depends on the attribute: the note does not take it, and putting parents in
order below the owner does not show in what the note collects. -/
structure Spares (g : Graph) (a : Attribute) (n : NoteId) : Prop where
  takesNone : ¬g.TakesAll a.owner n
  resorted : (g.resortBelow a).attributesAt n = g.attributesAt n

/-- All notes that depend on the attribute use its owner as their template, or use a user of it, and
so on. -/
def Covers (g : Graph) (a : Attribute) : Prop :=
  ∀ n, g.hasNote n = true → n ∉ g.templatedNotes a.owner → g.Spares a n

/-- The note has the same attributes and the same flat text in both graphs. -/
structure ReadsAlike (g g' : Graph) (n : NoteId) : Prop where
  attributes : g'.attributesAt n = g.attributesAt n
  flatText : g'.flatTextAt n = g.flatTextAt n

theorem filter_all_of_not_mem {c : Attributes} {id : AttributeId} (h : id ∉ c.all) :
    (⟨c.all.filter (· ≠ id), c.inheritable⟩ : Attributes) = c := by
  have hkept : c.all.filter (· ≠ id) = c.all := by
    refine List.filter_eq_self.2 fun i hi => ?_
    rw [decide_eq_true_eq]
    rintro rfl
    exact h hi
  rw [hkept]

theorem Attached.resortBelow (hg : g.Attached) (a : Attribute) : (g.resortBelow a).Attached :=
  hg.of_eq attributes_resortBelow fun _ => owned_resortBelow

section Lacks

variable (h : g.Lacks g₁ a)
include h

/-- With the attribute a note has it exactly if it takes it. -/
theorem Lacks.mem_attributesAt (hg : g.Attached) :
    a.id ∈ (g.attributesAt n).all ↔ g.TakesAll a.owner n := by
  rw [mem_attributesAt_iff hg.ownsKnown,
    has_iff_takesAll hg h.present (Bool.or_eq_false_iff.1 h.plain).1]

/-- Without the attribute no note has it. -/
theorem Lacks.not_mem_attributesAt : a.id ∉ (g₁.attributesAt n).all := by
  rw [attributesAt_of_lacks h]
  simp

/-- A note that does not take the attribute has the same attributes without it. -/
theorem Lacks.attributesAt_of_not_takesAll (hg : g.Attached) (hn : ¬g.TakesAll a.owner n) :
    g₁.attributesAt n = g.attributesAt n := by
  rw [attributesAt_of_lacks h]
  exact filter_all_of_not_mem (mt (h.mem_attributesAt hg).1 hn)

/-- The notes that collect the same before and after the attribute is removed. -/
theorem Lacks.attributesAt_removed_iff (hg : g.Attached)
    (hchildren : g₁.children a.owner = g.children a.owner) :
    (g₁.resortBelow a).attributesAt n = g.attributesAt n ↔ g.Spares a n := by
  have h' := h.resortBelow hchildren
  have hg' := hg.resortBelow a
  constructor
  · intro heq
    have hnot : ¬g.TakesAll a.owner n := by
      rw [← h.mem_attributesAt hg, ← heq]
      exact h'.not_mem_attributesAt
    have hnot' : ¬(g.resortBelow a).TakesAll a.owner n := mt takesAll_resortBelow.1 hnot
    exact ⟨hnot, (h'.attributesAt_of_not_takesAll hg' hnot').symm.trans heq⟩
  · intro hspares
    have hnot' : ¬(g.resortBelow a).TakesAll a.owner n :=
      mt takesAll_resortBelow.1 hspares.takesNone
    exact (h'.attributesAt_of_not_takesAll hg' hnot').trans hspares.resorted

/-- The notes that collect the same before and after the attribute is attached. -/
theorem Lacks.attributesAt_attached_iff (hg : g.Attached)
    (hchildren : g₁.children a.owner = g.children a.owner) :
    (g.resortBelow a).attributesAt n = g₁.attributesAt n ↔ g₁.Spares a n := by
  have h' := h.resortBelow hchildren
  have hg' := hg.resortBelow a
  have htakes : (g.resortBelow a).TakesAll a.owner n ↔ g₁.TakesAll a.owner n :=
    takesAll_resortBelow.trans h.takesAll_iff.symm
  constructor
  · intro heq
    have hnot' : ¬(g.resortBelow a).TakesAll a.owner n := by
      rw [← h'.mem_attributesAt hg', heq]
      exact h.not_mem_attributesAt
    exact ⟨mt htakes.2 hnot', (h'.attributesAt_of_not_takesAll hg' hnot').trans heq⟩
  · intro hspares
    have hnot' : ¬(g.resortBelow a).TakesAll a.owner n := mt htakes.1 hspares.takesNone
    exact (h'.attributesAt_of_not_takesAll hg' hnot').symm.trans hspares.resorted

theorem Lacks.readsAlike_removed_iff (hg : g.Attached)
    (hchildren : g₁.children a.owner = g.children a.owner)
    (hshow : g.ShowsAlike (g₁.resortBelow a) n) :
    g.ReadsAlike (g₁.resortBelow a) n ↔ g.Spares a n := by
  rw [← h.attributesAt_removed_iff hg hchildren]
  refine ⟨ReadsAlike.attributes, fun hsame => ⟨hsame, ?_⟩⟩
  refine flatTextAt_congr hsame (fun id hid => ?_) hshow
  have hne : id ≠ a.id := by
    rintro rfl
    rw [← hsame] at hid
    exact (h.resortBelow hchildren).not_mem_attributesAt hid
  rw [attributes_resortBelow, h.stored, if_neg hne]

theorem Lacks.readsAlike_attached_iff (hg : g.Attached)
    (hchildren : g₁.children a.owner = g.children a.owner)
    (hshow : g₁.ShowsAlike (g.resortBelow a) n) :
    g₁.ReadsAlike (g.resortBelow a) n ↔ g₁.Spares a n := by
  rw [← h.attributesAt_attached_iff hg hchildren]
  refine ⟨ReadsAlike.attributes, fun hsame => ⟨hsame, ?_⟩⟩
  refine flatTextAt_congr hsame (fun id hid => ?_) hshow
  have hne : id ≠ a.id := by
    rintro rfl
    exact h.not_mem_attributesAt hid
  rw [attributes_resortBelow, h.stored, if_neg hne]

/-- Where all else is the same, a plain attribute has no bearing on the users of templates. -/
theorem Lacks.mem_templatedNotes {m : NoteId} (hchildren : ∀ n, g₁.children n = g.children n)
    (hincoming : ∀ n id, id ≠ a.id → (id ∈ g₁.incoming n ↔ id ∈ g.incoming n)) :
    m ∈ g₁.templatedNotes n ↔ m ∈ g.templatedNotes n := by
  refine mem_templatedNotes_congr h.hasNote hchildren fun n r hr => exists_congr fun id => ?_
  rw [h.stored]
  by_cases hid : id = a.id
  · subst hid
    have hne : g.attributes.get? a.id ≠ some r := fun hget => by
      have hplain := h.plain
      obtain rfl := Option.some.inj (h.present.symm.trans hget)
      rw [Attribute.affectsSubtree, hr, Bool.or_true] at hplain
      exact absurd hplain (by simp)
    simp [hne]
  · rw [if_neg hid, hincoming n id hid]

end Lacks

/-! ## What a change of a plain attribute forgets -/

/-- A plain attribute affects the templated notes of its owner. -/
theorem mem_affectedBy_false (hn : g.hasNote a.owner = true) :
    n ∈ g.affectedBy a false ↔ n ∈ g.templatedNotes a.owner := by
  rw [affectedBy, if_neg (by simp), List.mem_cons, or_iff_right_iff_imp]
  rintro rfl
  exact mem_templatedNotes_iff.2 ⟨hn, .refl⟩

section Removed

variable (hg : g.Attached) (ha : g.attributes.get? a.id = some a)
  (hplain : a.affectsSubtree = false)
include hg ha hplain

/-- A plain attribute is no template, so without it the templated notes are the same. -/
theorem mem_templatedNotes_removeAttribute {o : NoteId} :
    n ∈ (g.removeAttribute a).templatedNotes o ↔ n ∈ g.templatedNotes o := by
  refine (hg.lacks_removeAttribute ha hplain).mem_templatedNotes (by simp) fun m id hid => ?_
  rw [incoming_removeAttribute]
  split_ifs
  · simp [hid]
  · rfl

/-- A plain attribute that has been removed affects the notes that it affected before. -/
theorem mem_affectedBy_removeAttribute :
    n ∈ (g.removeAttribute a).affectedBy a false ↔ n ∈ g.templatedNotes a.owner := by
  have howner : g.hasNote a.owner = true := hasNote_of_mem_owned (hg.owner ha)
  rw [mem_affectedBy_false (by simpa using howner)]
  exact mem_templatedNotes_removeAttribute hg ha hplain

/-- What reads the same before and after an attribute is removed. -/
theorem readsAlike_removeAttribute_iff :
    g.ReadsAlike ((g.removeAttribute a).resortBelow a) n ↔ g.Spares a n :=
  (hg.lacks_removeAttribute ha hplain).readsAlike_removed_iff hg (by simp)
    (showsAlike_of_eq (by simp) (by simp) (by simp))

end Removed

section Attached

variable (hg : g.Consistent) (hn : g.hasNote a.owner = true)
  (hfree : g.attributes.get? a.id = none) (hplain : a.affectsSubtree = false)
include hg hn hfree hplain

theorem mem_affectedBy_attach :
    n ∈ (g.attach a).affectedBy a false ↔ n ∈ g.templatedNotes a.owner := by
  have hlacks := hg.lacks_attach hn hfree hplain
  rw [mem_affectedBy_false (by simpa using hn)]
  refine (hlacks.mem_templatedNotes (by simp) fun m id hid => ?_).symm
  rw [incoming_attach]
  split_ifs
  · simp [hid]
  · rfl

/-- What reads the same before and after an attribute is attached. -/
theorem readsAlike_attach_iff :
    g.ReadsAlike ((g.attach a).resortBelow a) n ↔ g.Spares a n :=
  (hg.lacks_attach hn hfree hplain).readsAlike_attached_iff (hg.attach hn hfree).toAttached
    (by simp) (showsAlike_of_eq (by simp) (by simp) (by simp))

end Attached

/-! ## One version in place of another -/

/-- The graph without an attribute, with the parents below its owner in order. -/
def withdraw (g : Graph) (old : Attribute) : Graph := (g.removeAttribute old).resortBelow old

/-- The graph with one version of an attribute in place of another. -/
def replace (g : Graph) (old new : Attribute) : Graph :=
  ((g.withdraw old).attach new).resortBelow new

/-- All notes that read differently afterwards are templated notes of the owner before or after. -/
def CoversReplacement (g : Graph) (old new : Attribute) : Prop :=
  ∀ n, g.hasNote n = true → n ∉ g.templatedNotes old.owner → n ∉ g.templatedNotes new.owner →
    g.ReadsAlike (g.replace old new) n

section Replaced

variable {old new : Attribute}

theorem Consistent.withdraw (hg : g.Consistent) (hold : g.attributes.get? old.id = some old) :
    (g.withdraw old).Consistent :=
  (hg.removeAttribute hold).resortBelow old

/-- The attribute is gone from its table. -/
theorem get?_withdraw (hid : new.id = old.id) :
    (g.withdraw old).attributes.get? new.id = none := by
  rw [Graph.withdraw, attributes_resortBelow, attributes_removeAttribute, Table.get?_erase, hid,
    if_pos rfl]

@[simp]
theorem hasNote_withdraw : (g.withdraw old).hasNote n = g.hasNote n := by
  simp [Graph.withdraw]

variable (hg : g.Consistent) (hold : g.attributes.get? old.id = some old)
  (hid : new.id = old.id) (hn : g.hasNote new.owner = true)
  (hplain : old.affectsSubtree = false) (hplain' : new.affectsSubtree = false)
include hg hold hid hn hplain hplain'

/-- A new version of an attribute affects the templated notes of its owner. -/
theorem mem_affectedBy_replace : n ∈ ((g.withdraw old).attach new).affectedBy new false ↔
    n ∈ g.templatedNotes new.owner := by
  have hn' : (g.withdraw old).hasNote new.owner = true := by simpa using hn
  rw [mem_affectedBy_attach (hg.withdraw hold) hn' (get?_withdraw hid) hplain',
    ← mem_templatedNotes_removeAttribute hg.toAttached hold hplain]
  exact mem_templatedNotes_congr (by simp [Graph.withdraw]) (by simp [Graph.withdraw])
    fun m r _ => by simp [Graph.withdraw]

end Replaced

end Graph

/-! ## Content -/

namespace Vault

/-- What is remembered of the attributes and of the flat texts of the notes is what the views give
with nothing remembered. -/
structure ContentFresh (v : Vault) : Prop where
  attributes : ∀ n a, v.graph.hasNote n = true → (v.memo.of n).attributes = some a →
    a = (v.graph.attributesOf n ∅).1
  flatText : ∀ n text, v.graph.hasNote n = true → (v.memo.of n).flatText = some text →
    text = (v.graph.flatText n ∅).1

variable {v : Vault} {g g' : Graph} {a : Attribute} {memo : Memo} {ns : List NoteId} {n : NoteId}

/-- What is right of all views is right of attributes and flat texts. -/
theorem Fresh.content (h : v.Fresh) : v.ContentFresh := ⟨h.attributes, h.flatText⟩

/-- What is not forgotten has to read the same in both graphs. -/
theorem ContentFresh.forget (h : ContentFresh ⟨g, memo⟩)
    (hnote : ∀ n, g'.hasNote n = g.hasNote n)
    (halike : ∀ n, g.hasNote n = true → n ∉ ns → g.ReadsAlike g' n) :
    ContentFresh ⟨g', memo.forget ns⟩ := by
  have hkept : ∀ n, n ∈ ns → (memo.forget ns).of n = {} := fun n hn => by
    rw [Memo.of_forget, if_pos hn]
  have hleft : ∀ n, n ∉ ns → (memo.forget ns).of n = memo.of n := fun n hn => by
    rw [Memo.of_forget, if_neg hn]
  constructor
  · intro n a hn ha
    by_cases hns : n ∈ ns
    · rw [hkept n hns] at ha
      exact absurd ha (by simp)
    · rw [hleft n hns] at ha
      have hn' : g.hasNote n = true := by rwa [← hnote]
      have hvalue := h.attributes n a hn' ha
      rw [(g.gives_attributesOf n).fst_empty, ← (halike n hn' hns).attributes] at hvalue
      rw [(g'.gives_attributesOf n).fst_empty, hvalue]
  · intro n text hn htext
    by_cases hns : n ∈ ns
    · rw [hkept n hns] at htext
      exact absurd htext (by simp)
    · rw [hleft n hns] at htext
      have hn' : g.hasNote n = true := by rwa [← hnote]
      have hvalue := h.flatText n text hn' htext
      rw [(g.gives_flatText n).fst_empty, ← (halike n hn' hns).flatText] at hvalue
      rw [(g'.gives_flatText n).fst_empty, hvalue]

/-- Only what reads the same in both graphs can do without being forgotten. -/
theorem readsAlike_of_forget
    (h : ∀ memo : Memo, Fresh ⟨g, memo⟩ → ContentFresh ⟨g', memo.forget ns⟩)
    (hn : g'.hasNote n = true) (hns : n ∉ ns) : g.ReadsAlike g' n := by
  let memo : Memo := Memo.remember ∅ n fun c =>
    { c with attributes := some (g.attributesAt n), flatText := some (g.flatTextAt n) }
  have hfresh : Fresh ⟨g, memo⟩ := by
    refine fresh_iff.2 fun m _ => ?_
    rw [Memo.of_remember]
    split_ifs with hm
    · subst hm
      exact { Graph.Fits.nothing g m with
        attributes := fun _ ha => (Option.some.inj ha).symm
        flatText := fun _ ht => (Option.some.inj ht).symm }
    · exact .nothing g m
  have hkept : (memo.forget ns).of n =
      { attributes := some (g.attributesAt n), flatText := some (g.flatTextAt n) } := by
    rw [Memo.of_forget, if_neg hns, Memo.of_remember, if_pos rfl]
    rfl
  have hcontent := h memo hfresh
  constructor
  · rw [hcontent.attributes n (g.attributesAt n) hn (by rw [hkept]),
      (g'.gives_attributesOf n).fst_empty]
  · rw [hcontent.flatText n (g.flatTextAt n) hn (by rw [hkept]), (g'.gives_flatText n).fst_empty]

/-- **What has to be forgotten**: the notes that read differently afterwards. -/
theorem forall_contentFresh_iff (hnote : ∀ n, g'.hasNote n = g.hasNote n) :
    (∀ memo : Memo, Fresh ⟨g, memo⟩ → ContentFresh ⟨g', memo.forget ns⟩) ↔
      ∀ n, g.hasNote n = true → n ∉ ns → g.ReadsAlike g' n := by
  constructor
  · intro h n hn hns
    exact readsAlike_of_forget h (by rwa [hnote]) hns
  · intro halike memo hmemo
    exact hmemo.content.forget hnote halike

end Vault

/-! ## Updates of plain attributes -/

namespace Update

/-- The update is one of an attribute that is plain before and after. -/
def isPlain (g : Graph) : Update → Bool
  | .upsertAttribute row => !(g.attributes.get? row.id).any Attribute.affectsSubtree &&
      !(Attribute.ofRow row).affectsSubtree
  | .deleteAttribute id => !(g.attributes.get? id).any Attribute.affectsSubtree
  | _ => false

/-- All notes that read differently after the update are templated notes of an owner of the
attribute: what leaves or comes is covered. -/
def Covered (g : Graph) : Update → Prop
  | .upsertAttribute row =>
    match g.attributes.get? row.id, g.hasNote row.owner with
    | none, true => g.Covers (.ofRow row)
    | none, false => True
    | some old, true => g.CoversReplacement old (.ofRow row)
    | some old, false => g.Covers old
  | .deleteAttribute id => ∀ old, g.attributes.get? id = some old → g.Covers old
  | _ => True

/-- Whatever is remembered before, if it is right then attributes and flat texts are right
afterwards. -/
def KeepsContent (g : Graph) (u : Update) : Prop :=
  ∀ memo : Memo, Vault.Fresh ⟨g, memo⟩ → (Vault.apply ⟨g, memo⟩ u).ContentFresh

end Update

namespace Vault

variable {v : Vault} {u : Update} {g : Graph} {old : Attribute} {id : AttributeId}
  {row : AttributeRow}

/-- Nothing goes wrong where there is nothing to delete. -/
theorem keepsContent_deleteAttribute_of_none (hnone : g.attributes.get? id = none) :
    Update.KeepsContent g (.deleteAttribute id) := by
  intro memo hmemo
  rw [Vault.apply, deleteAttribute_of_none (v := ⟨g, memo⟩) hnone]
  exact hmemo.content

theorem keepsContent_deleteAttribute_iff (hg : g.Consistent)
    (hold : g.attributes.get? old.id = some old) (hplain : old.affectsSubtree = false) :
    Update.KeepsContent g (.deleteAttribute old.id) ↔ g.Covers old := by
  have happly : ∀ memo : Memo, Vault.apply ⟨g, memo⟩ (.deleteAttribute old.id) =
      ⟨g.withdraw old, memo.forget ((g.removeAttribute old).affectedBy old false)⟩ := by
    intro memo
    rw [Vault.apply, deleteAttribute_of_some (v := ⟨g, memo⟩) hold, hplain]
    rfl
  simp only [Update.KeepsContent, happly]
  rw [forall_contentFresh_iff (by simp)]
  refine forall_congr' fun n => imp_congr_right fun _ => ?_
  rw [Graph.mem_affectedBy_removeAttribute hg.toAttached hold hplain]
  exact imp_congr_right fun _ => Graph.readsAlike_removeAttribute_iff hg.toAttached hold hplain

/-- An attribute of an unknown owner is not stored; what is left is the deletion of its old
version. -/
theorem keepsContent_upsertAttribute_of_unknown (hn : ¬g.hasNote row.owner = true) :
    Update.KeepsContent g (.upsertAttribute row) ↔
      Update.KeepsContent g (.deleteAttribute row.id) := by
  refine forall_congr' fun memo => imp_congr_right fun _ => ?_
  rw [Vault.apply, Vault.apply, upsertAttribute_of_unknown (v := ⟨g, memo⟩) hn]

section Known

variable (hg : g.Consistent) (hn : g.hasNote row.owner = true)
  (hplain : (Attribute.ofRow row).affectsSubtree = false)
include hg hn hplain

theorem keepsContent_upsertAttribute_iff (hfree : g.attributes.get? row.id = none) :
    Update.KeepsContent g (.upsertAttribute row) ↔ g.Covers (.ofRow row) := by
  have happly : ∀ memo : Memo, Vault.apply ⟨g, memo⟩ (.upsertAttribute row) =
      ⟨(g.attach (.ofRow row)).resortBelow (.ofRow row),
        memo.forget ((g.attach (.ofRow row)).affectedBy (.ofRow row) false)⟩ := by
    intro memo
    rw [Vault.apply, upsertAttribute_eq, deleteAttribute_of_none (v := ⟨g, memo⟩) hfree]
    dsimp only
    rw [if_pos (show g.hasNote (Attribute.ofRow row).owner = true from hn), hfree, hplain]
    rfl
  simp only [Update.KeepsContent, happly]
  rw [forall_contentFresh_iff (by simp)]
  refine forall_congr' fun n => imp_congr_right fun _ => ?_
  rw [Graph.mem_affectedBy_attach hg hn hfree hplain]
  exact imp_congr_right fun _ => Graph.readsAlike_attach_iff hg hn hfree hplain

theorem keepsContent_replacement_iff (hold : g.attributes.get? old.id = some old)
    (hid : row.id = old.id) (hplain' : old.affectsSubtree = false) :
    Update.KeepsContent g (.upsertAttribute row) ↔ g.CoversReplacement old (.ofRow row) := by
  have happly : ∀ memo : Memo, Vault.apply ⟨g, memo⟩ (.upsertAttribute row) =
      ⟨g.replace old (.ofRow row),
        memo.forget ((g.removeAttribute old).affectedBy old false ++
          ((g.withdraw old).attach (.ofRow row)).affectedBy (.ofRow row) false)⟩ := by
    intro memo
    have hn' : ((g.removeAttribute old).resortBelow old).hasNote (Attribute.ofRow row).owner =
        true := by simpa [Attribute.ofRow] using hn
    rw [Vault.apply, upsertAttribute_eq, hid, deleteAttribute_of_some (v := ⟨g, memo⟩) hold,
      hplain']
    dsimp only
    rw [if_pos hn', hold, hplain, Option.any_some, hplain', Memo.forget_append]
    rfl
  simp only [Update.KeepsContent, happly]
  rw [forall_contentFresh_iff (by simp [Graph.replace])]
  refine forall_congr' fun n => imp_congr_right fun _ => ?_
  rw [List.mem_append, not_or, Graph.mem_affectedBy_removeAttribute hg.toAttached hold hplain',
    Graph.mem_affectedBy_replace hg hold hid hn hplain' hplain]
  exact and_imp

end Known

/-- **A change of a plain attribute leaves attributes and flat texts right exactly if all notes
that read differently afterwards are templated notes of the owner.** -/
theorem Reachable.keepsContent_iff_covered (hv : v.Reachable) (hu : u.isPlain v.graph = true) :
    u.KeepsContent v.graph ↔ u.Covered v.graph := by
  have hg := hv.consistent
  cases u with
  | upsertAttribute row =>
    rw [Update.isPlain, Bool.and_eq_true, Bool.not_eq_true', Bool.not_eq_true'] at hu
    obtain ⟨hplain, hplain'⟩ := hu
    rw [Update.Covered]
    cases hold : v.graph.attributes.get? row.id with
    | none =>
      cases hn : v.graph.hasNote row.owner with
      | true => exact keepsContent_upsertAttribute_iff hg hn hplain' hold
      | false =>
        rw [keepsContent_upsertAttribute_of_unknown (by simp [hn])]
        exact iff_true_intro (keepsContent_deleteAttribute_of_none hold)
    | some old =>
      have hid : old.id = row.id := hg.attribute_id hold
      rw [hold] at hplain
      rw [← hid] at hold
      cases hn : v.graph.hasNote row.owner with
      | true => exact keepsContent_replacement_iff hg hn hplain' hold hid.symm hplain
      | false =>
        rw [keepsContent_upsertAttribute_of_unknown (by simp [hn]), ← hid]
        exact keepsContent_deleteAttribute_iff hg hold hplain
  | deleteAttribute id =>
    rw [Update.isPlain, Bool.not_eq_true'] at hu
    rw [Update.Covered]
    cases hold : v.graph.attributes.get? id with
    | none => exact iff_of_true (keepsContent_deleteAttribute_of_none hold) (by simp)
    | some old =>
      obtain rfl := hg.attribute_id hold
      rw [hold] at hu
      simpa using keepsContent_deleteAttribute_iff hg hold hu
  | _ => exact absurd hu (by simp [Update.isPlain])

/-- A plain label. -/
def plainRow : AttributeRow := .label "p" "x" "plain" ""

/-- A chain of two templates, and a note apart. -/
def chainVault : Vault :=
  [Update.upsertNote { id := "x", title := "x" }, .upsertNote { id := "y", title := "y" },
    .upsertNote { id := "z", title := "z" }, .upsertNote { id := "w", title := "w" },
    .upsertAttribute (.relation "t" "y" "template" "x"),
    .upsertAttribute (.relation "s" "z" "template" "y")].foldl apply .empty

theorem covers_chainVault : chainVault.graph.Covers (.ofRow plainRow) := by
  intro n hn hns
  have hreachable : chainVault.Reachable := .foldl_apply _ .empty
  have hapart : n = "w" := by
    have hkeys : chainVault.graph.notes.keys = ["x", "y", "z", "w"] := by decide +kernel
    have htemplated : chainVault.graph.templatedNotes "x" = ["x", "y", "z"] := by decide +kernel
    have hmem := Table.contains_iff.1 hn
    change n ∉ chainVault.graph.templatedNotes "x" at hns
    rw [hkeys] at hmem
    rw [htemplated] at hns
    simp_all
  have hnone : (chainVault.graph.attributesAt n).all = [] := by
    rw [hapart]
    decide +kernel
  constructor
  · intro htakes
    cases htakes with
    | self => exact absurd hapart (by decide)
    | template hr _ _ =>
      rw [← Graph.mem_attributesAt_iff hreachable.consistent.ownsKnown, hnone] at hr
      exact absurd hr (by simp)
  · rw [Graph.resortBelow, if_neg (by decide +kernel)]

theorem keepsContent_chainVault : chainVault.Reachable ∧
    Update.isPlain chainVault.graph (.upsertAttribute plainRow) = true ∧
    Update.Covered chainVault.graph (.upsertAttribute plainRow) ∧
    Update.KeepsContent chainVault.graph (.upsertAttribute plainRow) := by
  have hreachable : chainVault.Reachable := .foldl_apply _ .empty
  have hplain : Update.isPlain chainVault.graph (.upsertAttribute plainRow) = true := by
    decide +kernel
  have hcovered : Update.Covered chainVault.graph (.upsertAttribute plainRow) := by
    have hfree : chainVault.graph.attributes.get? plainRow.id = none := by decide +kernel
    have hn : chainVault.graph.hasNote plainRow.owner = true := by decide +kernel
    rw [Update.Covered, hfree, hn]
    exact covers_chainVault
  exact ⟨hreachable, hplain, hcovered, (hreachable.keepsContent_iff_covered hplain).2 hcovered⟩

/-- A note above another one acquires an inheritable template relation. -/
def acquiringVault : Vault :=
  [Update.upsertNote { id := "x", title := "x" }, .upsertNote { id := "o", title := "o" },
    .upsertNote { id := "m", title := "m" }, .upsertNote { id := "c", title := "c" },
    .upsertBranch { id := "b", child := "c", parent := "m" },
    .upsertAttribute (AttributeRow.relation "t" "o" "template" "x").inheritable,
    .upsertAttribute (.relation "s" "m" "template" "o")].foldl apply .empty

/-- The note below takes the label that comes to the last template, but is missed: what was read of
it before stays. -/
theorem stale_acquiringVault : (acquiringVault.ask (.flatText "c")).Reachable ∧
    (acquiringVault.ask (.flatText "c")).Fresh ∧
    Update.isPlain acquiringVault.graph (.upsertAttribute plainRow) = true ∧
    ¬((acquiringVault.ask (.flatText "c")).apply (.upsertAttribute plainRow)).ContentFresh := by
  refine ⟨(Reachable.foldl_apply _ .empty).ask _, ?_, by decide +kernel, fun h => ?_⟩
  · exact fresh_of_remembers (remembers_ask (remembers_of_nothing (by decide +kernel)) _)
  · have hstale := h.attributes "c" ⟨["t"], ["t"]⟩ (by decide +kernel) (by decide +kernel)
    exact absurd hstale (by decide +kernel)

end Vault

end Zettel
