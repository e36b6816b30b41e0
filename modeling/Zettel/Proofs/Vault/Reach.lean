import Zettel.Proofs.Graph.Closure
import Zettel.Proofs.Inheritance.Plain
import Zettel.Proofs.Vault.Filed
import Zettel.Proofs.Vault.PlainChange

/-!
# The notes that an attribute applies to

Search finds the notes with an attribute by walking from its owner, downwards and to the users of
templates, while the attributes of a note are collected upwards. For an inheritable attribute both
agree. For any other the walk goes along template users alone, and these are looked for below the
owner of a relation only; it passes over the notes below a note that acquired the relation from a
template of its own.

Main statements: `Reachable.mem_reachOf_of_inheritable`, and
`Reachable.mem_reachOf_of_not_inheritable`, where the walk agrees exactly if it follows the acquired
relations.
-/

namespace Zettel.Graph

variable {g g' : Graph} {a r : Attribute} {n m o : NoteId}

/-! ## Relations point back -/

/-- What is noted as pointing at a note is a stored relation to it. -/
def PointsBack (g : Graph) : Prop := ∀ ⦃n id⦄, id ∈ g.incoming n →
  ∃ a, g.attributes.get? id = some a ∧ a.target? = some n

/-- Where relations are listed on their targets, they point back. -/
theorem Filed.pointsBack (h : g.Filed) : g.PointsBack := fun n id hid =>
  ((h.incoming n (hasNote_of_mem_incoming hid)).mem_iff id).1 hid

/-! ## Walking down keeps what is had -/

/-- What is inheritable comes down from a note to the notes below. -/
theorem Linked.holds_of_mem_children (h : g.Linked) {b : Bool} {id : AttributeId}
    (hid : g.IsInheritable id) (hn : g.Holds [] b n id) (hm : m ∈ g.children n) :
    g.Holds [] true m id := by
  have hp := h.mirror.1 hm
  refine .inherit (by simp) ?_ hn hid
  rwa [inheritsFrom, if_neg (h.child_ne_root hp)]

theorem Linked.holds_of_mem_subtree (h : g.Linked) {id : AttributeId} (hid : g.IsInheritable id)
    (hn : g.Holds [] true n id) (hm : m ∈ g.subtree n) : g.Holds [] true m id := by
  obtain ⟨-, hpath⟩ := mem_walkDown_iff.1 hm
  clear hm
  induction hpath with
  | refl => exact hn
  | tail _ hstep ih => exact h.holds_of_mem_children hid ih hstep.1

/-- A note that is found by a template relation has the relation, of its own or from above. -/
theorem Consistent.holds_of_mem_reachedByTemplate (h : g.Consistent)
    (hr : g.attributes.get? r.id = some r) (hm : m ∈ g.reachedByTemplate r) :
    g.Holds [] true m r.id := by
  have hown : g.Holds [] true r.owner r.id := .own (by simp) (h.owner hr)
  rw [reachedByTemplate] at hm
  split_ifs at hm with _ hinheritable
  · exact h.toLinked.holds_of_mem_subtree ⟨r, hr, hinheritable⟩ hown hm
  · rwa [List.mem_singleton.1 hm]
  · exact absurd hm (by simp)

/-- A note that uses a template has a relation to it. -/
theorem Consistent.exists_relation_of_mem_templateUsers (h : g.Consistent) (hback : g.PointsBack)
    (hm : m ∈ g.templateUsers n) : ∃ r, g.Holds [] true m r ∧ g.IsTemplateTo r n := by
  obtain ⟨id, hid, r, hr, hreached⟩ := mem_templateUsers.1 hm
  obtain rfl := h.attribute_id hr
  obtain ⟨r', hr', ht⟩ := hback hid
  obtain rfl := Option.some.inj (hr.symm.trans hr')
  have htemplate := isTemplate_of_mem_reachedByTemplate hreached
  rw [target?_of_isTemplate htemplate] at ht
  exact ⟨r.id, h.holds_of_mem_reachedByTemplate hr hreached, r, hr, htemplate,
    Option.some.inj ht⟩

/-- The user of a template has what the template has. -/
theorem Consistent.has_of_mem_templateUsers (h : g.Consistent) (hback : g.PointsBack)
    {id : AttributeId} (hn : g.Has [] n id) (hm : m ∈ g.templateUsers n) : g.Has [] m id := by
  obtain ⟨r, hr, hto⟩ := h.exists_relation_of_mem_templateUsers hback hm
  exact Has.of_template ⟨_, hr⟩ hto hn

/-! ## Inheritable attributes -/

/-- **The walk downwards and to template users finds the notes that have an inheritable
attribute.** What it finds has the attribute, step by step; and a note with the attribute draws on
the owner, which leads back to the note. -/
theorem Consistent.mem_subtreeWithUsers_iff (h : g.Consistent) (hback : g.PointsBack)
    (ha : g.attributes.get? a.id = some a) (hinheritable : a.isInheritable = true) :
    n ∈ g.subtreeWithUsers a.owner ↔ g.Has [] n a.id := by
  constructor
  · intro hn
    obtain ⟨-, hpath⟩ := mem_walkDown_iff.1 hn
    clear hn
    induction hpath with
    | refl => exact ⟨true, .own (by simp) (h.owner ha)⟩
    | tail _ hstep ih =>
      rcases List.mem_append.1 hstep.1 with hchild | huser
      · obtain ⟨b, hb⟩ := ih
        exact ⟨true, h.toLinked.holds_of_mem_children ⟨a, ha, hinheritable⟩ hb hchild⟩
      · exact h.has_of_mem_templateUsers hback ih huser
  · intro hn
    rw [← mem_attributesAt_iff h.ownsKnown] at hn
    obtain ⟨w, hw, hown⟩ := owner_of_mem_gather _ _ n _ hn
    obtain ⟨a', ha', rfl⟩ := h.owned_stored hown
    obtain rfl := Option.some.inj (ha.symm.trans ha')
    exact h.mem_subtreeWithUsers_of_drawsOn (hasNote_of_mem_owned hown) hw

/-! ## Other attributes -/

/-- What is below a templated note that acquired an inheritable template relation to a templated
note, from a template of its own, is templated too. -/
def FollowsAcquired (g : Graph) (o : NoteId) : Prop :=
  ∀ m ∈ g.templatedNotes o, ∀ r : Attribute, g.attributes.get? r.id = some r →
    r.isTemplate = true → r.isInheritable = true → r.value ∈ g.templatedNotes o →
    r.id ∈ (g.attributesAt m).all → m ∉ g.subtree r.owner →
    ∀ c ∈ g.children m, c ∈ g.templatedNotes o

/-- **The walk along template users finds notes that take all attributes of the first one.** -/
theorem Consistent.takesAll_of_mem_templatedNotes (h : g.Consistent) (hback : g.PointsBack)
    (hn : n ∈ g.templatedNotes o) : g.TakesAll o n := by
  obtain ⟨-, hpath⟩ := mem_templatedNotes_iff.1 hn
  clear hn
  induction hpath with
  | refl => exact .self
  | tail _ hstep ih =>
    obtain ⟨r, hr, hto⟩ := h.exists_relation_of_mem_templateUsers hback hstep
    exact .template ⟨_, hr⟩ hto ih

/-- A note with a template relation to a templated note is templated. The induction is on how the
note has the relation; it is below a note that has it from its owner, or below one that acquired
it. -/
theorem Consistent.mem_templatedNotes_of_holds (h : g.Consistent) (hfollows : g.FollowsAcquired o)
    {b : Bool} {id : AttributeId} (hn : g.Holds [] b n id) :
    ∀ {t : NoteId}, g.IsTemplateTo id t → t ∈ g.templatedNotes o → n ∈ g.templatedNotes o := by
  induction hn with
  | own _ hown =>
    intro t hto ht
    refine mem_templatedNotes_of_user ht (h.mem_templateUsers_of_target ?_ ?_)
    · exact mem_templateTargets.2 ⟨_, hown, hto⟩
    · exact hasNote_of_mem_templatedNotes ht
  | @inherit b n p id _ hp hhas hinheritable ih =>
    intro t hto ht
    have hmem := ih hto ht
    have hchild : n ∈ g.children p := h.mirror.2 (mem_parents_of_inheritsFrom hp).2
    obtain ⟨r, hr, htemplate, rfl⟩ := hto
    obtain ⟨r', hr', hinheritable⟩ := hinheritable
    obtain rfl := Option.some.inj (hr.symm.trans hr')
    obtain rfl := h.attribute_id hr
    -- below the owner of the relation the walk comes by itself, elsewhere it has to follow
    by_cases hbelow : p ∈ g.subtree r.owner
    · have hin := h.pointed hr (target?_of_isTemplate htemplate) (hasNote_of_mem_templatedNotes ht)
      refine mem_templatedNotes_of_user ht (mem_templateUsers.2 ⟨r.id, hin, r, hr, ?_⟩)
      have howner : g.hasNote r.owner = true := (mem_walkDown_iff.1 hbelow).1
      rw [reachedByTemplate, htemplate, howner, Bool.and_self, if_pos rfl, if_pos hinheritable]
      exact mem_walkDown_of_step hbelow hchild (Draws.hasNote (Or.inl hp))
    · have hhad := (mem_attributesAt_iff h.ownsKnown).2 ⟨b, hhas⟩
      exact hfollows p hmem r hr htemplate hinheritable ht hhad hbelow n hchild
  | template _ hto _ ihr ih =>
    intro t' hto' ht'
    exact ihr hto (ih hto' ht')

/-- **The walk along template users finds all notes that take the attributes of the first one,
exactly if it follows the relations that notes acquired.** -/
theorem Consistent.templatedNotes_iff_followsAcquired (h : g.Consistent) (hback : g.PointsBack)
    (ho : g.hasNote o = true) :
    (∀ n, n ∈ g.templatedNotes o ↔ g.TakesAll o n) ↔ g.FollowsAcquired o := by
  constructor
  · intro hall m hm r hr htemplate hinheritable ht hhad _ c hc
    obtain ⟨b, hb⟩ := (mem_attributesAt_iff h.ownsKnown).1 hhad
    have hc' := h.toLinked.holds_of_mem_children ⟨r, hr, hinheritable⟩ hb hc
    exact (hall c).2 (.template ⟨_, hc'⟩ ⟨r, hr, htemplate, rfl⟩ ((hall _).1 ht))
  · intro hfollows n
    refine ⟨h.takesAll_of_mem_templatedNotes hback, fun htakes => ?_⟩
    induction htakes with
    | self => exact mem_templatedNotes_iff.2 ⟨ho, .refl⟩
    | template hr hto _ ih =>
      obtain ⟨b, hb⟩ := hr
      exact h.mem_templatedNotes_of_holds hfollows hb hto ih

end Zettel.Graph

namespace Zettel.Vault

variable {v : Vault} {a : Attribute} {id : AttributeId}

theorem Reachable.pointsBack (hv : v.Reachable) : v.graph.PointsBack :=
  (hv.tended fun _ hs => hs.attributes).filed.pointsBack

theorem Reachable.mem_attributeIds_iff (hv : v.Reachable) {n : NoteId} :
    id ∈ (v.graph.attributeIds n ∅).1 ↔ v.graph.Has [] n id := by
  rw [(v.graph.gives_attributeIds n).fst_empty]
  exact Graph.mem_attributesAt_iff hv.consistent.ownsKnown

/-- **Search and inheritance agree on inheritable attributes.** -/
theorem Reachable.mem_reachOf_of_inheritable (hv : v.Reachable)
    (ha : v.graph.attributes.get? id = some a) (hinheritable : a.isInheritable = true) :
    v.graph.reachOf a = v.graph.subtreeWithUsers a.owner ∧
      ∀ n, n ∈ v.graph.subtreeWithUsers a.owner ↔ id ∈ (v.graph.attributeIds n ∅).1 := by
  obtain rfl := hv.consistent.attribute_id ha
  refine ⟨if_pos hinheritable, fun n => ?_⟩
  rw [hv.mem_attributeIds_iff]
  exact hv.consistent.mem_subtreeWithUsers_iff hv.pointsBack ha hinheritable

theorem mem_reachOf_mutualSnapshot : (ofSnapshot mutualSnapshot).Reachable ∧
    ∃ t, (ofSnapshot mutualSnapshot).graph.attributes.get? "t" = some t ∧
      t.isInheritable = true ∧
      (ofSnapshot mutualSnapshot).graph.reachOf t =
        (ofSnapshot mutualSnapshot).graph.subtreeWithUsers t.owner ∧
      ∀ n, n ∈ (ofSnapshot mutualSnapshot).graph.subtreeWithUsers t.owner ↔
        "t" ∈ ((ofSnapshot mutualSnapshot).graph.attributeIds n ∅).1 := by
  have hreachable : (ofSnapshot mutualSnapshot).Reachable := .ofSnapshot (by constructor <;> decide)
  have hstored : (ofSnapshot mutualSnapshot).graph.attributes.get? "t" =
      some (.ofRow (AttributeRow.relation "t" "a" "template" "b").inheritable) := by
    decide +kernel
  exact ⟨hreachable, _, hstored, rfl, hreachable.mem_reachOf_of_inheritable hstored rfl⟩

/-! ## Other attributes in a reachable vault -/

/-- **Search finds notes that have an attribute that is not inheritable, and all of them exactly if
it follows the template relations that notes acquired.** -/
theorem Reachable.mem_reachOf_of_not_inheritable (hv : v.Reachable)
    (ha : v.graph.attributes.get? id = some a) (hown : a.isInheritable = false) :
    v.graph.reachOf a = v.graph.templatedNotes a.owner ∧
      (∀ n ∈ v.graph.templatedNotes a.owner, id ∈ (v.graph.attributeIds n ∅).1) ∧
      ((∀ n, n ∈ v.graph.templatedNotes a.owner ↔ id ∈ (v.graph.attributeIds n ∅).1) ↔
        v.graph.FollowsAcquired a.owner) := by
  have hg := hv.consistent
  obtain rfl := hg.attribute_id ha
  have hhas : ∀ n, a.id ∈ (v.graph.attributeIds n ∅).1 ↔ v.graph.TakesAll a.owner n := fun n =>
    hv.mem_attributeIds_iff.trans (Graph.has_iff_takesAll hg.toAttached ha hown)
  simp only [hhas]
  refine ⟨if_neg (by simp [hown]), fun n hn => ?_, ?_⟩
  · exact hg.takesAll_of_mem_templatedNotes hv.pointsBack hn
  · exact hg.templatedNotes_iff_followsAcquired hv.pointsBack
      (Graph.hasNote_of_mem_owned (hg.owner ha))

/-- A note with an inheritable template relation, and another note below it. -/
def inheritingVault : Vault :=
  [Update.upsertNote { id := "x", title := "x" }, .upsertNote { id := "o", title := "o" },
    .upsertNote { id := "c", title := "c" },
    .upsertBranch { id := "b", child := "c", parent := "o" },
    .upsertAttribute (AttributeRow.relation "t" "o" "template" "x").inheritable,
    .upsertAttribute plainRow].foldl apply .empty

theorem mem_reachOf_inheritingVault : inheritingVault.Reachable ∧
    inheritingVault.graph.attributes.get? "p" = some (.ofRow plainRow) ∧
    inheritingVault.graph.reachOf (.ofRow plainRow) = inheritingVault.graph.templatedNotes "x" ∧
    ∀ n, n ∈ inheritingVault.graph.templatedNotes "x" ↔
      "p" ∈ (inheritingVault.graph.attributeIds n ∅).1 := by
  have hreachable : inheritingVault.Reachable := .foldl_apply _ .empty
  have hstored : inheritingVault.graph.attributes.get? "p" = some (.ofRow plainRow) := by
    decide +kernel
  have hbelow : ∀ m ∈ inheritingVault.graph.templatedNotes "x",
      ∀ c ∈ inheritingVault.graph.children m,
        c ∈ inheritingVault.graph.templatedNotes "x" := by
    decide +kernel
  obtain ⟨hreach, -, hall⟩ := hreachable.mem_reachOf_of_not_inheritable hstored rfl
  exact ⟨hreachable, hstored, hreach, hall.2 fun m hm _ _ _ _ _ _ _ => hbelow m hm⟩

/-- The note below acquires the template relation from above, where it came from another template,
and so has the label; but search does not find it. -/
theorem not_mem_reachOf_acquiringVault : let v := acquiringVault.apply (.upsertAttribute plainRow)
    v.Reachable ∧ v.graph.attributes.get? "p" = some (.ofRow plainRow) ∧
      (Attribute.ofRow plainRow).isInheritable = false ∧
      "p" ∈ (v.graph.attributeIds "c" ∅).1 ∧ "c" ∉ v.graph.templatedNotes "x" :=
  ⟨.apply (.foldl_apply _ .empty) _, by decide +kernel, rfl, by decide +kernel, by decide +kernel⟩

end Zettel.Vault
