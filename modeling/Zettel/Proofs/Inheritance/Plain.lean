import Zettel.Proofs.Graph.Consistent
import Zettel.Proofs.Inheritance.LeastSolution

/-!
# Plain attributes

An attribute is plain if it is neither inheritable nor a template relation. It reaches other notes
through template relations alone, however these came to the note: `has_iff_takesAll`. Nothing else
depends on a plain attribute: without it, every collection finds the same but for the attribute
itself.

Main statement: `attributesAt_of_lacks`.
-/

namespace Zettel

/-! ## Lists without an element -/

theorem addNew_filter {α : Type} [DecidableEq α] (keep : α → Bool) (seen xs : List α) :
    addNew (seen.filter keep) (xs.filter keep) = (addNew seen xs).filter keep := by
  induction xs generalizing seen with
  | nil => rfl
  | cons x xs ih =>
    have hcons : addNew seen (x :: xs) =
        addNew (if seen.contains x then seen else seen ++ [x]) xs := rfl
    rw [hcons, ← ih]
    by_cases hx : keep x = true
    · have hfilter : (x :: xs).filter keep = x :: xs.filter keep := by simp [hx]
      have hmem : (seen.filter keep).contains x = seen.contains x := by simp [hx]
      rw [hfilter, addNew, List.foldl_cons, hmem, ← addNew]
      split
      · rfl
      · simp [List.filter_append, hx]
    · have hfilter : (x :: xs).filter keep = xs.filter keep := by simp [hx]
      rw [hfilter]
      split
      · rfl
      · simp [List.filter_append, hx]

namespace Graph

variable {g g₁ g' : Graph} {a : Attribute} {off : List NoteId} {b : Bool} {n o : NoteId}
  {id : AttributeId}

/-! ## What reaches a note through templates -/

/-- The note is `o`, or has a template relation to a note that takes all attributes of `o`. -/
inductive TakesAll (g : Graph) (o : NoteId) : NoteId → Prop
  | self : TakesAll g o o
  | template {n t : NoteId} {r : AttributeId} (hr : g.Has [] n r) (ht : g.IsTemplateTo r t)
      (h : TakesAll g o t) : TakesAll g o n

/-- **An attribute that is not inheritable reaches the notes that take all attributes of its
owner.** -/
theorem has_iff_takesAll (hg : g.Attached) (ha : g.attributes.get? a.id = some a)
    (hown : a.isInheritable = false) : g.Has [] n a.id ↔ g.TakesAll a.owner n := by
  constructor
  · rintro ⟨b, h⟩
    generalize hid : a.id = id at h
    induction h with
    | own _ hmem =>
      obtain ⟨a', ha', rfl⟩ := hg.owned_stored hmem
      rw [← hid, ha] at ha'
      obtain rfl := Option.some.inj ha'
      exact .self
    | inherit _ _ _ hinheritable _ =>
      obtain ⟨a', ha', hinheritable⟩ := hinheritable
      rw [← hid, ha] at ha'
      obtain rfl := Option.some.inj ha'
      rw [hown] at hinheritable
      exact absurd hinheritable (by simp)
    | template hr ht _ _ ih => exact .template ⟨_, hr⟩ ht (ih hid)
  · intro h
    induction h with
    | self => exact ⟨true, .own (by simp) (hg.owner ha)⟩
    | template hr ht _ ih => exact hr.of_template ht ih

/-- Derivations carry over to a graph where their rules can be applied, if they are about attributes
that are kept. -/
theorem Holds.transfer (kept : AttributeId → Prop)
    (hown : ∀ n id, kept id → id ∈ g.owned n → id ∈ g'.owned n)
    (hparents : ∀ n p, p ∈ g.inheritsFrom n → p ∈ g'.inheritsFrom n)
    (hinheritable : ∀ id, g.IsInheritable id → g'.IsInheritable id)
    (htemplate : ∀ r t, g.IsTemplateTo r t → kept r ∧ g'.IsTemplateTo r t)
    (hid : kept id) (h : g.Holds off b n id) : g'.Holds off b n id := by
  induction h with
  | own hn hmem => exact .own hn (hown _ _ hid hmem)
  | inherit hn hp _ hinh ih => exact .inherit hn (hparents _ _ hp) (ih hid) (hinheritable _ hinh)
  | template _ ht _ ihr ih =>
    obtain ⟨hkept, ht'⟩ := htemplate _ _ ht
    exact .template (ihr hkept) ht' (ih hid)

theorem TakesAll.transfer (kept : AttributeId → Prop)
    (hown : ∀ n id, kept id → id ∈ g.owned n → id ∈ g'.owned n)
    (hparents : ∀ n p, p ∈ g.inheritsFrom n → p ∈ g'.inheritsFrom n)
    (hinheritable : ∀ id, g.IsInheritable id → g'.IsInheritable id)
    (htemplate : ∀ r t, g.IsTemplateTo r t → kept r ∧ g'.IsTemplateTo r t)
    (h : g.TakesAll o n) : g'.TakesAll o n := by
  induction h with
  | self => exact .self
  | template hr ht _ ih =>
    obtain ⟨hkept, ht'⟩ := htemplate _ _ ht
    have hr' : g'.Has [] _ _ := hr.imp fun _ hb =>
      hb.transfer kept hown hparents hinheritable htemplate hkept
    exact .template hr' ht' ih

/-- The order of parents has no bearing on what is taken. -/
theorem takesAll_resortBelow : (g.resortBelow a).TakesAll o n ↔ g.TakesAll o n := by
  have hperm := parents_resortBelow_perm g a
  have hinherits : ∀ n p, p ∈ (g.resortBelow a).inheritsFrom n ↔ p ∈ g.inheritsFrom n := by
    intro n p
    rw [inheritsFrom, inheritsFrom]
    split_ifs
    · rfl
    · exact (hperm n).mem_iff
  constructor
  · refine TakesAll.transfer (fun _ => True) ?_ ?_ ?_ ?_
    · simp
    · exact fun n p hp => (hinherits n p).1 hp
    · simp [IsInheritable]
    · simp [IsTemplateTo]
  · refine TakesAll.transfer (fun _ => True) ?_ ?_ ?_ ?_
    · simp
    · exact fun n p hp => (hinherits n p).2 hp
    · simp [IsInheritable]
    · simp [IsTemplateTo]

/-! ## A graph without a plain attribute -/

/-- The second graph is the first one without the attribute, which is plain. -/
structure Lacks (g g₁ : Graph) (a : Attribute) : Prop where
  plain : a.affectsSubtree = false
  present : g.attributes.get? a.id = some a
  hasNote : ∀ n, g₁.hasNote n = g.hasNote n
  parents : ∀ n, g₁.parents n = g.parents n
  owned : ∀ n, g₁.owned n = (g.owned n).filter (· ≠ a.id)
  stored : ∀ id, g₁.attributes.get? id = if id = a.id then none else g.attributes.get? id

/-- What was collected, without an attribute that is not inheritable. -/
def Collected.without (c : Collected) (id : AttributeId) : Collected :=
  ⟨⟨c.attributes.all.filter (· ≠ id), c.attributes.inheritable⟩, c.isComplete⟩

section Lacks

variable (h : g.Lacks g₁ a)
include h

theorem Lacks.not_isInheritable : ¬g.IsInheritable a.id := by
  rintro ⟨a', ha', hinheritable⟩
  have hplain := h.plain
  rw [h.present] at ha'
  obtain rfl := Option.some.inj ha'
  rw [Attribute.affectsSubtree, hinheritable, Bool.true_or] at hplain
  exact absurd hplain (by simp)

theorem Lacks.not_isTemplateTo (t : NoteId) : ¬g.IsTemplateTo a.id t := by
  rintro ⟨a', ha', htemplate, -⟩
  have hplain := h.plain
  rw [h.present] at ha'
  obtain rfl := Option.some.inj ha'
  rw [Attribute.affectsSubtree, htemplate, Bool.or_true] at hplain
  exact absurd hplain (by simp)

theorem Lacks.isInheritable_iff : g₁.IsInheritable id ↔ g.IsInheritable id := by
  rw [IsInheritable, h.stored]
  split_ifs with hid
  · subst hid
    constructor
    · rintro ⟨a', hnone, -⟩
      exact absurd hnone (by simp)
    · intro hinheritable
      exact absurd hinheritable h.not_isInheritable
  · rfl

theorem Lacks.isTemplateTo_iff {t : NoteId} : g₁.IsTemplateTo id t ↔ g.IsTemplateTo id t := by
  rw [IsTemplateTo, h.stored]
  split_ifs with hid
  · subst hid
    constructor
    · rintro ⟨a', hnone, -⟩
      exact absurd hnone (by simp)
    · intro ht
      exact absurd ht (h.not_isTemplateTo t)
  · rfl

theorem Lacks.inheritsFrom : g₁.inheritsFrom n = g.inheritsFrom n := by
  rw [Graph.inheritsFrom, Graph.inheritsFrom, h.parents]

/-- What takes all attributes of a note does so without the plain attribute. -/
theorem Lacks.takesAll_iff : g₁.TakesAll o n ↔ g.TakesAll o n := by
  constructor
  · refine TakesAll.transfer (fun _ => True) ?_ ?_ ?_ ?_
    · intro n id _ hid
      rw [h.owned] at hid
      exact (List.mem_filter.1 hid).1
    · intro n p hp
      rwa [h.inheritsFrom] at hp
    · exact fun _ hid => h.isInheritable_iff.1 hid
    · exact fun _ _ ht => ⟨trivial, h.isTemplateTo_iff.1 ht⟩
  · refine TakesAll.transfer (· ≠ a.id) ?_ ?_ ?_ ?_
    · intro n id hne hid
      rw [h.owned]
      exact List.mem_filter.2 ⟨hid, by simpa using hne⟩
    · intro n p hp
      rwa [h.inheritsFrom]
    · exact fun _ hid => h.isInheritable_iff.2 hid
    · intro r t ht
      refine ⟨?_, h.isTemplateTo_iff.2 ht⟩
      rintro rfl
      exact h.not_isTemplateTo t ht

/-! ## Putting parents in order -/

/-- A plain attribute archives no subtree. -/
theorem Lacks.archivesSubtree (n : NoteId) : g₁.archivesSubtree n = g.archivesSubtree n := by
  have hplain : a.archivesSubtree = false := by
    have hnot := h.plain
    rw [Attribute.affectsSubtree, Bool.or_eq_false_iff] at hnot
    rw [Attribute.archivesSubtree, hnot.1, Bool.and_false]
  rw [Graph.archivesSubtree, Graph.archivesSubtree, h.owned, List.any_filter]
  refine List.any_congr rfl fun id => ?_
  rw [h.stored]
  by_cases hid : id = a.id
  · simp [hid, h.present, hplain]
  · simp [hid]

theorem Lacks.resortParents (n : NoteId) : (g.resortParents n).Lacks (g₁.resortParents n) a where
  plain := h.plain
  present := h.present
  hasNote m := by simp [h.hasNote]
  parents m := by
    rw [parents_resortParents, parents_resortParents, archivedLast, archivedLast, h.parents,
      funext h.archivesSubtree]
  owned m := by simp only [owned_resortParents, h.owned]
  stored id := by simp only [attributes_resortParents, h.stored]

/-- Putting parents in order below the owner makes no difference to what is lacking. -/
theorem Lacks.resortBelow (hchildren : g₁.children a.owner = g.children a.owner) :
    (g.resortBelow a).Lacks (g₁.resortBelow a) a := by
  have hloop : ∀ (ns : List NoteId) {g g₁ : Graph}, g.Lacks g₁ a →
      (ns.foldl Graph.resortParents g).Lacks (ns.foldl Graph.resortParents g₁) a := by
    intro ns
    induction ns with
    | nil => exact fun h => h
    | cons n ns ih => exact fun h => ih (h.resortParents n)
  rw [Graph.resortBelow, Graph.resortBelow, hchildren]
  split_ifs
  · exact hloop _ h
  · exact h

/-! ## Collecting without a plain attribute -/

theorem Lacks.templateTargets (ids : List AttributeId) :
    g₁.templateTargets (ids.filter (· ≠ a.id)) = g.templateTargets ids := by
  have hplain := h.plain
  rw [Attribute.affectsSubtree, Bool.or_eq_false_iff] at hplain
  induction ids with
  | nil => rfl
  | cons id ids ih =>
    rw [Graph.templateTargets, Graph.templateTargets] at ih ⊢
    by_cases hid : id = a.id
    · subst hid
      rw [List.filter_cons_of_neg (by simp), List.filterMap_cons_some h.present,
        List.filter_cons_of_neg (by simp [hplain.2])]
      exact ih
    · have hstored : g₁.attributes.get? id = g.attributes.get? id := by rw [h.stored, if_neg hid]
      rw [List.filter_cons_of_pos (by simpa using hid), List.filterMap_cons, List.filterMap_cons,
        hstored]
      cases g.attributes.get? id with
      | none => exact ih
      | some a' =>
        simp only [List.filter_cons]
        split_ifs
        · rw [List.map_cons, List.map_cons, ih]
        · exact ih

theorem Lacks.inheritableAmong (ids : List AttributeId) :
    g₁.inheritableAmong (ids.filter (· ≠ a.id)) = g.inheritableAmong ids := by
  rw [Graph.inheritableAmong, Graph.inheritableAmong, List.filter_filter]
  refine List.filter_congr fun id _ => ?_
  rw [h.stored]
  split_ifs with hid
  · have hnot : (g.attributes.get? id).any Attribute.isInheritable = false := by
      rw [hid, h.present]
      have := h.plain
      rw [Attribute.affectsSubtree, Bool.or_eq_false_iff] at this
      exact this.1
    simp [hnot]
  · simp [hid]

/-- What is added from each source, but for the attribute, is added without it. -/
theorem Lacks.gatherFrom {c c' : NoteId → Collected} {pick : Attributes → List AttributeId}
    {sources : List NoteId}
    (hpick : ∀ n ∈ sources,
      pick (c' n).attributes = (pick (c n).attributes).filter (· ≠ a.id))
    (hcomplete : ∀ n ∈ sources, (c' n).isComplete = (c n).isComplete)
    (s : List AttributeId × Bool) :
    g₁.gatherFrom c' pick sources (s.1.filter (· ≠ a.id), s.2) =
      ((g.gatherFrom c pick sources s).1.filter (· ≠ a.id),
        (g.gatherFrom c pick sources s).2) := by
  induction sources generalizing s with
  | nil => rfl
  | cons n sources ih =>
    have hfilter : (pick (c' n).attributes).filter g₁.attributes.contains =
        ((pick (c n).attributes).filter g.attributes.contains).filter (· ≠ a.id) := by
      rw [hpick n List.mem_cons_self, List.filter_filter, List.filter_filter]
      refine List.filter_congr fun id _ => ?_
      rw [Table.contains, Table.contains, h.stored]
      by_cases hid : id = a.id
      · simp [hid]
      · simp [hid]
    rw [Graph.gatherFrom, Graph.gatherFrom, List.foldl_cons, List.foldl_cons, hfilter,
      hcomplete n List.mem_cons_self, addNew_filter]
    exact ih (fun m hm => hpick m (List.mem_cons_of_mem _ hm))
      (fun m hm => hcomplete m (List.mem_cons_of_mem _ hm))
      (addNew s.1 ((pick (c n).attributes).filter g.attributes.contains), s.2 && (c n).isComplete)

/-- **Without a plain attribute everything else is collected as before.** -/
theorem Lacks.gather : ∀ (d : Nat) (path : List NoteId) (n : NoteId),
    g₁.gather d path n = (g.gather d path n).without a.id := by
  intro d
  induction d with
  | zero => exact fun _ _ => rfl
  | succ d ih =>
    intro path n
    by_cases hn : g.hasNote n = true
    · have hn' : g₁.hasNote n = true := by rwa [h.hasNote]
      by_cases hp : n ∈ path
      · rw [gather_of_mem hn hp, gather_of_mem hn' hp]
        rfl
      · have hinheritable : ∀ m ∈ g.inheritsFrom n,
            (g₁.gather d (n :: path) m).attributes.inheritable =
              (g.gather d (n :: path) m).attributes.inheritable.filter (· ≠ a.id) := by
          intro m _
          rw [ih]
          refine (List.filter_eq_self.2 fun id hid => ?_).symm
          rw [Collected.without, inheritable_gather, mem_inheritableAmong] at hid
          rw [decide_eq_true_eq]
          rintro rfl
          exact h.not_isInheritable hid.2
        have hbase : g₁.gatherBase (g₁.gather d (n :: path)) n =
            ((g.gatherBase (g.gather d (n :: path)) n).1.filter (· ≠ a.id),
              (g.gatherBase (g.gather d (n :: path)) n).2) := by
          rw [gatherBase, h.inheritsFrom, h.owned]
          have hown := addNew_filter (fun id => decide (id ≠ a.id)) [] (g.owned n)
          rw [List.filter_nil] at hown
          rw [hown]
          exact h.gatherFrom hinheritable (fun m _ => by rw [ih]; rfl) (addNew [] (g.owned n), true)
        have hall : g₁.gatherAll (g₁.gather d (n :: path)) n =
            ((g.gatherAll (g.gather d (n :: path)) n).1.filter (· ≠ a.id),
              (g.gatherAll (g.gather d (n :: path)) n).2) := by
          rw [gatherAll, hbase, h.templateTargets]
          exact h.gatherFrom (fun m _ => by rw [ih]; rfl) (fun m _ => by rw [ih]; rfl) _
        rw [gather_of_not_mem hn hp, gather_of_not_mem hn' hp, hall, collectedOf, collectedOf,
          h.inheritableAmong]
        rfl
    · rw [Bool.not_eq_true] at hn
      have hn' : g₁.hasNote n = false := by rwa [h.hasNote]
      rw [gather_of_not_hasNote hn, gather_of_not_hasNote hn']
      rfl

/-- **The attributes of a note without a plain attribute.** -/
theorem attributesAt_of_lacks (n : NoteId) :
    g₁.attributesAt n =
      ⟨(g.attributesAt n).all.filter (· ≠ a.id), (g.attributesAt n).inheritable⟩ := by
  let d := g.noteCount + g₁.noteCount + 1
  rw [attributesAt_eq_gather (d := d) (by omega), attributesAt_eq_gather (d := d) (by omega),
    h.gather]
  rfl

end Lacks

/-! ## Attaching and removing -/

theorem Attached.lacks_removeAttribute (hg : g.Attached) (ha : g.attributes.get? a.id = some a)
    (hplain : a.affectsSubtree = false) : g.Lacks (g.removeAttribute a) a where
  plain := hplain
  present := ha
  hasNote _ := hasNote_removeAttribute
  parents _ := parents_removeAttribute
  owned n := by
    rw [owned_removeAttribute]
    split_ifs with hn
    · rfl
    · refine (List.filter_eq_self.2 fun id hid => ?_).symm
      obtain ⟨a', ha', hown⟩ := hg.owned_stored hid
      rw [decide_eq_true_eq]
      rintro rfl
      obtain rfl := Option.some.inj (ha.symm.trans ha')
      exact hn hown.symm
  stored id := by rw [attributes_removeAttribute, Table.get?_erase]

theorem Attached.lacks_attach (hg : g.Attached) (hn : g.hasNote a.owner = true)
    (hfree : g.attributes.get? a.id = none) (hplain : a.affectsSubtree = false) :
    (g.attach a).Lacks g a where
  plain := hplain
  present := by rw [attributes_attach, Table.get?_insert, if_pos rfl]
  hasNote _ := hasNote_attach.symm
  parents _ := parents_attach.symm
  owned n := by
    have hkept : (g.owned n).filter (· ≠ a.id) = g.owned n := by
      refine List.filter_eq_self.2 fun id hid => ?_
      obtain ⟨a', ha', -⟩ := hg.owned_stored hid
      rw [decide_eq_true_eq]
      rintro rfl
      exact absurd (hfree.symm.trans ha') (by simp)
    rw [owned_attach hn]
    split_ifs
    · rw [List.filter_append, hkept, List.filter_cons_of_neg (by simp), List.filter_nil,
        List.append_nil]
    · exact hkept.symm
  stored id := by
    rw [attributes_attach, Table.get?_insert]
    split_ifs with hid
    · rw [hid, hfree]
    · rfl

end Graph

end Zettel
