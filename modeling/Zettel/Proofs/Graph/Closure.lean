import Zettel.Proofs.Graph.Consistent
import Zettel.Proofs.Inheritance.Locality
import Zettel.Proofs.Walk

/-!
# The notes that a change reaches

The walks over a graph visit what can be reached along children and template users. In a consistent
graph these follow drawing backwards, so what is not below a note, and uses nothing below it as a
template, draws on nothing of the kind.

Main statements: `mem_subtreeWithUsers_of_drawsOn`, and `closed_compl_subtreeWithUsers`, the other
notes are a closed set.
-/

namespace Zettel.Graph

variable {g : Graph} {a : Attribute} {n m x : NoteId}

/-! ## Walks over the notes -/

theorem length_keys (g : Graph) : g.notes.keys.length = g.noteCount := List.length_map _

/-- Graphs with the same notes have as many of them. -/
theorem noteCount_congr {g' : Graph} (h : ∀ n, g'.hasNote n = g.hasNote n) :
    g'.noteCount = g.noteCount := by
  have hkeys : ∀ n, n ∈ g'.notes.keys ↔ n ∈ g.notes.keys := by
    intro n
    rw [← Table.contains_iff, ← Table.contains_iff]
    exact Bool.eq_iff_iff.1 (h n)
  rw [← length_keys, ← length_keys]
  exact ((List.perm_ext_iff_of_nodup g'.notes.nodup_keys g.notes.nodup_keys).2 hkeys).length_eq

/-- A walk gets to the notes that a chain of steps leads to, and to no others. -/
theorem mem_walkDown_iff {next : NoteId → List NoteId} : m ∈ g.walkDown next n ↔
    g.hasNote n = true ∧ Relation.ReflTransGen (StepsTo g.hasNote next) n m := by
  have hplaces : ∀ a, g.hasNote a = true ↔ a ∈ g.notes.keys := fun _ => Table.contains_iff
  exact mem_depthFirst_iff hplaces (length_keys g).le

theorem hasNote_of_mem_walkDown {next : NoteId → List NoteId} (h : m ∈ g.walkDown next n) :
    g.hasNote m = true := by
  obtain ⟨hn, hnm⟩ := mem_walkDown_iff.1 h
  cases hnm with
  | refl => exact hn
  | tail _ hstep => exact hstep.2

/-- A walk begins with the note itself. -/
theorem self_mem_walkDown {next : NoteId → List NoteId} (hn : g.hasNote n = true) :
    n ∈ g.walkDown next n :=
  mem_walkDown_iff.2 ⟨hn, .refl⟩

/-- A walk takes every step from where it gets. -/
theorem mem_walkDown_of_step {next : NoteId → List NoteId} (h : x ∈ g.walkDown next n)
    (hm : m ∈ next x) (hnote : g.hasNote m = true) : m ∈ g.walkDown next n := by
  obtain ⟨hn, hnx⟩ := mem_walkDown_iff.1 h
  exact mem_walkDown_iff.2 ⟨hn, hnx.tail ⟨hm, hnote⟩⟩

/-- Where a walk gets, another one may begin. -/
theorem mem_walkDown_trans {next : NoteId → List NoteId} (hm : m ∈ g.walkDown next n)
    (hx : x ∈ g.walkDown next m) : x ∈ g.walkDown next n := by
  obtain ⟨hn, hnm⟩ := mem_walkDown_iff.1 hm
  exact mem_walkDown_iff.2 ⟨hn, hnm.trans (mem_walkDown_iff.1 hx).2⟩

/-! ## Users of templates -/

theorem hasNote_of_mem_reachedByTemplate (h : m ∈ g.reachedByTemplate a) :
    g.hasNote m = true := by
  rw [reachedByTemplate] at h
  split_ifs at h with hcond hinheritable
  · exact hasNote_of_mem_walkDown h
  · rw [List.mem_singleton.1 h]
    exact (Bool.and_eq_true _ _ ▸ hcond).2
  · exact absurd h (by simp)

/-- Only a template relation reaches anything as a template. -/
theorem isTemplate_of_mem_reachedByTemplate (h : m ∈ g.reachedByTemplate a) :
    a.isTemplate = true := by
  rw [reachedByTemplate] at h
  split_ifs at h with hcond
  · exact (Bool.and_eq_true _ _ ▸ hcond).1
  · exact (Bool.and_eq_true _ _ ▸ hcond).1
  · exact absurd h (by simp)

/-- A template relation reaches its owner. -/
theorem owner_mem_reachedByTemplate (ha : a.isTemplate = true) (hn : g.hasNote a.owner = true) :
    a.owner ∈ g.reachedByTemplate a := by
  rw [reachedByTemplate, ha, hn, Bool.and_self, if_pos rfl]
  split_ifs
  · exact self_mem_walkDown hn
  · exact List.mem_singleton_self _

theorem mem_templateUsers : m ∈ g.templateUsers n ↔
    ∃ id ∈ g.incoming n, ∃ a, g.attributes.get? id = some a ∧ m ∈ g.reachedByTemplate a := by
  simp only [templateUsers, mem_addNew, List.not_mem_nil, false_or, List.mem_flatMap,
    List.mem_filterMap, incoming]
  constructor
  · rintro ⟨a, ⟨id, hid, ha⟩, hm⟩
    exact ⟨id, hid, a, ha, hm⟩
  · rintro ⟨id, hid, a, ha, hm⟩
    exact ⟨a, ⟨id, hid, ha⟩, hm⟩

theorem hasNote_of_mem_templateUsers (h : m ∈ g.templateUsers n) : g.hasNote m = true := by
  obtain ⟨_, _, _, _, hm⟩ := mem_templateUsers.1 h
  exact hasNote_of_mem_reachedByTemplate hm

theorem mem_templatedNotes_iff : m ∈ g.templatedNotes n ↔ g.hasNote n = true ∧
    Relation.ReflTransGen (fun a b => b ∈ g.templateUsers a) n m := by
  rw [templatedNotes]
  split_ifs with hn
  · have hplaces : ∀ a b, b ∈ g.templateUsers a → b ∈ g.notes.keys := fun _ _ hb =>
      Table.contains_iff.1 (hasNote_of_mem_templateUsers hb)
    rw [mem_breadthFirst_iff hplaces (length_keys g).le (Table.contains_iff.1 hn)]
    simp [hn]
  · simp [hn]

theorem hasNote_of_mem_templatedNotes (h : m ∈ g.templatedNotes n) : g.hasNote m = true := by
  obtain ⟨hn, hpath⟩ := mem_templatedNotes_iff.1 h
  cases hpath with
  | refl => exact hn
  | tail _ hstep => exact hasNote_of_mem_templateUsers hstep

/-- The users of templated notes are templated notes. -/
theorem mem_templatedNotes_of_user (h : x ∈ g.templatedNotes n) (hm : m ∈ g.templateUsers x) :
    m ∈ g.templatedNotes n := by
  obtain ⟨hn, hpath⟩ := mem_templatedNotes_iff.1 h
  exact mem_templatedNotes_iff.2 ⟨hn, hpath.tail hm⟩

/-- A walk depends on the notes and steps only. -/
theorem walkDown_congr {g' : Graph} {next next' : NoteId → List NoteId}
    (hnote : ∀ n, g'.hasNote n = g.hasNote n) (hnext : ∀ n, next' n = next n) :
    m ∈ g'.walkDown next' n ↔ m ∈ g.walkDown next n := by
  rw [mem_walkDown_iff, mem_walkDown_iff, funext hnote, funext hnext]

/-- The users of templates are found along children and along the template relations at their
targets. -/
theorem mem_templatedNotes_congr {g' : Graph} (hnote : ∀ n, g'.hasNote n = g.hasNote n)
    (hchildren : ∀ n, g'.children n = g.children n)
    (hrelations : ∀ n r, r.isTemplate = true →
      ((∃ id ∈ g'.incoming n, g'.attributes.get? id = some r) ↔
        ∃ id ∈ g.incoming n, g.attributes.get? id = some r)) :
    m ∈ g'.templatedNotes n ↔ m ∈ g.templatedNotes n := by
  have hreached : ∀ r m, m ∈ g'.reachedByTemplate r ↔ m ∈ g.reachedByTemplate r := by
    intro r m
    rw [reachedByTemplate, reachedByTemplate, hnote]
    split_ifs
    · exact walkDown_congr hnote hchildren
    · rfl
    · rfl
  have husers : ∀ n m, m ∈ g'.templateUsers n ↔ m ∈ g.templateUsers n := by
    have hmem : ∀ (g : Graph) (n m : NoteId), m ∈ g.templateUsers n ↔ ∃ r : Attribute,
        (∃ id ∈ g.incoming n, g.attributes.get? id = some r) ∧ r.isTemplate = true ∧
          m ∈ g.reachedByTemplate r := by
      intro g n m
      rw [mem_templateUsers]
      constructor
      · rintro ⟨id, hid, r, hr, hm⟩
        exact ⟨r, ⟨id, hid, hr⟩, isTemplate_of_mem_reachedByTemplate hm, hm⟩
      · rintro ⟨r, ⟨id, hid, hr⟩, -, hm⟩
        exact ⟨id, hid, r, hr, hm⟩
    intro n m
    rw [hmem, hmem]
    refine exists_congr fun r => ?_
    constructor
    · rintro ⟨hr, htemplate, hm⟩
      exact ⟨(hrelations n r htemplate).1 hr, htemplate, (hreached r m).1 hm⟩
    · rintro ⟨hr, htemplate, hm⟩
      exact ⟨(hrelations n r htemplate).2 hr, htemplate, (hreached r m).2 hm⟩
  rw [mem_templatedNotes_iff, mem_templatedNotes_iff, hnote]
  simp only [husers]

/-- A template relation points where its value says. -/
theorem target?_of_isTemplate (ha : a.isTemplate = true) : a.target? = some a.value := by
  rw [Attribute.isTemplate, Bool.and_eq_true, decide_eq_true_eq] at ha
  rw [Attribute.target?, ha.1]

/-! ## What a change reaches -/

/-- The owner of a template relation to an existing note uses it as its template. -/
theorem Consistent.mem_templateUsers_of_target (h : g.Consistent)
    (hx : x ∈ g.templateTargets (g.owned m)) (hnote : g.hasNote x = true) :
    m ∈ g.templateUsers x := by
  obtain ⟨id, hid, a, ha, htemplate, rfl⟩ := mem_templateTargets.1 hx
  obtain ⟨a', ha', hown⟩ := h.owned_stored hid
  obtain rfl := Option.some.inj (ha.symm.trans ha')
  have hin := h.pointed ha (target?_of_isTemplate htemplate) hnote
  have howner : g.hasNote a.owner = true := hasNote_of_mem_owned (h.owner ha)
  refine mem_templateUsers.2 ⟨id, hin, a, ha, ?_⟩
  rw [← hown]
  exact owner_mem_reachedByTemplate htemplate howner

/-- Children and template users lead back to what draws on an existing note. -/
theorem Consistent.step_of_draws (h : g.Consistent) (hx : g.Draws m x)
    (hnote : g.hasNote x = true) : m ∈ g.children x ++ g.templateUsers x := by
  rcases hx with hx | hx
  · exact List.mem_append_left _ (h.mirror.2 (mem_parents_of_inheritsFrom hx).2)
  · exact List.mem_append_right _ (h.mem_templateUsers_of_target hx hnote)

/-- A note that draws attributes from one that is below or uses a template from there belongs to
them, too. -/
theorem Consistent.mem_subtreeWithUsers_of_draws (h : g.Consistent)
    (hx : x ∈ g.subtreeWithUsers n) (hm : g.Draws m x) : m ∈ g.subtreeWithUsers n :=
  mem_walkDown_of_step hx (h.step_of_draws hm (hasNote_of_mem_walkDown hx)) hm.hasNote

/-- **A note is reached from the notes that it draws on.** -/
theorem Consistent.mem_subtreeWithUsers_of_drawsOn (h : g.Consistent) (hn : g.hasNote n = true)
    (hm : g.DrawsOn m n) : m ∈ g.subtreeWithUsers n := by
  induction hm using Relation.ReflTransGen.head_induction_on with
  | refl => exact self_mem_walkDown hn
  | head hstep _ ih => exact h.mem_subtreeWithUsers_of_draws ih hstep

/-- **What is not reached draws on nothing that is.** -/
theorem Consistent.closed_compl_subtreeWithUsers (h : g.Consistent) (n : NoteId) :
    g.Closed {m | m ∉ g.subtreeWithUsers n} := fun _ hm _ hdraws hx =>
  hm (h.mem_subtreeWithUsers_of_draws hx hdraws)

end Zettel.Graph
