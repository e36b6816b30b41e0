import Zettel.Proofs.Inheritance.LeastSolution
import Zettel.Proofs.Memory

/-!
# Collecting with what was remembered before

A memory may have been filled before the graph changed. As long as what it holds of each note is
what the note has, a collection finds with it at least what can be derived without the notes on its
path, and at most what the note has. A complete one finds all of this, and is remembered. So the
whole collection at a note, with an empty path, finds just what the note has, whatever is
remembered.

Main statements: `collects_collect` and `mem_attributeIds_iff`.
-/

namespace Zettel.Graph

variable {g : Graph} {memo : Memo} {n : NoteId}

/-! ## Between two bounds -/

/-- The ids have all of the lower bound, nothing beyond the upper one, and if they are complete, all
of this one. -/
structure Between (least most : AttributeId → Prop) (ids : List AttributeId)
    (isComplete : Bool) : Prop where
  lower : ∀ id, least id → id ∈ ids
  upper : ∀ id ∈ ids, most id
  complete : isComplete = true → ∀ id, most id → id ∈ ids

section Between

variable {l u l' u' : AttributeId → Prop} {ids : List AttributeId} {isComplete : Bool}

theorem Between.mono (h : Between l u ids isComplete) (hl : ∀ id, l' id → l id)
    (hu : ∀ id, u id → u' id) (hcomplete : isComplete = true → ∀ id, u' id → u id) :
    Between l' u' ids isComplete :=
  ⟨fun id hid => h.lower id (hl id hid), fun id hid => hu id (h.upper id hid),
    fun hc id hid => h.complete hc id (hcomplete hc id hid)⟩

/-- The bounds of what is added up are those of the parts. -/
theorem between_addAll {I : Memo → Prop} {collect : NoteId → Memo → Collected × Memo}
    {pick : Attributes → List AttributeId} {lowers uppers : NoteId → AttributeId → Prop}
    (sources : List NoteId) (s : Gathering)
    (hsources : ∀ m ∈ sources, ∀ memo, I memo →
      Between (lowers m) (uppers m) (pick (collect m memo).1.attributes)
        (collect m memo).1.isComplete ∧ I (collect m memo).2)
    (hknown : ∀ m id, uppers m id → g.attributes.contains id = true)
    (hlowers : ∀ m id, lowers m id → g.attributes.contains id = true)
    (hs : Between l u s.ids s.isComplete) (hmemo : I s.memo) :
    Between (fun id => l id ∨ ∃ m ∈ sources, lowers m id)
      (fun id => u id ∨ ∃ m ∈ sources, uppers m id)
      (s.addAll g collect pick sources).ids (s.addAll g collect pick sources).isComplete ∧
    ((s.addAll g collect pick sources).isComplete = true → s.isComplete = true) ∧
    I (s.addAll g collect pick sources).memo := by
  induction sources generalizing s l u with
  | nil =>
    refine ⟨hs.mono ?_ ?_ ?_, id, hmemo⟩
    · simp
    · simp +contextual
    · simp
  | cons m sources ih =>
    rw [List.forall_mem_cons] at hsources
    obtain ⟨hbetween, hmemo'⟩ := hsources.1 s.memo hmemo
    have hstep : Between (fun id => l id ∨ lowers m id) (fun id => u id ∨ uppers m id)
        (addNew s.ids ((pick (collect m s.memo).1.attributes).filter g.attributes.contains))
        (s.isComplete && (collect m s.memo).1.isComplete) := by
      refine ⟨fun id hid => ?_, fun id hid => ?_, fun hc id hid => ?_⟩
      · rw [mem_addNew, List.mem_filter]
        exact hid.imp (hs.lower id) fun h => ⟨hbetween.lower id h, hlowers m id h⟩
      · rw [mem_addNew, List.mem_filter] at hid
        exact hid.imp (hs.upper id) fun h => hbetween.upper id h.1
      · rw [Bool.and_eq_true] at hc
        rw [mem_addNew, List.mem_filter]
        exact hid.imp (hs.complete hc.1 id) fun h => ⟨hbetween.complete hc.2 id h, hknown m id h⟩
    rw [Gathering.addAll, List.foldl_cons, ← Gathering.addAll]
    obtain ⟨hrest, hcomplete, hmemo''⟩ := ih hsources.2 (s := ⟨_, _, (collect m s.memo).2⟩) hstep
      hmemo'
    refine ⟨hrest.mono ?_ ?_ ?_, fun hc => (Bool.and_eq_true_iff.1 (hcomplete hc)).1, hmemo''⟩
    · intro id hid
      simpa [or_assoc] using hid
    · intro id hid
      simpa [or_assoc] using hid
    · intro _ id hid
      simpa [or_assoc] using hid

end Between

/-! ## What notes have -/

section Has

variable {off off' : List NoteId} {id : AttributeId}

theorem Has.not_mem (h : g.Has off n id) : n ∉ off := by
  obtain ⟨_, h⟩ := h
  exact h.not_mem

theorem Has.hasNote (h : g.Has off n id) : g.hasNote n = true := by
  obtain ⟨_, h⟩ := h
  exact h.hasNote

theorem Has.contains (hg : g.OwnsKnown) (h : g.Has off n id) :
    g.attributes.contains id = true := by
  obtain ⟨_, h⟩ := h
  exact h.contains hg

theorem Has.mono (hoff : off ⊆ off') (h : g.Has off' n id) : g.Has off n id :=
  h.imp fun _ h => h.mono hoff

end Has

/-! ## What is remembered of the notes -/

/-- The attributes are those that the note has. -/
structure Tells (g : Graph) (n : NoteId) (a : Attributes) : Prop where
  mem_all : ∀ id, id ∈ a.all ↔ g.Has [] n id
  mem_inheritable : ∀ id, id ∈ a.inheritable ↔ id ∈ a.all ∧ g.IsInheritable id

/-- The attributes that are remembered of existing notes are those that the notes have. -/
def Knows (g : Graph) (memo : Memo) : Prop :=
  ∀ n a, g.hasNote n = true → (memo.of n).attributes = some a → g.Tells n a

theorem tells_attributesAt (hg : g.OwnsKnown) (n : NoteId) : g.Tells n (g.attributesAt n) := by
  refine ⟨fun id => mem_attributesAt_iff hg, fun id => ?_⟩
  rw [attributesAt, inheritable_gather, mem_inheritableAmong]

theorem Knows.remember (h : g.Knows memo) {a : Attributes} (ha : g.Tells n a) :
    g.Knows (memo.remember n fun c => { c with attributes := some a }) := by
  intro m a' hm ha'
  rw [Memo.of_remember] at ha'
  split at ha'
  · next heq =>
    obtain rfl := Option.some.inj ha'
    exact heq ▸ ha
  · exact h m a' hm ha'

/-! ## The collection -/

/-- What `n` owns or inherits. -/
def Base (g : Graph) (n : NoteId) (id : AttributeId) : Prop :=
  id ∈ g.owned n ∨ ∃ p ∈ g.inheritsFrom n, g.Has [] p id ∧ g.IsInheritable id

theorem base_iff_holds {id : AttributeId} : g.Base n id ↔ g.Holds [] true n id := by
  constructor
  · rintro (hid | ⟨p, hp, ⟨b, h⟩, hid⟩)
    · exact .own (by simp) hid
    · exact .inherit (by simp) hp h hid
  · intro h
    cases h with
    | own _ hid => exact Or.inl hid
    | inherit _ hp h hid => exact Or.inr ⟨_, hp, ⟨_, h⟩, hid⟩

theorem has_iff_base {id : AttributeId} : g.Has [] n id ↔
    g.Base n id ∨ ∃ r, g.Base n r ∧ ∃ t, g.IsTemplateTo r t ∧ g.Has [] t id := by
  constructor
  · rintro ⟨b, h⟩
    cases h with
    | own hn hid => exact Or.inl (base_iff_holds.2 (.own hn hid))
    | inherit hn hp h hid => exact Or.inl (base_iff_holds.2 (.inherit hn hp h hid))
    | template hr ht h => exact Or.inr ⟨_, base_iff_holds.2 hr, _, ht, _, h⟩
  · rintro (h | ⟨r, hr, t, ht, b, h⟩)
    · exact ⟨_, base_iff_holds.1 h⟩
    · exact ⟨_, .template (base_iff_holds.1 hr) ht h⟩

/-- What a collection at a note on the path `path` may find. -/
structure Collects (g : Graph) (path : List NoteId) (n : NoteId) (c : Collected) : Prop where
  all : Between (g.Has path n) (g.Has [] n) c.attributes.all c.isComplete
  mem_inheritable : ∀ id,
    id ∈ c.attributes.inheritable ↔ id ∈ c.attributes.all ∧ g.IsInheritable id

theorem Collects.inheritable {path : List NoteId} {c : Collected} (h : g.Collects path n c) :
    Between (fun id => g.Has path n id ∧ g.IsInheritable id)
      (fun id => g.Has [] n id ∧ g.IsInheritable id) c.attributes.inheritable c.isComplete :=
  ⟨fun id hid => (h.mem_inheritable id).2 ⟨h.all.lower id hid.1, hid.2⟩,
    fun id hid => ((h.mem_inheritable id).1 hid).imp_left (h.all.upper id),
    fun hc id hid => (h.mem_inheritable id).2 ⟨h.all.complete hc id hid.1, hid.2⟩⟩

theorem Tells.collects {a : Attributes} (h : g.Tells n a) (path : List NoteId) :
    g.Collects path n ⟨a, true⟩ :=
  ⟨⟨fun id hid => (h.mem_all id).2 (hid.mono (List.nil_subset _)),
    fun id => (h.mem_all id).1, fun _ id => (h.mem_all id).2⟩, h.mem_inheritable⟩

/-- A complete collection found what the note has. -/
theorem Collects.tells {path : List NoteId} {c : Collected} (h : g.Collects path n c)
    (hc : c.isComplete = true) : g.Tells n c.attributes :=
  ⟨fun id => ⟨h.all.upper id, h.all.complete hc id⟩, h.mem_inheritable⟩

/-- What is added to the base by its template relations makes up what the note has. -/
theorem between_has {path : List NoteId} (hp : n ∉ path) {base ids : List AttributeId}
    {isComplete isComplete' : Bool}
    (hbase : Between (g.BaseApart path n) (g.Base n) base isComplete)
    (hall : Between
      (fun id => g.BaseApart path n id ∨ ∃ t ∈ g.templateTargets base, g.Has (n :: path) t id)
      (fun id => g.Base n id ∨ ∃ t ∈ g.templateTargets base, g.Has [] t id) ids isComplete')
    (hcomplete : isComplete' = true → isComplete = true) :
    Between (g.Has path n) (g.Has [] n) ids isComplete' := by
  refine hall.mono (fun id hid => ?_) (fun id hid => ?_) fun hc id hid => ?_
  · refine ((has_iff_apart hp).1 hid).imp_right ?_
    rintro ⟨r, hr, t, ht, h⟩
    exact ⟨t, mem_templateTargets.2 ⟨r, hbase.lower r hr, ht⟩, h⟩
  · refine has_iff_base.2 (hid.imp_right ?_)
    rintro ⟨t, ht, h⟩
    obtain ⟨r, hr, hto⟩ := mem_templateTargets.1 ht
    exact ⟨r, hbase.upper r hr, t, hto, h⟩
  · refine (has_iff_base.1 hid).imp_right ?_
    rintro ⟨r, hr, t, ht, h⟩
    exact ⟨t, mem_templateTargets.2 ⟨r, hbase.complete (hcomplete hc) r hr, ht⟩, h⟩

/-- An unknown note has nothing, and nothing is found. -/
theorem collects_nothing (hn : g.hasNote n = false) (path : List NoteId) :
    g.Collects path n Collected.nothing := by
  have hnothing : ∀ off id, ¬g.Has off n id := by
    intro off id h
    rw [h.hasNote] at hn
    cases hn
  refine ⟨⟨fun id h => ?_, fun id h => ?_, fun _ id h => ?_⟩, by simp [Collected.nothing]⟩
  · exact absurd h (hnothing _ id)
  · exact absurd h (by simp [Collected.nothing])
  · exact absurd h (hnothing _ id)

/-- Without a note on the path nothing can be derived at it, and a collection that is cut there
finds nothing. -/
theorem collects_cut {path : List NoteId} (hp : n ∈ path) : g.Collects path n Collected.cut := by
  refine ⟨⟨fun id h => ?_, ?_, ?_⟩, ?_⟩
  · exact absurd hp h.not_mem
  all_goals simp [Collected.cut]

/-- At a note that is neither on the path nor remembered: if the collections at the next notes are
between the bounds, the one that adds them up is. -/
theorem collects_gathered (hg : g.OwnsKnown) {d : Nat} {path : List NoteId}
    (hn : g.hasNote n = true) (hp : n ∉ path) (hknown : (memo.of n).attributes = none)
    (hmemo : g.Knows memo)
    (hbelow : ∀ m memo, g.Knows memo →
      g.Collects (n :: path) m (g.collect d (n :: path) m memo).1 ∧
        g.Knows (g.collect d (n :: path) m memo).2) :
    g.Collects path n (g.collect (d + 1) path n memo).1 ∧
      g.Knows (g.collect (d + 1) path n memo).2 := by
  have hhas : ∀ off m id, g.Has off m id → g.attributes.contains id = true :=
    fun _ _ _ h => h.contains hg
  have hstart : Between (· ∈ g.owned n) (· ∈ g.owned n) (addNew [] (g.owned n)) true := by
    refine ⟨?_, ?_, ?_⟩ <;> simp [mem_addNew]
  rw [collect_of_not_mem hn hp hknown]
  dsimp only
  -- First what `n` owns or inherits,
  obtain ⟨hbase, -, hmemo₁⟩ := between_addAll (I := g.Knows) (g := g)
    (g.inheritsFrom n) ⟨addNew [] (g.owned n), true, memo⟩
    (fun p _ memo hmemo => (hbelow p memo hmemo).imp_left Collects.inheritable)
    (fun p id h => hhas _ p id h.1) (fun p id h => hhas _ p id h.1) hstart hmemo
  generalize Gathering.addAll ⟨addNew [] (g.owned n), true, memo⟩ g
    (g.collect d (n :: path)) Attributes.inheritable (g.inheritsFrom n) = s₁ at hbase hmemo₁ ⊢
  -- then what the templates have that this points to.
  obtain ⟨hall, hcomplete, hmemo₂⟩ := between_addAll (I := g.Knows) (g := g)
    (g.templateTargets s₁.ids) s₁
    (fun t _ memo hmemo => (hbelow t memo hmemo).imp_left Collects.all)
    (hhas []) (hhas (n :: path)) hbase hmemo₁
  generalize s₁.addAll g (g.collect d (n :: path)) Attributes.all
    (g.templateTargets s₁.ids) = s₂ at hall hcomplete hmemo₂ ⊢
  have hcollects : g.Collects path n ⟨⟨s₂.ids, g.inheritableAmong s₂.ids⟩, s₂.isComplete⟩ :=
    ⟨between_has hp hbase hall hcomplete, fun _ => mem_inheritableAmong⟩
  refine ⟨hcollects, ?_⟩
  split_ifs with hc
  · exact hmemo₂.remember (hcollects.tells hc)
  · exact hmemo₂

/-- **A collection finds at least what can be derived without its path, and at most what the note
has**, and what it remembers is what notes have. -/
theorem collects_collect (hg : g.OwnsKnown) : ∀ (d : Nat) (path : List NoteId) (n : NoteId)
    (memo : Memo), g.Roomy d path → g.Knows memo →
      g.Collects path n (g.collect d path n memo).1 ∧ g.Knows (g.collect d path n memo).2 := by
  intro d
  induction d with
  | zero => intro path n memo hroom; exact absurd hroom.ne_zero (by simp)
  | succ d ih =>
    intro path n memo hroom hmemo
    cases hn : g.hasNote n with
    | false =>
      rw [collect_of_not_hasNote hn]
      exact ⟨collects_nothing hn path, hmemo⟩
    | true =>
      by_cases hp : n ∈ path
      · rw [collect_of_mem hn hp]
        exact ⟨collects_cut hp, hmemo⟩
      · cases hknown : (memo.of n).attributes with
        | some a =>
          rw [collect_of_known hn hp hknown]
          exact ⟨(hmemo n a hn hknown).collects path, hmemo⟩
        | none =>
          exact collects_gathered hg hn hp hknown hmemo fun m memo =>
            ih (n :: path) m memo (hroom.cons hn hp)

/-- **What is remembered does not show in which attributes a note has.** -/
theorem mem_attributeIds_iff (hg : g.OwnsKnown) (hmemo : g.Knows memo) {id : AttributeId} :
    id ∈ (g.attributeIds n memo).1 ↔ g.Has [] n id := by
  obtain ⟨hcollects, -⟩ := collects_collect hg _ [] n memo (.start g) hmemo
  exact ⟨hcollects.all.upper id, hcollects.all.lower id⟩

/-- Nor does it show in whether the note is left out of fulltext search. -/
theorem isHidden_eq (hg : g.OwnsKnown) (hmemo : g.Knows memo) (n : NoteId) :
    (g.isHidden n memo).1 = g.isHiddenAt n := by
  have hmem : ∀ a, a ∈ (g.effective n memo).1 ↔ a ∈ g.effectiveAt n := by
    intro a
    change a ∈ (g.attributeIds n memo).1.filterMap g.attributes.get? ↔ _
    simp only [effectiveAt, List.mem_filterMap, mem_attributeIds_iff hg hmemo,
      mem_attributesAt_iff hg]
  change (g.effective n memo).1.any _ = _
  rw [isHiddenAt, Bool.eq_iff_iff, List.any_eq_true, List.any_eq_true]
  simp only [hmem]

end Zettel.Graph
