import Mathlib.Order.Bounds.Defs
import Mathlib.Data.Set.Basic
import Zettel.Proofs.Graph.Consistent
import Zettel.Proofs.Inheritance.Settled

/-!
# The equations of inheritance

What a note has is fixed by equations: a note has what it owns and what is inheritable of its
parents, and with a template relation among these all that the target has. `Holds` derives
attributes by these rules, and leaves out some notes altogether. The rules can be applied so that
no derivation comes back to the note it is for (`has_iff_apart`), which is why nothing is lost by
cutting the collection at notes on its path.

Main statements: `mem_gather_iff`, the collection finds what can be derived without the notes on the
path, and `isLeast_attributesAt`, the attributes of notes are the least solution of the equations.
-/

namespace Zettel.Graph

/-! ## The equations -/

/-- The attribute `id` is taken over by notes below its owner. -/
def IsInheritable (g : Graph) (id : AttributeId) : Prop :=
  ∃ a, g.attributes.get? id = some a ∧ a.isInheritable = true

/-- What `n` owns and inherits, if `all` tells what notes have. -/
def baseOf (g : Graph) (all : NoteId → Set AttributeId) (n : NoteId) : Set AttributeId :=
  {id | id ∈ g.owned n} ∪
    {id | n ≠ rootId ∧ ∃ p ∈ g.parents n, id ∈ all p ∧ g.IsInheritable id}

/-- The equations: a note has what it owns and inherits, and all that the existing targets of the
template relations among this have. -/
def Solves (g : Graph) (all : NoteId → Set AttributeId) : Prop :=
  ∀ n, all n = g.baseOf all n ∪
    {id | ∃ r ∈ g.baseOf all n, ∃ t, g.IsTemplateTo r t ∧ g.hasNote t = true ∧ id ∈ all t}

/-! ## Derivations -/

/-- The note, which is not among `off`, has the attribute by the rules of inheritance, applied to
notes that are not among `off` either. The flag says whether it owns or inherits it. -/
inductive Holds (g : Graph) (off : List NoteId) : Bool → NoteId → AttributeId → Prop
  | own {n : NoteId} {id : AttributeId} (hn : n ∉ off) (hid : id ∈ g.owned n) :
      Holds g off true n id
  | inherit {b : Bool} {n p : NoteId} {id : AttributeId} (hn : n ∉ off) (hp : p ∈ g.inheritsFrom n)
      (h : Holds g off b p id) (hid : g.IsInheritable id) : Holds g off true n id
  | template {b : Bool} {n t : NoteId} {r id : AttributeId} (hr : Holds g off true n r)
      (ht : g.IsTemplateTo r t) (h : Holds g off b t id) : Holds g off false n id

/-- The note has the attribute in one way or another. -/
def Has (g : Graph) (off : List NoteId) (n : NoteId) (id : AttributeId) : Prop :=
  ∃ b, g.Holds off b n id

variable {g : Graph} {off : List NoteId} {b : Bool} {n t : NoteId} {id r : AttributeId}

theorem Holds.not_mem (h : g.Holds off b n id) : n ∉ off := by
  induction h with
  | own hn _ => exact hn
  | inherit hn _ _ _ _ => exact hn
  | template _ _ _ ih _ => exact ih

theorem Holds.hasNote (h : g.Holds off b n id) : g.hasNote n = true := by
  induction h with
  | own _ hid => exact hasNote_of_mem_owned hid
  | inherit _ hp _ _ _ => exact Draws.hasNote (Or.inl hp)
  | template _ _ _ ih _ => exact ih

/-- What is derived without more notes can be derived without fewer. -/
theorem Holds.mono {off' : List NoteId} (hoff : off ⊆ off') (h : g.Holds off' b n id) :
    g.Holds off b n id := by
  induction h with
  | own hn hid => exact .own (fun hm => hn (hoff hm)) hid
  | inherit hn hp _ hid ih => exact .inherit (fun hm => hn (hoff hm)) hp ih hid
  | template _ ht _ ihr ih => exact .template ihr ht ih

/-- Every template relation that a note has brings what its target has, also one that came from
another template. -/
theorem Has.of_template (hr : g.Has off n r) (ht : g.IsTemplateTo r t) (h : g.Has off t id) :
    g.Has off n id := by
  obtain ⟨b, hr⟩ := hr
  obtain ⟨b', h⟩ := h
  induction hr with
  | own hn hid => exact ⟨_, .template (.own hn hid) ht h⟩
  | inherit hn hp hp' hid _ => exact ⟨_, .template (.inherit hn hp hp' hid) ht h⟩
  | template hr' ht' _ _ ih =>
    obtain ⟨b'', h'⟩ := ih ht
    exact ⟨_, .template hr' ht' h'⟩

/-- What `n` owns, or inherits by derivations without `n`. -/
def BaseApart (g : Graph) (off : List NoteId) (n : NoteId) (id : AttributeId) : Prop :=
  id ∈ g.owned n ∨ ∃ p ∈ g.inheritsFrom n, g.Has (n :: off) p id ∧ g.IsInheritable id

/-- What `n` has by a rule applied to derivations without `n`. -/
def HasApart (g : Graph) (off : List NoteId) (n : NoteId) (id : AttributeId) : Prop :=
  g.BaseApart off n id ∨
    ∃ r, g.BaseApart off n r ∧ ∃ t, g.IsTemplateTo r t ∧ g.Has (n :: off) t id

/-- What any note has, it has by a derivation without `n`, or else `n` has it by a rule applied to
such derivations. The induction is on the derivation; where it uses a template relation that passed
through `n`, the note `n` uses the same template, or has the relation from another one. -/
theorem Holds.apart (h : g.Holds off b t id) :
    g.HasApart off n id ∨ t ≠ n ∧ g.Holds (n :: off) b t id := by
  induction h with
  | @own m _ hm hid =>
    by_cases hmn : m = n
    · exact Or.inl (Or.inl (Or.inl (hmn ▸ hid)))
    · exact Or.inr ⟨hmn, .own (by simp [hmn, hm]) hid⟩
  | @inherit _ m p _ hm hp _ hid ih =>
    rcases ih with ih | ⟨-, ih⟩
    · exact Or.inl ih
    · by_cases hmn : m = n
      · exact Or.inl (Or.inl (Or.inr ⟨p, hmn ▸ hp, ⟨_, ih⟩, hid⟩))
      · exact Or.inr ⟨hmn, .inherit (by simp [hmn, hm]) hp ih hid⟩
  | @template _ m u r _ _ hu _ ihr ih =>
    rcases ih with ih | ⟨-, ih⟩
    · exact Or.inl ih
    · rcases ihr with (hbase | ⟨r', hr', u', hu', hhas⟩) | ⟨hmn, hr⟩
      · exact Or.inl (Or.inr ⟨r, hbase, u, hu, _, ih⟩)
      · exact Or.inl (Or.inr ⟨r', hr', u', hu', hhas.of_template hu ⟨_, ih⟩⟩)
      · exact Or.inr ⟨hmn, .template hr hu ih⟩

/-- **No derivation needs to come back to its note.** -/
theorem has_iff_apart (hn : n ∉ off) : g.Has off n id ↔ g.HasApart off n id := by
  have hsub : off ⊆ n :: off := List.subset_cons_self _ _
  have hbase : ∀ {id}, g.BaseApart off n id → g.Holds off true n id := by
    rintro id (hid | ⟨p, hp, ⟨_, hhas⟩, hid⟩)
    · exact .own hn hid
    · exact .inherit hn hp (hhas.mono hsub) hid
  constructor
  · rintro ⟨b, h⟩
    rcases h.apart with h | ⟨hne, -⟩
    · exact h
    · exact absurd rfl hne
  · rintro (h | ⟨r, hr, t, ht, _, h⟩)
    · exact ⟨_, hbase h⟩
    · exact ⟨_, .template (hbase hr) ht (h.mono hsub)⟩

/-! ## The collection finds what can be derived -/

theorem mem_inheritableAmong {ids : List AttributeId} :
    id ∈ g.inheritableAmong ids ↔ id ∈ ids ∧ g.IsInheritable id := by
  simp [inheritableAmong, IsInheritable, Option.any_eq_true]

theorem inheritable_gather (d : Nat) (path : List NoteId) (n : NoteId) :
    (g.gather d path n).attributes.inheritable =
      g.inheritableAmong (g.gather d path n).attributes.all := by
  cases d with
  | zero => rfl
  | succ d =>
    rw [gather]
    split
    · split <;> rfl
    · rfl

/-- The attributes that notes own are in the table. -/
def OwnsKnown (g : Graph) : Prop := ∀ n, ∀ id ∈ g.owned n, g.attributes.contains id = true

theorem Attached.ownsKnown (hg : g.Attached) : g.OwnsKnown := by
  intro n id hid
  obtain ⟨a, ha, -⟩ := hg.owned_stored hid
  rw [Table.contains, ha]
  rfl

theorem Holds.contains (hg : g.OwnsKnown) (h : g.Holds off b n id) :
    g.attributes.contains id = true := by
  induction h with
  | @own m id _ hid => exact hg m id hid
  | inherit _ _ _ _ ih => exact ih
  | template _ _ _ _ ih => exact ih

/-- **The collection finds what can be derived without the notes on its path.** -/
theorem mem_gather_iff (hg : g.OwnsKnown) : ∀ (d : Nat) (path : List NoteId) (n : NoteId)
    (id : AttributeId), g.Roomy d path →
      (id ∈ (g.gather d path n).attributes.all ↔ g.Has path n id) := by
  intro d
  induction d with
  | zero => intro path n id h; exact absurd h.ne_zero (by simp)
  | succ d ih =>
    intro path n id hroom
    by_cases hn : g.hasNote n = true
    · by_cases hp : n ∈ path
      · rw [gather_of_mem hn hp]
        exact ⟨fun h => absurd h (by simp [Collected.cut]), fun ⟨_, h⟩ => absurd hp h.not_mem⟩
      · have hbelow := hroom.cons hn hp
        have hbase : ∀ id, id ∈ (g.gatherBase (g.gather d (n :: path)) n).1 ↔
            g.BaseApart path n id := by
          intro id
          rw [gatherBase, mem_gatherFrom, mem_addNew]
          simp only [List.not_mem_nil, false_or, inheritable_gather, mem_inheritableAmong,
            ih _ _ _ hbelow]
          refine or_congr_right (exists_congr fun p => and_congr_right fun _ => ?_)
          exact ⟨fun h => h.1, fun h => ⟨h, h.1.choose_spec.contains hg⟩⟩
        rw [gather_of_not_mem hn hp, has_iff_apart hp]
        change id ∈ (g.gatherAll (g.gather d (n :: path)) n).1 ↔ _
        rw [gatherAll, mem_gatherFrom, hbase, HasApart]
        refine or_congr_right ⟨?_, ?_⟩
        · rintro ⟨t, ht, hid, -⟩
          obtain ⟨r, hr, hto⟩ := mem_templateTargets.1 ht
          exact ⟨r, (hbase r).1 hr, t, hto, (ih _ _ _ hbelow).1 hid⟩
        · rintro ⟨r, hr, t, hto, h⟩
          exact ⟨t, mem_templateTargets.2 ⟨r, (hbase r).2 hr, hto⟩, (ih _ _ _ hbelow).2 h,
            h.choose_spec.contains hg⟩
    · rw [Bool.not_eq_true] at hn
      rw [gather_of_not_hasNote hn]
      refine ⟨fun h => absurd h (by simp [Collected.nothing]), fun ⟨_, h⟩ => ?_⟩
      exact absurd h.hasNote (by simp [hn])

/-- The attributes of a note are those that it has by the rules. -/
theorem mem_attributesAt_iff (hg : g.OwnsKnown) :
    id ∈ (g.attributesAt n).all ↔ g.Has [] n id :=
  mem_gather_iff hg _ _ _ _ (.start g)

/-! ## The least solution -/

theorem holds_true_iff :
    g.Holds [] true n id ↔ id ∈ g.baseOf (fun n => {id | g.Has [] n id}) n := by
  constructor
  · intro h
    cases h with
    | own _ hid => exact Or.inl hid
    | @inherit b _ p _ _ hp h hid =>
      obtain ⟨hroot, hp⟩ := mem_parents_of_inheritsFrom hp
      exact Or.inr ⟨hroot, p, hp, ⟨b, h⟩, hid⟩
  · rintro (hid | ⟨hroot, p, hp, ⟨b, h⟩, hid⟩)
    · exact .own (by simp) hid
    · exact .inherit (by simp) (by rwa [inheritsFrom, if_neg hroot]) h hid

/-- What follows by the rules solves the equations. -/
theorem solves_has (g : Graph) : g.Solves fun n => {id | g.Has [] n id} := by
  intro n
  ext id
  constructor
  · rintro ⟨b, h⟩
    cases h with
    | own hn hid => exact Or.inl (holds_true_iff.1 (.own hn hid))
    | inherit hn hp h hid => exact Or.inl (holds_true_iff.1 (.inherit hn hp h hid))
    | template hr ht h =>
      exact Or.inr ⟨_, holds_true_iff.1 hr, _, ht, h.hasNote, _, h⟩
  · rintro (h | ⟨r, hr, t, ht, -, b, h⟩)
    · exact ⟨true, holds_true_iff.2 h⟩
    · exact ⟨false, .template (holds_true_iff.2 hr) ht h⟩

/-- Every solution has what follows by the rules. -/
theorem Holds.mem_of_solves {all : NoteId → Set AttributeId} (hall : g.Solves all)
    (h : g.Holds [] b n id) : id ∈ all n ∧ (b = true → id ∈ g.baseOf all n) := by
  induction h with
  | @own n id _ hid =>
    have hbase : id ∈ g.baseOf all n := Or.inl hid
    exact ⟨by rw [hall n]; exact Or.inl hbase, fun _ => hbase⟩
  | @inherit _ n p id _ hp _ hid ih =>
    have hbase : id ∈ g.baseOf all n := by
      obtain ⟨hroot, hp⟩ := mem_parents_of_inheritsFrom hp
      exact Or.inr ⟨hroot, p, hp, ih.1, hid⟩
    exact ⟨by rw [hall n]; exact Or.inl hbase, fun _ => hbase⟩
  | @template _ n t r id _ ht h ihr ih =>
    refine ⟨?_, by simp⟩
    rw [hall n]
    exact Or.inr ⟨r, ihr.2 rfl, t, ht, h.hasNote, ih.1⟩

/-- **The attributes of the notes are the least solution of the equations.** -/
theorem isLeast_attributesAt (hg : g.OwnsKnown) :
    IsLeast {all | g.Solves all} fun n => {id | id ∈ (g.attributesAt n).all} := by
  have hhas : (fun n => {id | id ∈ (g.attributesAt n).all}) = fun n => {id | g.Has [] n id} := by
    funext n
    ext id
    exact mem_attributesAt_iff hg
  rw [hhas]
  refine ⟨solves_has g, fun all hall n id => ?_⟩
  rintro ⟨b, h⟩
  exact (h.mem_of_solves hall).1

end Zettel.Graph
