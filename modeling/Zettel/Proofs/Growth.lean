import Zettel.Proofs.Inheritance.Unrolling
import Zettel.Proofs.Memory

/-!
# Readings and a growing memory

A memory may hold wrong values, for instance after a change that forgot too little. Readings never
take anything out of it, and what they add was collected over it. So they keep to one account of the
notes, right or wrong: a memory that has grown from another one gives the same values.

Main statements: `collect_eq_gatherOver`, the collection with a grown memory is the one over the
memory that it has grown from, and `steady_flatText`, as an example of the views.
-/

namespace Zettel

/-! ## What readings yield -/

/-- The reading gives the same with every memory that satisfies `I`. -/
def Steady (I : Memo → Prop) {α : Type} (r : Reading α) : Prop := ∃ a, Yields I r a

section Readings

variable {I : Memo → Prop} {α β : Type} {r : Reading α} {f : α → Reading β} {a : α} {b : β}
  {memo : Memo}

/-- A reading whose value is known is steady. -/
theorem Yields.steady (h : Yields I r a) : Steady I r := ⟨a, h⟩

theorem Steady.pure (a : α) : Steady I (Pure.pure a : Reading α) := (Yields.pure a).steady

/-- Two steady readings, one after the other, are steady. -/
theorem Steady.bind (hr : Steady I r) (hf : ∀ a, Steady I (f a)) : Steady I (r >>= f) := by
  obtain ⟨a, hr⟩ := hr
  obtain ⟨b, hb⟩ := hf a
  exact ⟨b, hr.bind hb⟩

/-- A steady reading gives what it gives with one of the memories. -/
theorem Steady.yields (h : Steady I r) (hmemo : I memo) : Yields I r (r memo).1 := by
  obtain ⟨a, ha⟩ := h
  rwa [(ha memo hmemo).1]

/-- Readings of a list of things give the list of their values. -/
theorem Yields.mapM {f : α → Reading β} {b : α → β} (h : ∀ a, Yields I (f a) (b a)) (as : List α) :
    Yields I (as.mapM f) (as.map b) := by
  induction as with
  | nil => exact .pure _
  | cons a as ih =>
    rw [List.mapM_cons, List.map_cons]
    exact (h a).bind (ih.bind (.pure _))

theorem Yields.filterM {test : α → Reading Bool} {b : α → Bool} (h : ∀ a, Yields I (test a) (b a))
    (as : List α) : Yields I (as.filterM test) (as.filter b) := by
  have hloop : ∀ (as found : List α),
      Yields I (as.filterAuxM test found) ((as.filter b).reverse ++ found) := by
    intro as
    induction as with
    | nil => exact fun found => .pure found
    | cons a as ih =>
      intro found
      refine (h a).bind ?_
      cases hb : b a with
      | true => simpa [List.filter_cons_of_pos hb] using ih (a :: found)
      | false => simpa [hb] using ih found
  refine (hloop as []).bind ?_
  simpa using Yields.pure (I := I) (as.filter b)

end Readings

namespace Graph

variable {g : Graph} {memo₀ memo : Memo} {n : NoteId}

/-! ## Growing memories -/

/-- What is remembered of the note `n` is what the memory `memo₀` holds, and what is collected and
put together over it. -/
structure GrownAt (g : Graph) (memo₀ : Memo) (n : NoteId) (c : NoteMemo) : Prop where
  attributes_kept : ∀ a, (memo₀.of n).attributes = some a → c.attributes = some a
  attributes_new : ∀ a, c.attributes = some a → (memo₀.of n).attributes = none →
    ∃ d, g.unroll memo₀ d n = ⟨a, true⟩
  text_kept : ∀ text, (memo₀.of n).flatText = some text → c.flatText = some text
  text_new : ∀ text, c.flatText = some text → (memo₀.of n).flatText = none →
    text = (g.flatText n memo₀).1

/-- The memory holds what the memory `memo₀` does, and what is collected and put together over
it. -/
def Grown (g : Graph) (memo₀ memo : Memo) : Prop := ∀ n, g.GrownAt memo₀ n (memo.of n)

theorem Grown.refl (g : Graph) (memo : Memo) : g.Grown memo memo := by
  intro n
  constructor
  · exact fun _ ha => ha
  · exact fun a ha hnone => absurd (ha.symm.trans hnone) (by simp)
  · exact fun _ ht => ht
  · exact fun text ht hnone => absurd (ht.symm.trans hnone) (by simp)

/-- A memory stays grown if what is newly remembered is. -/
theorem Grown.remember (h : g.Grown memo₀ memo) {f : NoteMemo → NoteMemo}
    (hn : g.GrownAt memo₀ n (f (memo.of n))) : g.Grown memo₀ (memo.remember n f) := by
  intro m
  rw [Memo.of_remember]
  split_ifs with hm
  · exact hm ▸ hn
  · exact h m

/-- A grown memory has forgotten nothing. -/
theorem Grown.attributes_eq_none (h : g.Grown memo₀ memo) (hn : (memo.of n).attributes = none) :
    (memo₀.of n).attributes = none := by
  rw [Option.eq_none_iff_forall_ne_some]
  intro a ha
  exact absurd (((h n).attributes_kept a ha).symm.trans hn) (by simp)

/-! ## Collecting with a grown memory -/

/-- **The collection with a grown memory is the one over the memory that it has grown from.** What
was added to the memory is complete, so every path would collect the same. -/
theorem collect_eq_gatherOver : ∀ (d : Nat) (path : List NoteId) (n : NoteId) (memo : Memo),
    g.Roomy d path → (∀ q ∈ path, g.Above memo₀ q n) → g.Grown memo₀ memo →
    (g.collect d path n memo).1 = g.gatherOver memo₀ d path n ∧
      g.Grown memo₀ (g.collect d path n memo).2 := by
  intro d
  induction d with
  | zero => intro path n memo hroom; exact absurd hroom.ne_zero (by simp)
  | succ d ih =>
    intro path n memo hroom hpath hmemo
    cases hn : g.hasNote n with
    | false =>
      have hp : n ∉ path := fun hq => by
        have := hroom.hasNote n hq
        rw [hn] at this
        exact absurd this (by simp)
      have hknown : g.known? memo₀ n = some ⟨[], []⟩ := by rw [known?, hn]; rfl
      rw [gatherOver_of_known hp hknown, collect_of_not_hasNote hn]
      exact ⟨rfl, hmemo⟩
    | true =>
      have hopen : g.known? memo₀ n = (memo₀.of n).attributes := by rw [known?, if_pos hn]
      by_cases hp : n ∈ path
      · rw [gatherOver_of_mem hp, collect_of_mem hn hp]
        exact ⟨rfl, hmemo⟩
      · cases hknown : (memo.of n).attributes with
        | some a =>
          -- an entry that was added is complete, and the note ends below all of the path
          have hover : g.gatherOver memo₀ (d + 1) path n = ⟨a, true⟩ := by
            cases hknown₀ : (memo₀.of n).attributes with
            | some a₀ =>
              rw [gatherOver_of_known hp (hopen.trans hknown₀)]
              have hkept := (hmemo n).attributes_kept a₀ hknown₀
              rw [Option.some.inj (hkept.symm.trans hknown)]
            | none =>
              obtain ⟨d', hd'⟩ := (hmemo n).attributes_new a hknown hknown₀
              rw [gatherOver_eq_unroll (d := d') (by rw [hd']) hroom hpath, hd']
          rw [hover, collect_of_known hn hp hknown]
          exact ⟨rfl, hmemo⟩
        | none =>
          have hknown₀ := hmemo.attributes_eq_none hknown
          have hbelow : ∀ m, g.Above memo₀ n m → ∀ memo, g.Grown memo₀ memo →
              (g.collect d (n :: path) m memo).1 = g.gatherOver memo₀ d (n :: path) m ∧
                g.Grown memo₀ (g.collect d (n :: path) m memo).2 := fun m hm memo =>
            ih (n :: path) m memo (hroom.cons hn hp) (above_of_mem_cons hpath hm)
          obtain ⟨memo', hmemo', heq⟩ := collect_eq_gatherAll hn hp hknown hmemo
            (fun p hp => hbelow p (above_of_inheritsFrom (hopen.trans hknown₀) hp))
            fun t ht => hbelow t (above_of_templateTarget (hopen.trans hknown₀) ht)
          have hover := gatherOver_of_open (d := d) hp (hopen.trans hknown₀)
          rw [heq, hover]
          refine ⟨rfl, ?_⟩
          dsimp only
          split_ifs with hcomplete
          · have hunroll : g.gatherOver memo₀ (d + 1) path n = g.unroll memo₀ (d + 1) n :=
              gatherOver_eq_unroll_of_isComplete (by rw [hover]; exact hcomplete)
            rw [hover] at hunroll
            refine hmemo'.remember { hmemo' n with
              attributes_kept := fun a ha => absurd (ha.symm.trans hknown₀) (by simp)
              attributes_new := fun a ha _ => ⟨d + 1, ?_⟩ }
            rw [← hunroll, ← Option.some.inj ha, collectedOf, hcomplete]
          · exact hmemo'

/-! ## Views -/

theorem steady_attributesOf (g : Graph) (memo₀ : Memo) (n : NoteId) :
    Steady (g.Grown memo₀) (g.attributesOf n) :=
  ⟨(g.gatherOver memo₀ (g.noteCount + 1) [] n).attributes, fun memo h => by
    obtain ⟨hfst, hsnd⟩ := collect_eq_gatherOver (g.noteCount + 1) [] n memo (.start g) (by simp) h
    exact ⟨congrArg Collected.attributes hfst, hsnd⟩⟩

theorem steady_effective (g : Graph) (memo₀ : Memo) (n : NoteId) :
    Steady (g.Grown memo₀) (g.effective n) :=
  ((steady_attributesOf g memo₀ n).bind fun _ => .pure _).bind fun _ => .pure _

theorem steady_valueOf? (g : Graph) (memo₀ : Memo) (n : NoteId) (kind : AttributeKind)
    (name : String) : Steady (g.Grown memo₀) (g.valueOf? n kind name) :=
  (steady_effective g memo₀ n).bind fun _ => .pure _

theorem steady_isArchived (g : Graph) (memo₀ : Memo) (n : NoteId) :
    Steady (g.Grown memo₀) (g.isArchived n) :=
  (steady_valueOf? g memo₀ n _ _).bind fun _ => .pure _

/-- Whether a note is hidden does not depend on what has been collected since. -/
theorem steady_isHidden (g : Graph) (memo₀ : Memo) (n : NoteId) :
    Steady (g.Grown memo₀) (g.isHidden n) :=
  (steady_effective g memo₀ n).bind fun _ => .pure _

theorem steady_countAttributes (g : Graph) (memo₀ : Memo) (n : NoteId) (p : Attribute → Bool) :
    Steady (g.Grown memo₀) (g.countAttributes n p) :=
  (steady_effective g memo₀ n).bind fun _ => .pure _

/-- Nor does its flat text. -/
theorem steady_buildText (g : Graph) (memo₀ : Memo) (n : NoteId) (note : Note) :
    Steady (g.Grown memo₀) (g.buildText n note) := by
  refine (steady_isHidden g memo₀ n).bind fun hidden => ?_
  cases hidden with
  | true => exact .pure _
  | false => exact (steady_effective g memo₀ n).bind fun _ => .pure _

/-- **The flat text of a note is the same with every grown memory.** -/
theorem steady_flatText (g : Graph) (memo₀ : Memo) (n : NoteId) :
    Steady (g.Grown memo₀) (g.flatText n) := by
  cases hnote : g.notes.get? n with
  | none =>
    rw [flatText, hnote]
    exact .pure _
  | some note =>
    refine ⟨(g.flatText n memo₀).1, fun memo h => ?_⟩
    rw [flatText_of_note hnote]
    cases hknown : (memo.of n).flatText with
    | some text =>
      refine ⟨?_, h⟩
      cases hknown₀ : (memo₀.of n).flatText with
      | some text₀ =>
        have hkept := (h n).text_kept text₀ hknown₀
        rw [flatText_of_note hnote, hknown₀]
        exact Option.some.inj (hknown.symm.trans hkept)
      | none => exact (h n).text_new text hknown hknown₀
    | none =>
      have hknown₀ : (memo₀.of n).flatText = none := by
        rw [Option.eq_none_iff_forall_ne_some]
        intro text ht
        exact absurd (((h n).text_kept text ht).symm.trans hknown) (by simp)
      obtain ⟨hfst, hsnd⟩ := (steady_buildText g memo₀ n note).yields (.refl g memo₀) memo h
      have hvalue : (g.buildText n note memo).1 = (g.flatText n memo₀).1 := by
        rw [hfst, flatText_of_note hnote, hknown₀]
      dsimp only
      refine ⟨hvalue, hsnd.remember { hsnd n with
        text_kept := fun text ht => absurd (ht.symm.trans hknown₀) (by simp)
        text_new := fun text ht _ => ?_ }⟩
      rw [← hvalue]
      exact (Option.some.inj ht).symm

end Graph

end Zettel
