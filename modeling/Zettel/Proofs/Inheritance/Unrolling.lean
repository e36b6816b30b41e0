import Zettel.Graph.Memo
import Zettel.Proofs.Inheritance.Gathering

/-!
# Collecting attributes with a fixed memory

`gatherOver` is the collection of attributes with a memory that is read and never filled. The memory
may hold anything, so the edges no longer tell which notes a collection comes to. Instead it is
compared with `unroll`, the same recursion without a path, which is complete only where it ends by
itself. A note is `Above` another one if it takes longer to end.

Main statements: `gatherOver_eq_unroll_of_isComplete`, a collection that was cut nowhere does not
depend on the path, and `gatherOver_eq_unroll`, where the unrolled collection ends, every path from
notes above collects the same. So a complete collection may be put into the memory.
-/

namespace Zettel.Graph

/-! ## The two recursions -/

/-- The attributes of a note that are had without collecting them: none of an unknown note, and what
is remembered. -/
def known? (g : Graph) (memo : Memo) (n : NoteId) : Option Attributes :=
  if g.hasNote n then (memo.of n).attributes else some ⟨[], []⟩

/-- Collects the attributes of the note `n` over a memory; `path` holds the notes that the recursion
came by. -/
def gatherOver (g : Graph) (memo : Memo) : Nat → List NoteId → NoteId → Collected
  | 0, _, _ => .cut
  | depth + 1, path, n =>
    if n ∈ path then .cut
    else match g.known? memo n with
      | some a => ⟨a, true⟩
      | none => g.collectedOf (g.gatherAll (gatherOver g memo depth (n :: path)) n)

/-- Collects the attributes of the note `n` over a memory and follows cycles down to the given
depth. -/
def unroll (g : Graph) (memo : Memo) : Nat → NoteId → Collected
  | 0, _ => .cut
  | depth + 1, n =>
    match g.known? memo n with
    | some a => ⟨a, true⟩
    | none => g.collectedOf (g.gatherAll (unroll g memo depth) n)

variable {g : Graph} {memo : Memo} {c c' : NoteId → Collected} {n m q t : NoteId} {d d' : Nat}
  {path : List NoteId} {a : Attributes}

/-- What is not known is an existing note that nothing is remembered of. -/
theorem hasNote_of_known?_eq_none (h : g.known? memo n = none) :
    g.hasNote n = true ∧ (memo.of n).attributes = none := by
  rw [known?] at h
  split_ifs at h with hn
  exact ⟨hn, h⟩

/-- A cycle is cut where it closes. -/
theorem gatherOver_of_mem (hp : n ∈ path) : g.gatherOver memo (d + 1) path n = .cut := by
  rw [gatherOver, if_pos hp]

/-- What is known is taken from the memory. -/
theorem gatherOver_of_known (hp : n ∉ path) (h : g.known? memo n = some a) :
    g.gatherOver memo (d + 1) path n = ⟨a, true⟩ := by
  rw [gatherOver, if_neg hp, h]

/-- What is not known is collected at parents and templates. -/
theorem gatherOver_of_open (hp : n ∉ path) (h : g.known? memo n = none) :
    g.gatherOver memo (d + 1) path n =
      g.collectedOf (g.gatherAll (g.gatherOver memo d (n :: path)) n) := by
  rw [gatherOver, if_neg hp, h]

theorem unroll_of_known (h : g.known? memo n = some a) : g.unroll memo (d + 1) n = ⟨a, true⟩ := by
  rw [unroll, h]

/-- Unrolling asks parents and templates with one level less, whatever the path. -/
theorem unroll_of_open (h : g.known? memo n = none) :
    g.unroll memo (d + 1) n = g.collectedOf (g.gatherAll (g.unroll memo d) n) := by
  rw [unroll, h]

/-- Without a level left nothing is complete. -/
theorem isComplete_unroll_zero : (g.unroll memo 0 n).isComplete ≠ true := by
  simp [unroll, Collected.cut]

/-! ## What was cut nowhere -/

/-- The collection at a note is complete if those at its parents and its templates are. -/
theorem isComplete_gatherAll : (g.gatherAll c n).2 = true ↔
    (∀ p ∈ g.inheritsFrom n, (c p).isComplete = true) ∧
      ∀ t ∈ g.templateTargets (g.gatherBase c n).1, (c t).isComplete = true := by
  rw [gatherAll, isComplete_gatherFrom, gatherBase, isComplete_gatherFrom]
  simp

/-- **A collection that was cut nowhere does not depend on the path.** -/
theorem gatherOver_eq_unroll_of_isComplete : ∀ {d : Nat} {path : List NoteId} {n : NoteId},
    (g.gatherOver memo d path n).isComplete = true →
      g.gatherOver memo d path n = g.unroll memo d n := by
  intro d
  induction d with
  | zero => exact fun _ => rfl
  | succ d ih =>
    intro path n h
    by_cases hp : n ∈ path
    · rw [gatherOver_of_mem hp] at h
      exact absurd h (by simp [Collected.cut])
    · cases hknown : g.known? memo n with
      | some a => rw [gatherOver_of_known hp hknown, unroll_of_known hknown]
      | none =>
        rw [gatherOver_of_open hp hknown] at h ⊢
        rw [unroll_of_open hknown]
        obtain ⟨hparents, htemplates⟩ := isComplete_gatherAll.1 h
        rw [gatherAll_congr (fun p hp => ih (hparents p hp)) fun t ht => ih (htemplates t ht)]

/-! ## What was cut is a part -/

/-- The first collection has no attributes that the second one lacks. -/
structure Collected.PartOf (c c' : Collected) : Prop where
  all : c.attributes.all ⊆ c'.attributes.all
  inheritable : c.attributes.inheritable ⊆ c'.attributes.inheritable

/-- More at the parents is more that is inherited. -/
theorem gatherBase_subset (h : ∀ p ∈ g.inheritsFrom n, (c p).PartOf (c' p)) :
    (g.gatherBase c n).1 ⊆ (g.gatherBase c' n).1 := by
  intro id hid
  rw [gatherBase, mem_gatherFrom] at hid ⊢
  exact hid.imp_right fun ⟨p, hp, hid, hcontains⟩ => ⟨p, hp, (h p hp).inheritable hid, hcontains⟩

/-- More attributes have more templates. -/
theorem templateTargets_subset {ids ids' : List AttributeId} (h : ids ⊆ ids') :
    g.templateTargets ids ⊆ g.templateTargets ids' := by
  intro t ht
  obtain ⟨id, hid, hto⟩ := mem_templateTargets.1 ht
  exact mem_templateTargets.2 ⟨id, h hid, hto⟩

theorem partOf_collectedOf_gatherAll (hp : ∀ p ∈ g.inheritsFrom n, (c p).PartOf (c' p))
    (ht : ∀ t ∈ g.templateTargets (g.gatherBase c' n).1, (c t).PartOf (c' t)) :
    (g.collectedOf (g.gatherAll c n)).PartOf (g.collectedOf (g.gatherAll c' n)) := by
  have hbase := gatherBase_subset hp
  have hall : (g.gatherAll c n).1 ⊆ (g.gatherAll c' n).1 := by
    intro id hid
    rw [gatherAll, mem_gatherFrom] at hid ⊢
    rcases hid with hid | ⟨t, hmem, hid, hcontains⟩
    · exact Or.inl (hbase hid)
    · have hmem' := templateTargets_subset hbase hmem
      exact Or.inr ⟨t, hmem', (ht t hmem').all hid, hcontains⟩
  refine ⟨hall, fun id hid => ?_⟩
  obtain ⟨hid, hinheritable⟩ := List.mem_filter.1 hid
  exact List.mem_filter.2 ⟨hall hid, hinheritable⟩

/-- **A collection that was cut is a part of the one that ends.** -/
theorem gatherOver_partOf_unroll : ∀ {d d' : Nat} {path : List NoteId} {n : NoteId},
    (g.unroll memo d' n).isComplete = true →
      (g.gatherOver memo d path n).PartOf (g.unroll memo d' n) := by
  have hcut : ∀ c, Collected.cut.PartOf c := fun c => ⟨by simp [Collected.cut], by
    simp [Collected.cut]⟩
  intro d
  induction d with
  | zero => exact fun _ => hcut _
  | succ d ih =>
    intro d' path n h
    by_cases hp : n ∈ path
    · rw [gatherOver_of_mem hp]
      exact hcut _
    · cases d' with
      | zero => exact absurd h isComplete_unroll_zero
      | succ d' =>
        cases hknown : g.known? memo n with
        | some a =>
          rw [gatherOver_of_known hp hknown, unroll_of_known hknown]
          exact ⟨fun _ => id, fun _ => id⟩
        | none =>
          rw [unroll_of_open hknown] at h ⊢
          rw [gatherOver_of_open hp hknown]
          obtain ⟨hparents, htemplates⟩ := isComplete_gatherAll.1 h
          exact partOf_collectedOf_gatherAll (fun p hp => ih (hparents p hp))
            fun t ht => ih (htemplates t ht)

/-! ## Notes above -/

/-- If the collection at `q` ends, that at `n` ends earlier. -/
def Above (g : Graph) (memo : Memo) (q n : NoteId) : Prop :=
  ∀ d, (g.unroll memo d q).isComplete = true →
    ∃ d' < d, (g.unroll memo d' n).isComplete = true

theorem Above.trans (h : g.Above memo q n) (h' : g.Above memo n m) : g.Above memo q m := by
  intro d hd
  obtain ⟨d₁, hlt, hd₁⟩ := h d hd
  obtain ⟨d₂, hlt', hd₂⟩ := h' d₁ hd₁
  exact ⟨d₂, Nat.lt_trans hlt' hlt, hd₂⟩

/-- A note where the collection ends is not above itself. -/
theorem Above.not_isComplete (h : g.Above memo n n) : (g.unroll memo d n).isComplete ≠ true := by
  induction d using Nat.strongRecOn with
  | ind d ih =>
    intro hd
    obtain ⟨d', hlt, hd'⟩ := h d hd
    exact ih d' hlt hd'

theorem above_of_inheritsFrom (h : g.known? memo n = none) (hm : m ∈ g.inheritsFrom n) :
    g.Above memo n m := by
  intro d hd
  cases d with
  | zero => exact absurd hd isComplete_unroll_zero
  | succ d =>
    rw [unroll_of_open h] at hd
    exact ⟨d, Nat.lt_succ_self d, (isComplete_gatherAll.1 hd).1 m hm⟩

/-- A template that was found with a cut is found when the collection ends. -/
theorem above_of_templateTarget (h : g.known? memo n = none)
    (ht : t ∈ g.templateTargets (g.gatherBase (g.gatherOver memo d' path) n).1) :
    g.Above memo n t := by
  intro d hd
  cases d with
  | zero => exact absurd hd isComplete_unroll_zero
  | succ d =>
    rw [unroll_of_open h] at hd
    obtain ⟨hparents, htemplates⟩ := isComplete_gatherAll.1 hd
    have hbase : (g.gatherBase (g.gatherOver memo d' path) n).1 ⊆
        (g.gatherBase (g.unroll memo d) n).1 :=
      gatherBase_subset fun p hp => gatherOver_partOf_unroll (hparents p hp)
    exact ⟨d, Nat.lt_succ_self d, htemplates t (templateTargets_subset hbase ht)⟩

/-- The notes of a path and the note that follows them are above what the note takes over. -/
theorem above_of_mem_cons (hpath : ∀ q ∈ path, g.Above memo q n) (hm : g.Above memo n m) :
    ∀ q ∈ n :: path, g.Above memo q m := by
  intro q hq
  rcases List.mem_cons.1 hq with rfl | hq
  · exact hm
  · exact (hpath q hq).trans hm

/-- **Where the collection ends, every path from notes above collects the same.** No note of the
path is met again, since the collection at a note below ends earlier. -/
theorem gatherOver_eq_unroll : ∀ {d d' : Nat} {path : List NoteId} {n : NoteId},
    (g.unroll memo d n).isComplete = true → g.Roomy d' path → (∀ q ∈ path, g.Above memo q n) →
      g.gatherOver memo d' path n = g.unroll memo d n := by
  intro d
  induction d with
  | zero => exact fun h => absurd h isComplete_unroll_zero
  | succ d ih =>
    intro d' path n h hroom hpath
    obtain ⟨d', rfl⟩ := hroom.ne_zero
    have hp : n ∉ path := fun hq => (hpath n hq).not_isComplete h
    cases hknown : g.known? memo n with
    | some a => rw [gatherOver_of_known hp hknown, unroll_of_known hknown]
    | none =>
      have hn := (hasNote_of_known?_eq_none hknown).1
      rw [unroll_of_open hknown] at h ⊢
      rw [gatherOver_of_open hp hknown]
      obtain ⟨hparents, htemplates⟩ := isComplete_gatherAll.1 h
      have hbelow : ∀ {m}, (g.unroll memo d m).isComplete = true → g.Above memo n m →
          g.gatherOver memo d' (n :: path) m = g.unroll memo d m := fun hm habove =>
        ih hm (hroom.cons hn hp) (above_of_mem_cons hpath habove)
      have hparent : ∀ p ∈ g.inheritsFrom n,
          g.gatherOver memo d' (n :: path) p = g.unroll memo d p := fun p hp =>
        hbelow (hparents p hp) (above_of_inheritsFrom hknown hp)
      have htemplate : ∀ t ∈ g.templateTargets
          (g.gatherBase (g.gatherOver memo d' (n :: path)) n).1,
          g.gatherOver memo d' (n :: path) t = g.unroll memo d t := by
        intro t ht
        refine hbelow (htemplates t ?_) (above_of_templateTarget hknown ht)
        rwa [← gatherBase_congr hparent]
      rw [gatherAll_congr hparent htemplate]

end Zettel.Graph
