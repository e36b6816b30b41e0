import Mathlib.Data.List.Nodup
import Mathlib.Data.List.Perm.Subperm
import Mathlib.Logic.Relation
import Zettel.Proofs.Graph.Edges

/-!
# Collecting attributes without a memory

`gather` is the collection of attributes with nothing remembered: the same recursion along parents
and templates, cut at the same places. Where its recursion can go is settled by the edges of the
notes alone: a note *draws* on its parents and on the targets of its own template relations, and
whatever is collected was owned by a note that can be reached by drawing (`owner_of_mem_gather`).

Main statement: `gather_eq_of_roomy`, the depth that the recursion may use has no bearing on what
it finds, if it exceeds the number of notes that are not on the path yet.
-/

namespace Zettel.Graph

/-! ## One step of the collection -/

/-- The notes that `n` inherits from. -/
def inheritsFrom (g : Graph) (n : NoteId) : List NoteId := if n = rootId then [] else g.parents n

/-- Adds to some ids those that `pick` chooses from what `c` collects at each source. The flag says
whether everything so far is complete. -/
def gatherFrom (g : Graph) (c : NoteId → Collected) (pick : Attributes → List AttributeId)
    (sources : List NoteId) (s : List AttributeId × Bool) : List AttributeId × Bool :=
  sources.foldl (fun s n =>
    (addNew s.1 ((pick (c n).attributes).filter g.attributes.contains),
      s.2 && (c n).isComplete)) s

/-- The attributes of `n` that are its own or inherited, where `c` collects those of its parents. -/
def gatherBase (g : Graph) (c : NoteId → Collected) (n : NoteId) : List AttributeId × Bool :=
  g.gatherFrom c Attributes.inheritable (g.inheritsFrom n) (addNew [] (g.owned n), true)

/-- The attributes of `n`, where `c` collects those of its parents and templates. -/
def gatherAll (g : Graph) (c : NoteId → Collected) (n : NoteId) : List AttributeId × Bool :=
  g.gatherFrom c Attributes.all (g.templateTargets (g.gatherBase c n).1) (g.gatherBase c n)

/-- A collection with the ids that were gathered. -/
def collectedOf (g : Graph) (s : List AttributeId × Bool) : Collected :=
  ⟨⟨s.1, g.inheritableAmong s.1⟩, s.2⟩

/-- Collects the attributes of the note `n` and remembers nothing; `path` holds the notes that the
recursion came by. -/
def gather (g : Graph) : Nat → List NoteId → NoteId → Collected
  | 0, _, _ => .cut
  | depth + 1, path, n =>
    if g.hasNote n then
      if n ∈ path then .cut else g.collectedOf (g.gatherAll (gather g depth (n :: path)) n)
    else .nothing

variable {g : Graph} {c c' : NoteId → Collected} {pick : Attributes → List AttributeId}

theorem mem_gatherFrom {sources : List NoteId} {s : List AttributeId × Bool} {id : AttributeId} :
    id ∈ (g.gatherFrom c pick sources s).1 ↔ id ∈ s.1 ∨
      ∃ n ∈ sources, id ∈ pick (c n).attributes ∧ g.attributes.contains id = true := by
  induction sources generalizing s with
  | nil => simp [gatherFrom]
  | cons m sources ih =>
    rw [gatherFrom, List.foldl_cons, ← gatherFrom, ih]
    simp only [mem_addNew, List.mem_filter, List.mem_cons, exists_eq_or_imp]
    exact or_assoc

theorem isComplete_gatherFrom {sources : List NoteId} {s : List AttributeId × Bool} :
    (g.gatherFrom c pick sources s).2 = true ↔
      s.2 = true ∧ ∀ n ∈ sources, (c n).isComplete = true := by
  induction sources generalizing s with
  | nil => simp [gatherFrom]
  | cons m sources ih =>
    rw [gatherFrom, List.foldl_cons, ← gatherFrom, ih]
    simp [and_assoc]

theorem gatherFrom_congr {sources : List NoteId} (h : ∀ n ∈ sources, c n = c' n)
    (s : List AttributeId × Bool) :
    g.gatherFrom c pick sources s = g.gatherFrom c' pick sources s := by
  induction sources generalizing s with
  | nil => rfl
  | cons m sources ih =>
    rw [gatherFrom, gatherFrom, List.foldl_cons, List.foldl_cons, h m List.mem_cons_self]
    exact ih (fun n hn => h n (List.mem_cons_of_mem _ hn)) _

/-- What is gathered depends on the collections at the sources alone. -/
theorem gatherBase_congr {n : NoteId} (h : ∀ p ∈ g.inheritsFrom n, c p = c' p) :
    g.gatherBase c n = g.gatherBase c' n :=
  gatherFrom_congr h _

/-- What is gathered depends on what is collected at parents and templates only. -/
theorem gatherAll_congr {n : NoteId} (hp : ∀ p ∈ g.inheritsFrom n, c p = c' p)
    (ht : ∀ t ∈ g.templateTargets (g.gatherBase c n).1, c t = c' t) :
    g.gatherAll c n = g.gatherAll c' n := by
  rw [gatherAll, gatherAll, ← gatherBase_congr hp]
  exact gatherFrom_congr ht _

/-- Nothing is gathered where there is no note. -/
theorem gather_of_not_hasNote {depth : Nat} {path : List NoteId} {n : NoteId}
    (h : g.hasNote n = false) : g.gather (depth + 1) path n = .nothing := by
  rw [gather, if_neg (by simp [h])]

/-- A cycle is cut where it closes. -/
theorem gather_of_mem {depth : Nat} {path : List NoteId} {n : NoteId} (h : g.hasNote n = true)
    (hn : n ∈ path) : g.gather (depth + 1) path n = .cut := by
  rw [gather, if_pos h, if_pos hn]

/-- Elsewhere the note is put on the path, and its parents and templates are asked. -/
theorem gather_of_not_mem {depth : Nat} {path : List NoteId} {n : NoteId}
    (h : g.hasNote n = true) (hn : n ∉ path) : g.gather (depth + 1) path n =
      g.collectedOf (g.gatherAll (g.gather depth (n :: path)) n) := by
  rw [gather, if_pos h, if_neg hn]

/-! ## Drawing on other notes -/

/-- The attribute `id` is a template relation to the note `t`. -/
def IsTemplateTo (g : Graph) (id : AttributeId) (t : NoteId) : Prop :=
  ∃ a, g.attributes.get? id = some a ∧ a.isTemplate = true ∧ a.value = t

theorem mem_templateTargets {ids : List AttributeId} {t : NoteId} :
    t ∈ g.templateTargets ids ↔ ∃ id ∈ ids, g.IsTemplateTo id t := by
  simp only [templateTargets, IsTemplateTo, List.mem_map, List.mem_filter, List.mem_filterMap]
  constructor
  · rintro ⟨a, ⟨⟨id, hid, ha⟩, hta⟩, rfl⟩
    exact ⟨id, hid, a, ha, hta, rfl⟩
  · rintro ⟨id, hid, a, ha, hta, rfl⟩
    exact ⟨a, ⟨⟨id, hid, ha⟩, hta⟩, rfl⟩

/-- The note `n` takes over attributes of `m`: it inherits from `m`, or owns a template relation to
`m`. -/
def Draws (g : Graph) (n m : NoteId) : Prop :=
  m ∈ g.inheritsFrom n ∨ m ∈ g.templateTargets (g.owned n)

/-- The notes that can be reached from `n` by drawing, `n` among them. -/
def DrawsOn (g : Graph) : NoteId → NoteId → Prop := Relation.ReflTransGen g.Draws

/-- The root note inherits from nobody, and others from parents only. -/
theorem mem_parents_of_inheritsFrom {n p : NoteId} (h : p ∈ g.inheritsFrom n) :
    n ≠ rootId ∧ p ∈ g.parents n := by
  rw [inheritsFrom] at h
  split at h
  · exact absurd h (by simp)
  · rename_i hroot
    exact ⟨hroot, h⟩

/-- Only existing notes draw attributes. -/
theorem Draws.hasNote {n m : NoteId} (h : g.Draws n m) : g.hasNote n = true := by
  rcases h with h | h
  · exact hasNote_of_mem_parents (mem_parents_of_inheritsFrom h).2
  · obtain ⟨id, hid, -⟩ := mem_templateTargets.1 h
    exact hasNote_of_mem_owned hid

theorem inheritable_subset_all (depth : Nat) (path : List NoteId) (n : NoteId) :
    (g.gather depth path n).attributes.inheritable ⊆ (g.gather depth path n).attributes.all := by
  cases depth with
  | zero => exact fun _ h => h
  | succ depth =>
    rw [gather]
    split
    · split
      · exact fun _ h => h
      · exact List.filter_subset_self _
    · exact fun _ h => h

/-- If what is collected at the sources was owned by notes that they draw on, so are the attributes
gathered as a base from them. -/
theorem owner_of_mem_gatherBase {n : NoteId} {id : AttributeId}
    (hc : ∀ p ∈ g.inheritsFrom n, ∀ id ∈ (c p).attributes.inheritable,
      ∃ w, g.DrawsOn p w ∧ id ∈ g.owned w)
    (h : id ∈ (g.gatherBase c n).1) : ∃ w, g.DrawsOn n w ∧ id ∈ g.owned w := by
  rcases mem_gatherFrom.1 h with h | ⟨p, hp, hid, -⟩
  · exact ⟨n, .refl, by simpa [mem_addNew] using h⟩
  · obtain ⟨w, hw, hid⟩ := hc p hp id hid
    exact ⟨w, .head (Or.inl hp) hw, hid⟩

/-- A template relation that was owned by a note that `n` draws on leads to a note that `n` draws
on. -/
theorem drawsOn_of_templateTarget {n t : NoteId} {ids : List AttributeId}
    (hids : ∀ id ∈ ids, ∃ w, g.DrawsOn n w ∧ id ∈ g.owned w) (ht : t ∈ g.templateTargets ids) :
    Relation.TransGen g.Draws n t := by
  obtain ⟨id, hid, hto⟩ := mem_templateTargets.1 ht
  obtain ⟨w, hw, hown⟩ := hids id hid
  exact .tail' hw (Or.inr (mem_templateTargets.2 ⟨id, hown, hto⟩))

/-- **Whatever is collected at a note is owned by a note that it draws on.** -/
theorem owner_of_mem_gather : ∀ (depth : Nat) (path : List NoteId) (n : NoteId) (id : AttributeId),
    id ∈ (g.gather depth path n).attributes.all → ∃ w, g.DrawsOn n w ∧ id ∈ g.owned w := by
  intro depth
  induction depth with
  | zero => intro path n id h; exact absurd h (by simp [gather, Collected.cut])
  | succ depth ih =>
    intro path n id h
    rw [gather] at h
    split at h
    · split at h
      · exact absurd h (by simp [Collected.cut])
      · have hbase : ∀ id ∈ (g.gatherBase (g.gather depth (n :: path)) n).1,
            ∃ w, g.DrawsOn n w ∧ id ∈ g.owned w := fun id hid =>
          owner_of_mem_gatherBase (fun p _ id hid => ih _ p id (inheritable_subset_all _ _ _ hid))
            hid
        rcases mem_gatherFrom.1 h with h | ⟨t, ht, hid, -⟩
        · exact hbase id h
        · obtain ⟨w, hw, hown⟩ := ih _ t id hid
          exact ⟨w, (drawsOn_of_templateTarget hbase ht).to_reflTransGen.trans hw, hown⟩
    · exact absurd h (by simp [Collected.nothing])

/-- Whatever is gathered stands on a note that is drawn on. -/
theorem owner_of_mem_gatherBase_gather {depth : Nat} {path : List NoteId} {n : NoteId}
    {id : AttributeId} (h : id ∈ (g.gatherBase (g.gather depth path) n).1) :
    ∃ w, g.DrawsOn n w ∧ id ∈ g.owned w :=
  owner_of_mem_gatherBase
    (fun p _ id hid => owner_of_mem_gather _ _ p id (inheritable_subset_all _ _ _ hid)) h

/-! ## Depth -/

/-- There is room for the recursion: the path holds different notes, and the depth that is left
exceeds the number of the others. -/
structure Roomy (g : Graph) (depth : Nat) (path : List NoteId) : Prop where
  nodup : path.Nodup
  hasNote : ∀ q ∈ path, g.hasNote q = true
  noteCount_lt : g.noteCount < depth + path.length

/-- At the start there is room if the depth exceeds the number of notes. -/
theorem roomy_nil {d : Nat} (hd : g.noteCount < d) : g.Roomy d [] :=
  ⟨List.nodup_nil, by simp, by simpa using hd⟩

theorem Roomy.start (g : Graph) : g.Roomy (g.noteCount + 1) [] := roomy_nil (Nat.lt_succ_self _)

/-- A path of different notes is not longer than there are notes. -/
theorem length_le_noteCount {path : List NoteId} (hnd : path.Nodup)
    (h : ∀ q ∈ path, g.hasNote q = true) : path.length ≤ g.noteCount := by
  have hsub : path ⊆ g.notes.keys := fun q hq => Table.contains_iff.1 (h q hq)
  have := (hnd.subperm hsub).length_le
  rwa [Table.keys, List.length_map] at this

/-- As long as there is room the depth has not run out. -/
theorem Roomy.ne_zero {depth : Nat} {path : List NoteId} (h : g.Roomy depth path) :
    ∃ d, depth = d + 1 := by
  have := length_le_noteCount h.nodup h.hasNote
  have := h.noteCount_lt
  exact ⟨depth - 1, by omega⟩

theorem Roomy.cons {depth : Nat} {path : List NoteId} (h : g.Roomy (depth + 1) path) {n : NoteId}
    (hn : g.hasNote n = true) (hp : n ∉ path) : g.Roomy depth (n :: path) where
  nodup := List.nodup_cons.2 ⟨hp, h.nodup⟩
  hasNote := by
    intro q hq
    rcases List.mem_cons.1 hq with rfl | hq
    · exact hn
    · exact h.hasNote q hq
  noteCount_lt := by
    have := h.noteCount_lt
    rw [List.length_cons]
    omega

/-- **The depth has no bearing on the result, where there is room.** -/
theorem gather_eq_of_roomy : ∀ (d d' : Nat) (path : List NoteId) (n : NoteId), g.Roomy d path →
    g.Roomy d' path → g.gather d path n = g.gather d' path n := by
  intro d
  induction d with
  | zero => intro d' path n h; exact absurd h.ne_zero (by simp)
  | succ d ih =>
    intro d' path n h h'
    obtain ⟨d', rfl⟩ := h'.ne_zero
    by_cases hn : g.hasNote n = true
    · by_cases hp : n ∈ path
      · rw [gather_of_mem hn hp, gather_of_mem hn hp]
      · rw [gather_of_not_mem hn hp, gather_of_not_mem hn hp]
        have hsame : g.gather d (n :: path) = g.gather d' (n :: path) :=
          funext fun m => ih d' _ m (h.cons hn hp) (h'.cons hn hp)
        rw [hsame]
    · rw [Bool.not_eq_true] at hn
      rw [gather_of_not_hasNote hn, gather_of_not_hasNote hn]

end Zettel.Graph
