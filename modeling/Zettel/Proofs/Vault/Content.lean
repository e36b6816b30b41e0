import Mathlib.Data.List.Sort
import Zettel.Proofs.Vault.Filed
import Zettel.Proofs.Vault.Order

/-!
# What the tables determine

The notes, branches and attributes that are stored determine the rest of a graph, as long as no two
branches are between the same notes: which notes are joined, which branch is found between them, and
where each attribute is listed. What is left open is the order of lists, and of children only that
of those with the same position.

Main statement: `Tidy.sameContent`.
-/

namespace Zettel.Graph

variable {g g' : Graph} {b : Branch} {n c p : NoteId}

theorem hasNote_eq_isSome_bare? (g : Graph) (n : NoteId) : g.hasNote n = (g.bare? n).isSome := by
  rw [bare?, Option.isSome_map, hasNote, Table.contains]

/-- Both graphs store the same notes, branches and attributes. -/
structure SameTables (g g' : Graph) : Prop where
  notes : ∀ n, g.bare? n = g'.bare? n
  branches : ∀ id, g.branches.get? id = g'.branches.get? id
  attributes : ∀ id, g.attributes.get? id = g'.attributes.get? id

/-- Both graphs read the same, up to the order in which notes, branches and attributes are listed.
Children may change places only with children of the same position. -/
structure SameContent (g g' : Graph) : Prop extends SameTables g g' where
  parents : ∀ n, (g.parents n).Perm (g'.parents n)
  children : ∀ n, (g.children n).Perm (g'.children n)
  positions : ∀ n, (g.children n).map (g.positionUnder n) =
    (g'.children n).map (g'.positionUnder n)
  parentBranches : ∀ n, (g.parentBranches n).Perm (g'.parentBranches n)
  between : ∀ c p, g.branchBetween? c p = g'.branchBetween? c p
  owned : ∀ n, (g.owned n).Perm (g'.owned n)
  incoming : ∀ n, (g.incoming n).Perm (g'.incoming n)
  found : ∀ kind name, (g.findAttributes kind name).Perm (g'.findAttributes kind name)

/-- No two stored branches are between the same notes. -/
def Untwinned (g : Graph) : Prop := ∀ ⦃id id' b b'⦄, g.branches.get? id = some b →
  g.branches.get? id' = some b' → b.child = b'.child → b.parent = b'.parent → id = id'

/-- Edges, look-ups and lists are what the stored notes, branches and attributes call for. -/
structure Tidy (g : Graph) : Prop where
  consistent : g.Consistent
  placesKnown : g.PlacesKnown
  edgesFollow : g.EdgesFollow
  untwinned : g.Untwinned
  notedOnce : g.NotedOnce
  inOrder : g.InOrder
  filed : g.Filed

theorem SameTables.hasNote (h : g.SameTables g') (n : NoteId) : g.hasNote n = g'.hasNote n := by
  rw [hasNote_eq_isSome_bare?, hasNote_eq_isSome_bare?, h.notes]

/-! ## Branches -/

namespace Tidy

/-- A note lies below another one exactly if a stored branch could join them. -/
theorem mem_parents_iff (h : g.Tidy) : p ∈ g.parents c ↔
    ∃ id b, g.branches.get? id = some b ∧ g.Joinable b ∧ b.child = c ∧ b.parent = p := by
  constructor
  · intro hp
    obtain ⟨id, b, hb, rfl, rfl⟩ := h.consistent.placement_stored hp
    refine ⟨id, b, hb, ⟨h.consistent.child_ne_root hp, hasNote_of_mem_parents hp, ?_⟩, rfl, rfl⟩
    exact h.consistent.parent_known hp
  · rintro ⟨id, b, hb, hj, rfl, rfl⟩
    exact h.consistent.edgesFollow_iff.1 h.edgesFollow id b hb hj

/-- A branch is found between two notes exactly if it is stored and could join them. -/
theorem branchBetween?_eq_some_iff (h : g.Tidy) : g.branchBetween? c p = some b ↔
    ∃ id, g.branches.get? id = some b ∧ g.Joinable b ∧ b.child = c ∧ b.parent = p := by
  rw [branchBetween?, Option.bind_eq_some_iff]
  constructor
  · rintro ⟨id, hid, hb⟩
    obtain ⟨b', hb', hends⟩ := h.consistent.placed hid
    obtain rfl := Option.some.inj (hb.symm.trans hb')
    obtain ⟨rfl, rfl⟩ := hends
    exact ⟨id, hb, h.placesKnown (by rw [Table.contains, hid]; rfl), rfl, rfl⟩
  · rintro ⟨id, hb, hj, rfl, rfl⟩
    have hplaced := h.consistent.parent_placed (h.mem_parents_iff.2 ⟨id, b, hb, hj, rfl, rfl⟩)
    rw [Table.contains, Option.isSome_iff_exists] at hplaced
    obtain ⟨id', hid'⟩ := hplaced
    obtain ⟨b', hb', hc, hp⟩ := h.consistent.placed hid'
    obtain rfl := h.untwinned hb' hb hc hp
    exact ⟨id', hid', hb⟩

end Tidy

section SameTables

variable (h : g.Tidy) (h' : g'.Tidy) (htables : g.SameTables g')
include h h' htables

theorem SameTables.parents_perm (n : NoteId) : (g.parents n).Perm (g'.parents n) := by
  rw [List.perm_ext_iff_of_nodup (h.consistent.nodup_parents n) (h'.consistent.nodup_parents n)]
  intro p
  simp only [h.mem_parents_iff, h'.mem_parents_iff, Joinable, htables.branches, htables.hasNote]

theorem SameTables.children_perm (n : NoteId) : (g.children n).Perm (g'.children n) := by
  rw [List.perm_ext_iff_of_nodup (h.consistent.nodup_children n) (h'.consistent.nodup_children n)]
  intro c
  rw [h.consistent.mirror, h'.consistent.mirror]
  exact (htables.parents_perm h h' c).mem_iff

theorem SameTables.branchBetween?_eq (c p : NoteId) :
    g.branchBetween? c p = g'.branchBetween? c p := by
  refine Option.ext fun b => ?_
  rw [h.branchBetween?_eq_some_iff, h'.branchBetween?_eq_some_iff]
  simp only [Joinable, htables.branches, htables.hasNote]

/-- The same children, each with the same position, stand in order in both graphs. -/
theorem SameTables.positions_eq (n : NoteId) : (g.children n).map (g.positionUnder n) =
    (g'.children n).map (g'.positionUnder n) := by
  have hposition : g'.positionUnder n = g.positionUnder n := funext fun c =>
    positionUnder_congr (htables.branchBetween?_eq h h' c n).symm
  have hsorted := h'.inOrder n
  rw [hposition] at hsorted ⊢
  exact ((htables.children_perm h h' n).map _).eq_of_pairwise'
    (List.pairwise_map.2 (h.inOrder n)) (List.pairwise_map.2 hsorted)

theorem SameTables.parentBranches_perm (n : NoteId) :
    (g.parentBranches n).Perm (g'.parentBranches n) := by
  rw [List.perm_ext_iff_of_nodup (h.notedOnce n) (h'.notedOnce n)]
  intro id
  rw [h.consistent.mem_parentBranches_iff, h'.consistent.mem_parentBranches_iff, htables.hasNote,
    htables.branches]

end SameTables

/-! ## Attributes -/

/-- Lists of the same attributes have the same ids. -/
theorem SameTables.lists_perm (htables : g.SameTables g') {ids ids' : List AttributeId}
    {passes : Attribute → Prop} (h : g.Lists ids passes) (h' : g'.Lists ids' passes) :
    ids.Perm ids' := by
  rw [List.perm_ext_iff_of_nodup h.nodup h'.nodup]
  intro id
  rw [h.mem_iff, h'.mem_iff, htables.attributes]

theorem SameTables.incoming_perm (htables : g.SameTables g') (h : g.Filed) (h' : g'.Filed)
    (n : NoteId) : (g.incoming n).Perm (g'.incoming n) := by
  by_cases hn : g.hasNote n = true
  · exact htables.lists_perm (h.incoming n hn) (h'.incoming n (htables.hasNote n ▸ hn))
  · have hn' : ¬g'.hasNote n = true := by rwa [← htables.hasNote]
    rw [incoming, incoming, edges_of_unknown hn, edges_of_unknown hn']

/-- **What is stored determines the rest of a tidy graph.** -/
theorem Tidy.sameContent (h : g.Tidy) (h' : g'.Tidy) (htables : g.SameTables g') :
    g.SameContent g' where
  toSameTables := htables
  parents := htables.parents_perm h h'
  children := htables.children_perm h h'
  positions := htables.positions_eq h h'
  parentBranches := htables.parentBranches_perm h h'
  between := htables.branchBetween?_eq h h'
  owned n := htables.lists_perm (h.filed.owned n) (h'.filed.owned n)
  incoming := htables.incoming_perm h.filed h'.filed
  found kind name := htables.lists_perm (h.filed.listed (kind, Text.lowercase name))
    (h'.filed.listed (kind, Text.lowercase name))

end Zettel.Graph
