import Mathlib.Data.List.Induction
import Zettel.Proofs.Inheritance.LeastSolution
import Zettel.Proofs.Vault.Kept

/-!
# Reachable vaults

A vault starts empty or from a snapshot whose rows have different ids. It follows the store by
updates of one row at a time, and views are read in between.

Main statements: `Reachable.consistent`, the graph of a reachable vault is consistent, and
`Reachable.isLeast_attributeIds`, in a reachable vault the attributes of the notes are the least
solution of the equations of inheritance.
-/

namespace Zettel

/-! ## Updates -/

/-- A notification of the store about one row. -/
inductive Update
  | upsertNote (row : NoteRow)
  | deleteNote (n : NoteId)
  | upsertBranch (row : BranchRow)
  | deleteBranch (id : BranchId)
  | upsertAttribute (row : AttributeRow)
  | deleteAttribute (id : AttributeId)
  deriving DecidableEq, Repr

namespace Vault

/-- The vault after a notification. -/
def apply (v : Vault) : Update → Vault
  | .upsertNote row => v.upsertNote row
  | .deleteNote n => v.deleteNote n
  | .upsertBranch row => v.upsertBranch row
  | .deleteBranch id => v.deleteBranch id
  | .upsertAttribute row => v.upsertAttribute row
  | .deleteAttribute id => v.deleteAttribute id

/-- The vault after a view has been read. -/
def ask (v : Vault) (q : ViewQuery) : Vault := (v.read q.answer).2

end Vault

/-- No two rows of a kind have the same id. -/
structure Snapshot.HasDistinctIds (s : Snapshot) : Prop where
  notes : (s.notes.map NoteRow.id).Nodup
  branches : (s.branches.map BranchRow.id).Nodup
  attributes : (s.attributes.map AttributeRow.id).Nodup

namespace Vault

/-- The vaults that come about by loading, updates and reading. -/
inductive Reachable : Vault → Prop
  | empty : Reachable .empty
  | ofSnapshot {s : Snapshot} (h : s.HasDistinctIds) : Reachable (.ofSnapshot s)
  | apply {v : Vault} (h : Reachable v) (u : Update) : Reachable (v.apply u)
  | ask {v : Vault} (h : Reachable v) (q : ViewQuery) : Reachable (v.ask q)

end Vault

/-! ## Loading a snapshot -/

namespace Graph

/-- A graph of notes alone. -/
structure Bare (g : Graph) : Prop where
  edges : ∀ n, g.edges n = {}
  branches : g.branches = ∅
  attributes : g.attributes = ∅
  placements : g.placements = ∅
  index : g.index = ∅

theorem Bare.empty : Bare .empty := ⟨fun _ => rfl, rfl, rfl, rfl, rfl⟩

theorem Bare.putNote {g : Graph} (h : g.Bare) (row : NoteRow) : (Vault.putNote g row).Bare where
  edges n := by rw [edges_putNote, h.edges, ite_self]
  branches := h.branches
  attributes := h.attributes
  placements := h.placements
  index := h.index

variable {P : Graph → Prop} {distinct : Prop} {g : Graph}

/-- What one branch does not take away, many do not. Where they have distinct ids, the id of each is
free. -/
theorem foldl_addBranch_of (bs : List Branch) (hadd : ∀ (g : Graph) (b : Branch),
      (distinct → g.branches.get? b.id = none) → P g → P (g.addBranch b)) (h : P g)
    (hfree : distinct → (bs.map Branch.id).Nodup ∧ ∀ b ∈ bs, g.branches.get? b.id = none) :
    P (bs.foldl Graph.addBranch g) := by
  induction bs generalizing g with
  | nil => exact h
  | cons b bs ih =>
    refine ih (hadd g b (fun hd => (hfree hd).2 b List.mem_cons_self) h) fun hd => ?_
    obtain ⟨hnodup, hnew⟩ := hfree hd
    rw [List.map_cons, List.nodup_cons] at hnodup
    refine ⟨hnodup.2, fun b' hb' => ?_⟩
    rw [branches_addBranch, Table.get?_insert, if_neg]
    · exact hnew b' (List.mem_cons_of_mem _ hb')
    · exact fun heq => hnodup.1 (heq ▸ List.mem_map_of_mem hb')

/-- What one attribute does not take away, many do not. Where they have distinct ids, the id of each
is free. -/
theorem foldl_addAttribute_of (rows : List AttributeRow)
    (hattach : ∀ (g : Graph) (row : AttributeRow), g.hasNote row.owner = true →
      (distinct → g.attributes.get? row.id = none) → P g → P (g.attach (.ofRow row))) (h : P g)
    (hfree : distinct → (rows.map AttributeRow.id).Nodup ∧
      ∀ row ∈ rows, g.attributes.get? row.id = none) :
    P (rows.foldl (fun g row => (g.addAttribute? (.ofRow row)).getD g) g) := by
  induction rows generalizing g with
  | nil => exact h
  | cons row rows ih =>
    rw [List.foldl_cons, addAttribute?_eq]
    split_ifs with hn
    · refine ih (hattach g row hn (fun hd => (hfree hd).2 row List.mem_cons_self) h) fun hd => ?_
      obtain ⟨hnodup, hnew⟩ := hfree hd
      rw [List.map_cons, List.nodup_cons] at hnodup
      refine ⟨hnodup.2, fun row' hrow' => ?_⟩
      rw [Option.getD_some, attributes_attach, Table.get?_insert]
      refine (if_neg fun heq => hnodup.1 ?_).trans (hnew row' (List.mem_cons_of_mem _ hrow'))
      exact (show row'.id = row.id from heq) ▸ List.mem_map_of_mem hrow'
    · refine ih h fun hd => ?_
      obtain ⟨hnodup, hnew⟩ := hfree hd
      refine ⟨(List.nodup_cons.1 hnodup).2, fun row' hrow' => ?_⟩
      exact hnew row' (List.mem_cons_of_mem _ hrow')

end Graph

/-- **What notes alone have and no step of a load takes away, a loaded graph has.** The id of a
branch or an attribute is free as long as no two rows of the snapshot share one. -/
theorem Vault.ofSnapshot_induction {P : Graph → Prop} {s : Snapshot}
    (bare : ∀ g : Graph, g.Bare → P g)
    (addBranch : ∀ (g : Graph) (b : Branch), ((s.branches.map BranchRow.id).Nodup →
      g.branches.get? b.id = none) → P g → P (g.addBranch b))
    (attach : ∀ (g : Graph) (row : AttributeRow), g.hasNote row.owner = true →
      ((s.attributes.map AttributeRow.id).Nodup → g.attributes.get? row.id = none) → P g →
        P (g.attach (.ofRow row)))
    (sortChildren : ∀ (g : Graph) (n : NoteId), P g → P (g.sortChildren n))
    (resortParents : ∀ (g : Graph) (n : NoteId), P g → P (g.resortParents n))
    (loaded : ∀ g : Graph, P g → P { g with isLoaded := true }) : P (ofSnapshot s).graph := by
  have hnotes : (s.notes.foldl putNote .empty).Bare :=
    List.foldlRecOn s.notes putNote (motive := Graph.Bare) .empty fun _ h row _ => h.putNote row
  have hplaced := Graph.foldl_addBranch_of
    ((s.branches.filter fun row => !row.isDeleted).map Branch.ofRow) addBranch
    (bare _ hnotes) fun hs => by
      refine ⟨?_, fun b _ => by rw [hnotes.branches]; rfl⟩
      rw [List.map_map]
      exact hs.sublist (List.filter_sublist.map _)
  have hsorted : P (List.foldl Graph.sortChildren _ _) :=
    List.foldlRecOn (addNew [] (((s.branches.filter fun row => !row.isDeleted).map
      Branch.ofRow).map Branch.parent)) Graph.sortChildren hplaced fun g h n _ => sortChildren g n h
  have hattached := Graph.foldl_addAttribute_of s.attributes attach hsorted fun hs => by
    refine ⟨hs, fun row _ => ?_⟩
    rw [Graph.view_foldl Graph.attributes (fun _ _ => by rfl),
      Graph.view_foldl Graph.attributes (fun _ _ => by simp), hnotes.attributes]
    rfl
  refine loaded _ (List.foldlRecOn _ Graph.resortParents hattached ?_)
  exact fun g h n _ => resortParents g n h

/-! ## What every change keeps -/

/-- **What the changes of an update do not take away, no update takes away.** -/
theorem Graph.IsUpheld.apply {P : Graph → Prop} (hupheld : Graph.IsUpheld P) {v : Vault}
    (hg : v.graph.Keyed) (u : Update) (h : P v.graph) : P (v.apply u).graph := by
  cases u with
  | upsertNote row => exact hupheld.upsertNote hg row h
  | deleteNote n => exact hupheld.deleteNote hg n h
  | upsertBranch row => exact hupheld.upsertBranch hg row h
  | deleteBranch id => exact hupheld.deleteBranch hg id h
  | upsertAttribute row => exact hupheld.upsertAttribute hg row h
  | deleteAttribute id => exact hupheld.deleteAttribute hg id h

namespace Graph.IsKept

variable {P : Graph → Prop} (hkept : IsKept P) {v : Vault}
include hkept

/-- **What every change keeps, every update keeps.** -/
theorem apply (hg : v.graph.Consistent) (u : Update) (h : P v.graph) : P (v.apply u).graph :=
  (hkept.isUpheld.apply hg.keyed u ⟨hg, h⟩).2

theorem empty : P .empty := hkept.bare (fun _ => rfl) rfl rfl rfl

/-- **A snapshot without double ids is loaded by such changes.** -/
theorem ofSnapshot {s : Snapshot} (hs : s.HasDistinctIds) : P (Vault.ofSnapshot s).graph := by
  let Both (g : Graph) : Prop := g.Consistent ∧ P g
  have hboth : Both (Vault.ofSnapshot s).graph := by
    refine Vault.ofSnapshot_induction ?_ ?_ ?_ ?_ ?_ ?_
    · intro g hg
      exact ⟨isKept_consistent.bare hg.edges hg.branches hg.attributes hg.placements,
        hkept.bare hg.edges hg.branches hg.attributes hg.placements⟩
    · intro g b hfree h
      exact ⟨h.1.addBranch (hfree hs.branches), hkept.addBranch h.1 (hfree hs.branches) h.2⟩
    · intro g row hn hfree h
      exact ⟨h.1.attach hn (hfree hs.attributes), hkept.attach h.1 hn (hfree hs.attributes) h.2⟩
    · exact fun g n h => ⟨h.1.sortChildren n, hkept.sortChildren n h.2⟩
    · exact fun g n h => ⟨h.1.resortParents n, hkept.resortParents n h.2⟩
    · exact fun g h => ⟨isKept_consistent.loaded h.1, hkept.loaded h.2⟩
  exact hboth.2

end Graph.IsKept

namespace Vault

variable {v : Vault}

/-- **The graph of a reachable vault is consistent.** -/
theorem Reachable.consistent (h : v.Reachable) : v.graph.Consistent := by
  induction h with
  | empty => exact Graph.isKept_consistent.empty
  | ofSnapshot hs => exact Graph.isKept_consistent.ofSnapshot hs
  | apply _ u ih => exact Graph.isKept_consistent.apply ih u ih
  | ask _ _ ih => exact ih

/-- **What every change keeps holds of every reachable vault.** -/
theorem Reachable.of_isKept {P : Graph → Prop} (hkept : Graph.IsKept P) (h : v.Reachable) :
    P v.graph := by
  induction h with
  | empty => exact hkept.empty
  | ofSnapshot hs => exact hkept.ofSnapshot hs
  | apply h u ih => exact hkept.apply h.consistent u ih
  | ask _ _ ih => exact ih

theorem Reachable.foldl_apply (us : List Update) (h : v.Reachable) :
    (us.foldl Vault.apply v).Reachable := by
  induction us generalizing v with
  | nil => exact h
  | cons u us ih => exact ih (h.apply u)

/-- **In a run from the empty vault something holds all the time, exactly if no update takes it
away**, where `Q` says which updates do. -/
theorem run_iff {P : Vault → Prop} {Q : Vault → Update → Prop}
    (hstep : ∀ v : Vault, v.Reachable → P v → ∀ u, (P (v.apply u) ↔ ¬Q v u)) (hempty : P .empty)
    (us : List Update) : (∀ us', us' <+: us → P (us'.foldl Vault.apply .empty)) ↔
      ∀ us' u, us' ++ [u] <+: us → ¬Q (us'.foldl Vault.apply .empty) u := by
  have hlast : ∀ us' u, P (us'.foldl Vault.apply .empty) →
      (P ((us' ++ [u]).foldl Vault.apply .empty) ↔ ¬Q (us'.foldl Vault.apply .empty) u) := by
    intro us' u h
    rw [List.foldl_append]
    exact hstep _ (.foldl_apply us' .empty) h u
  constructor
  · intro hall us' u hprefix
    have hbefore := hall us' ((List.prefix_append us' [u]).trans hprefix)
    exact (hlast us' u hbefore).1 (hall _ hprefix)
  · intro hnone us' hprefix
    induction us' using List.reverseRecOn with
    | nil => exact hempty
    | append_singleton us' u ih =>
      have hbefore := ih ((List.prefix_append us' [u]).trans hprefix)
      exact (hlast us' u hbefore).2 (hnone us' u hprefix)

/-! ## The attributes of the notes -/

/-- **In a reachable vault the attributes of the notes are the least solution of the equations of
inheritance**, whatever cycles there are. -/
theorem Reachable.isLeast_attributeIds (h : v.Reachable) :
    IsLeast {all | v.graph.Solves all} fun n => {id | id ∈ (v.graph.attributeIds n ∅).1} := by
  have hread : ∀ n, (v.graph.attributeIds n ∅).1 = (v.graph.attributesAt n).all := fun n =>
    (v.graph.gives_attributeIds n).fst_empty
  simp only [hread]
  exact Graph.isLeast_attributesAt h.consistent.ownsKnown

/-- Two notes placed under each other; the upper one has the other for an inheritable template. -/
def mutualSnapshot : Snapshot where
  notes := [{ id := "a", title := "A" }, { id := "b", title := "B" }]
  branches := [{ id := "ab", child := "a", parent := "b" },
    { id := "ba", child := "b", parent := "a" }]
  attributes := [(AttributeRow.relation "t" "a" "template" "b").inheritable,
    AttributeRow.label "l" "b" "tag" ""]

theorem isLeast_attributeIds_mutualSnapshot : mutualSnapshot.HasDistinctIds ∧
    (ofSnapshot mutualSnapshot).Reachable ∧
    IsLeast {all | (ofSnapshot mutualSnapshot).graph.Solves all}
      fun n => {id | id ∈ ((ofSnapshot mutualSnapshot).graph.attributeIds n ∅).1} :=
  have hdistinct : mutualSnapshot.HasDistinctIds := by constructor <;> decide
  ⟨hdistinct, .ofSnapshot hdistinct, (Reachable.ofSnapshot hdistinct).isLeast_attributeIds⟩

example : ((ofSnapshot mutualSnapshot).graph.attributeIds "a" ∅).1 = ["t", "l"] := by
  decide +kernel

end Vault

end Zettel
