import Zettel.Proofs.Graph.ShortestPath
import Zettel.Proofs.Query.Lexing
import Zettel.Proofs.Search.Hoisting
import Zettel.Proofs.Search.Narrowing

/-!
# The list of results

Of the notes that satisfy an expression, a search shows those that lie below the note that it is
confined to, if this one lies below the root note. Each of them is shown once, however many places
it has in the tree, and under a path along the edges. If the query orders nothing, results on short
paths come first, and the titles decide between equally short ones.

Main statements: `pairwise_precedes`, results are put in the order of their paths and titles, and
`Reachable.search_shows`, which results a search has, and in which order.
-/

namespace Zettel

/-! ## Places below a note -/

namespace Graph

/-- Edges lead from the note `top` down to `n`. -/
def LiesBelow (g : Graph) (n top : NoteId) : Prop :=
  g.hasNote top = true ∧ Relation.ReflTransGen (fun p c => c ∈ g.children p) top n

theorem Linked.mem_subtree_iff_liesBelow {g : Graph} (hg : g.Linked) {n top : NoteId} :
    n ∈ g.subtree top ↔ g.LiesBelow n top := by
  have hstep : StepsTo g.hasNote g.children = fun p c => c ∈ g.children p := by
    funext p c
    exact propext (and_iff_left_of_imp fun hc => hasNote_of_mem_parents (hg.mirror.1 hc))
  rw [subtree, mem_walkDown_iff, LiesBelow, hstep]

end Graph

/-! ## Blank queries -/

theorem Query.expression_of_isBlankText (o : ReadOptions) {query : String}
    (h : Text.isBlankText query = true) : (read o query).expression = none := by
  rw [expression_read_of_words o (by rw [lex_of_isBlankText h]), lex_of_isBlankText h]
  rfl

namespace Search

open Query

/-! ## Sets whose order was not asked for -/

section Sorted

variable {scope : Scope} {memo : Memo} {e : Expression} {s found : NoteSet}

theorem sorted_addIds (s : NoteSet) (ns : List NoteId) : (s.addIds ns).sorted = s.sorted :=
  List.foldlRecOn ns _ (motive := fun t => NoteSet.sorted t = s.sorted) rfl fun t ht n _ => by
    rw [← ht, NoteSet.add]
    split <;> rfl

theorem sorted_ofIds (ns : List NoteId) : (NoteSet.ofIds ns).sorted = false :=
  sorted_addIds .empty ns

theorem isRespected_unsorted :
    IsRespected fun s found => s.sorted = false → found.sorted = false where
  refl _ := id
  trans hst htu hs := htu (hst hs)
  filter _ _ _ := sorted_ofIds _
  empty _ _ := rfl
  addAll ht _ hs := (sorted_addIds _ _).trans (ht hs)
  truncate _ _ := id

/-- Only an order in the expression makes its outcome one whose order was asked for. -/
theorem sorted_of_outcome (he : e.hasOrder = false) (hs : s.sorted = false)
    (hfound : outcome scope memo e s = .ok found) : found.sorted = false :=
  isRespected_unsorted.of_outcome (Or.inl he) hfound hs

end Sorted

/-! ## The order of results -/

/-- A result that may come after another one has a longer path or, if the paths are equally long, a
title that is not less. -/
def Result.InOrder (r s : Result) : Prop :=
  r.path.length < s.path.length ∨ r.path.length = s.path.length ∧ r.title ≤ s.title

theorem Result.precedes_eq_false_iff {r s : Result} : s.precedes r = false ↔ r.InOrder s := by
  rw [precedes, InOrder, Bool.or_eq_false_iff, Bool.and_eq_false_iff, decide_eq_false_iff_not,
    decide_eq_false_iff_not, decide_eq_false_iff_not, String.not_lt]
  constructor
  · rintro ⟨hle, hne | htitle⟩
    · exact Or.inl (by omega)
    · rcases Nat.lt_or_eq_of_le (Nat.le_of_not_lt hle) with hlt | heq
      · exact Or.inl hlt
      · exact Or.inr ⟨heq, htitle⟩
  · rintro (hlt | ⟨heq, htitle⟩)
    · exact ⟨by omega, Or.inl (by omega)⟩
    · exact ⟨by omega, Or.inr htitle⟩

theorem Result.InOrder.trans {r s t : Result} (h : r.InOrder s) (h' : s.InOrder t) :
    r.InOrder t := by
  rcases h with hlt | ⟨heq, htitle⟩
  · rcases h' with hlt' | ⟨heq', -⟩
    · exact Or.inl (hlt.trans hlt')
    · exact Or.inl (heq' ▸ hlt)
  · rcases h' with hlt' | ⟨heq', htitle'⟩
    · exact Or.inl (heq ▸ hlt')
    · exact Or.inr ⟨heq.trans heq', String.le_trans htitle htitle'⟩

theorem Result.inOrder_of_precedes {r s : Result} (h : r.precedes s = true) : r.InOrder s := by
  rw [precedes, Bool.or_eq_true, Bool.and_eq_true, decide_eq_true_eq, decide_eq_true_eq,
    decide_eq_true_eq] at h
  exact h.imp id fun ⟨heq, htitle⟩ => ⟨heq, String.not_lt.1 (String.lt_asymm htitle)⟩

/-- **Results are put in the order of their paths and titles.** -/
theorem pairwise_precedes (results : List Result) :
    (sortBy Result.precedes results).Pairwise Result.InOrder := by
  refine (pairwise_sortBy (fun r s t hrs hst => ?_) (fun r s hrs => ?_) results).imp
    Result.precedes_eq_false_iff.1
  · rw [Result.precedes_eq_false_iff] at hrs hst ⊢
    exact hrs.trans hst
  · exact Result.precedes_eq_false_iff.2 (Result.inOrder_of_precedes hrs)

/-! ## The results for the notes that were found -/

/-- What the list of results shows of the notes `ns` that were found. -/
structure Shows (g : Graph) (hoisted : NoteId) (ns : List NoteId) (results : List Result) :
    Prop where
  /-- No note is shown twice. -/
  once : (results.map Result.noteId).Nodup
  /-- The notes below the one asked for are shown, if this one lies below the root note. -/
  mem_iff : ∀ n, n ∈ results.map Result.noteId ↔
    n ∈ ns ∧ g.LiesBelow n hoisted ∧ g.LiesBelow hoisted rootId
  /-- A path leads from the root note down to the one that is shown. -/
  leadsDown : ∀ r ∈ results, g.LeadsDown rootId r.noteId r.path
  /-- It passes through the note asked for. -/
  through : ∀ r ∈ results, hoisted ∈ r.path
  title : ∀ r ∈ results, r.title = g.pathTitle r.path hoisted
  ordered : results.Pairwise Result.InOrder

section Results

variable {g : Graph} {n hoisted : NoteId} {r : Result} {found : NoteSet}

/-- The result for a note is shown under a path that leads down to it from the root note. -/
theorem leadsDown_of_resultOf? (hg : g.Linked) (hnote : g.hasNote hoisted = true)
    (hr : resultOf? g hoisted n = some r) :
    g.LeadsDown rootId r.noteId r.path ∧ hoisted ∈ r.path ∧
      r.title = g.pathTitle r.path hoisted := by
  rw [noteId_of_resultOf? hnote hr]
  rw [resultOf?_eq hnote] at hr
  obtain ⟨path, hpath, rfl⟩ := Option.map_eq_some_iff.1 hr
  obtain ⟨hfirst, hmem, hway⟩ := Graph.isWay_of_somePath hnote hpath
  exact ⟨hg.leadsDown_iff.2 ⟨hfirst, hway⟩, hmem, rfl⟩

/-- The notes with a result, in the order in which they were found. -/
theorem map_noteId_filterMap (hnote : g.hasNote hoisted = true) (ns : List NoteId) :
    (ns.filterMap (resultOf? g hoisted)).map Result.noteId =
      ns.filter fun n => (resultOf? g hoisted n).isSome := by
  rw [List.map_filterMap, ← List.filterMap_eq_filter]
  refine List.filterMap_congr fun n _ => ?_
  cases hr : resultOf? g hoisted n with
  | none => simp [Option.guard, hr]
  | some r => simp [Option.guard, hr, noteId_of_resultOf? hnote hr]

theorem ranked_of_not_sorted (hsorted : found.sorted = false) : ranked g hoisted found =
    sortBy Result.precedes (found.ids.filterMap (resultOf? g hoisted)) :=
  if_neg (by simp [hsorted])

theorem shows_ranked_of_hasNote (hg : g.Linked) (hnote : g.hasNote hoisted = true)
    (hsorted : found.sorted = false) (hfound : found.ids.Nodup) :
    Shows g hoisted found.ids (ranked g hoisted found) := by
  have hresult : ∀ r ∈ ranked g hoisted found, g.LeadsDown rootId r.noteId r.path ∧
      hoisted ∈ r.path ∧ r.title = g.pathTitle r.path hoisted := fun r hr => by
    obtain ⟨n, -, hr⟩ := mem_ranked.1 hr
    exact leadsDown_of_resultOf? hg hnote hr
  refine
    { once := ?_, mem_iff := fun n => ?_, leadsDown := fun r hr => (hresult r hr).1,
      through := fun r hr => (hresult r hr).2.1, title := fun r hr => (hresult r hr).2.2,
      ordered := ?_ }
  · rw [ranked_of_not_sorted hsorted, ((sortBy_perm _ _).map Result.noteId).nodup_iff,
      map_noteId_filterMap hnote]
    exact hfound.filter _
  · rw [← hg.mem_subtree_iff_liesBelow, ← hg.mem_subtree_iff_liesBelow]
    exact mem_noteIds_ranked hg hnote
  · rw [ranked_of_not_sorted hsorted]
    exact pairwise_precedes _

/-- Without a root note there are no paths, and nothing is shown. -/
theorem shows_ranked_of_no_root (hg : g.Linked) (hroot : g.hasNote rootId = false) :
    Shows g rootId found.ids (ranked g rootId found) := by
  have hnone : ranked g rootId found = [] := by
    refine List.eq_nil_iff_forall_not_mem.2 fun r hr => ?_
    obtain ⟨n, -, hr⟩ := mem_ranked.1 hr
    obtain ⟨path, hpath, -⟩ := Option.bind_eq_some_iff.1 hr
    rw [Graph.somePath, if_pos (by simp)] at hpath
    have hsome := hg.isSome_pathUpTo_iff.1 (Option.isSome_iff_exists.2 ⟨path, hpath⟩)
    rw [(Graph.mem_walkDown_iff.1 hsome).1] at hroot
    cases hroot
  rw [hnone]
  refine ⟨List.nodup_nil, fun n => iff_of_false (by simp) fun h => ?_, by simp, by simp, by simp,
    .nil⟩
  rw [h.2.2.1] at hroot
  cases hroot

theorem effectiveHoisted_cases (g : Graph) (hoisted : NoteId) :
    g.hasNote (effectiveHoisted g hoisted) = true ∨
      effectiveHoisted g hoisted = rootId ∧ g.hasNote rootId = false := by
  rw [effectiveHoisted]
  split_ifs with hnote
  · exact Or.inl hnote
  · cases hroot : g.hasNote rootId with
    | true => exact Or.inl rfl
    | false => exact Or.inr ⟨rfl, rfl⟩

theorem shows_ranked (hg : g.Linked) (hsorted : found.sorted = false) (hfound : found.ids.Nodup) :
    Shows g (effectiveHoisted g hoisted) found.ids
      (ranked g (effectiveHoisted g hoisted) found) := by
  rcases effectiveHoisted_cases g hoisted with hnote | ⟨heq, hroot⟩
  · exact shows_ranked_of_hasNote hg hnote hsorted hfound
  · rw [heq]
    exact shows_ranked_of_no_root hg hroot

/-- A note is found once. -/
theorem nodup_of_outcome {scope : Scope} {memo : Memo} {e : Expression} {s : NoteSet}
    (he : e.hasLimit = false) (hs : s.InStep) (hfound : outcome scope memo e s = .ok found) :
    found.ids.Nodup := by
  rcases isPointwise_outcome scope memo e he with ⟨err, herr⟩ | ⟨p, hp⟩
  · rcases herr s hs with h | h <;> exact absurd (hfound.symm.trans h) (by simp)
  · rcases hp s hs with h | ⟨found', h, hfound', -⟩
    · exact absurd (hfound.symm.trans h) (by simp)
    · exact Except.ok.inj (hfound.symm.trans h) ▸ hfound'.nodup

end Results

end Search

namespace Vault

open Search Query

variable {v : Vault}

/-- **A search shows each note once that satisfies the expression and lies below the note asked
for**, under a path that leads down to it, and in the order of these paths. -/
theorem Reachable.search_shows (hv : v.Reachable) (sources : ContentSources) {m m' : Memo}
    (hm : Remembered ⟨v.graph, sources⟩ v.memo m) (hm' : Remembered ⟨v.graph, sources⟩ v.memo m')
    {query : String} {o : Options} {e : Expression}
    (he : (Query.read o.reading query).expression = some e) (horder : e.hasOrder = false)
    (hlimit : e.hasLimit = false) (hall : o.limit = none) {found : NoteSet}
    (hfound : ((evaluate ⟨v.graph, sources⟩ e (searchedNotes v.graph
      (effectiveHoisted v.graph o.hoisted))).run m').1 = .ok found) :
    ∃ x, ((search ⟨v.graph, sources⟩ query o).run m).1 = .ok x ∧
      Shows v.graph (effectiveHoisted v.graph o.hoisted) found.ids x.results := by
  rw [hm'.evaluate_eq] at hfound
  -- a blank query has no expression
  have hblank : Text.isBlankText query = false := by
    rw [← Bool.not_eq_true]
    intro hblank
    rw [expression_of_isBlankText _ hblank] at he
    cases he
  have hresults : resultsFor ⟨v.graph, sources⟩ e o found =
      ranked v.graph (effectiveHoisted v.graph o.hoisted) found := by
    rw [resultsFor, e.unorderedLimit?_of_hasLimit hlimit, hall]
    rfl
  have hsearch := hm.search_eq (o := o) hblank he
  rw [searched, hfound] at hsearch
  refine ⟨_, hsearch, ?_⟩
  simp only [hresults]
  exact shows_ranked hv.consistent.toLinked (sorted_of_outcome horder (sorted_ofIds _) hfound)
    (nodup_of_outcome hlimit (NoteSet.inStep_ofIds _) hfound)

theorem search_shows_partsVault : ∃ found x,
    ((evaluate ⟨partsVault.graph, {}⟩ wordOccurs (searchedNotes partsVault.graph
      (effectiveHoisted partsVault.graph "a"))).run partsVault.memo).1 = .ok found ∧
    ((search ⟨partsVault.graph, {}⟩ "x" { hoisted := "a" }).run partsVault.memo).1 = .ok x ∧
    found.ids = ["a", "b"] ∧ Shows partsVault.graph "a" ["a", "b"] x.results := by
  have hv : partsVault.Reachable := .ofSnapshot ⟨by decide, by decide, by decide⟩
  have hhoisted : effectiveHoisted partsVault.graph "a" = "a" := by decide +kernel
  have hids : ((evaluate ⟨partsVault.graph, {}⟩ wordOccurs (searchedNotes partsVault.graph
      (effectiveHoisted partsVault.graph "a"))).run partsVault.memo).1.map NoteSet.ids =
      .ok ["a", "b"] := by decide +kernel
  cases hfound : ((evaluate ⟨partsVault.graph, {}⟩ wordOccurs (searchedNotes partsVault.graph
      (effectiveHoisted partsVault.graph "a"))).run partsVault.memo).1 with
  | error failure =>
    rw [hfound] at hids
    cases hids
  | ok found =>
    rw [hfound] at hids
    have heq : found.ids = ["a", "b"] := Except.ok.inj hids
    obtain ⟨x, hx, hshows⟩ := hv.search_shows {} (o := { hoisted := "a" }) .start .start
      read_wordOccurs rfl rfl rfl hfound
    rw [hhoisted, heq] at hshows
    exact ⟨found, x, rfl, hx, heq, hshows⟩

end Vault

end Zettel
