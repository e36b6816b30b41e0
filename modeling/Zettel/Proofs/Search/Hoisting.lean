import Zettel.Proofs.Graph.Path
import Zettel.Proofs.Search.Results
import Zettel.Proofs.Vault.Reachable

/-!
# Searches below a note

A search that is confined to the notes below one of them evaluates the expression for fewer notes,
and looks up their paths in two parts. Neither shows: an expression without an order or a limit
decides for each note alone, and a path leads to exactly the notes of a subtree. So a note is found
if it satisfies the expression, lies below the note asked for, and this one lies below the root
note.

Main statements: `Remembered.exists_search_of_outcome`, the notes that a search finds, and
`Reachable.search_hoisted`, a search below a note finds what the whole search finds there.
-/

namespace Zettel

namespace Search

open Query

/-- The notes that were found. -/
def Outcome.noteIds (x : Outcome) : List NoteId := x.results.map Result.noteId

/-! ## The notes with a result -/

section Results

variable {g : Graph} {n hoisted : NoteId} {r : Result} {found : NoteSet}

theorem resultOf?_eq (hnote : g.hasNote hoisted = true) (n : NoteId) : resultOf? g hoisted n =
    (g.somePath n hoisted).map fun path => { path, title := g.pathTitle path hoisted } := by
  rw [resultOf?]
  cases hpath : g.somePath n hoisted with
  | none => rfl
  | some path =>
    obtain ⟨-, hmem, -⟩ := Graph.isWay_of_somePath hnote hpath
    exact if_pos (List.contains_iff_mem.2 hmem)

theorem noteId_of_resultOf? (hnote : g.hasNote hoisted = true)
    (hr : resultOf? g hoisted n = some r) : r.noteId = n := by
  rw [resultOf?_eq hnote] at hr
  obtain ⟨path, hpath, rfl⟩ := Option.map_eq_some_iff.1 hr
  obtain ⟨-, -, hway⟩ := Graph.isWay_of_somePath hnote hpath
  rw [Result.noteId, List.getLastD_eq_getLast?, hway.last]
  rfl

/-- The notes that were found are those among the members that lie below the note asked for. -/
theorem mem_noteIds_ranked (hg : g.Linked) (hnote : g.hasNote hoisted = true) :
    n ∈ (ranked g hoisted found).map Result.noteId ↔
      n ∈ found.ids ∧ n ∈ g.subtree hoisted ∧ hoisted ∈ g.subtree rootId := by
  rw [List.mem_map]
  constructor
  · rintro ⟨r, hr, rfl⟩
    obtain ⟨n, hn, hr⟩ := mem_ranked.1 hr
    rw [noteId_of_resultOf? hnote hr]
    refine ⟨hn, (hg.isSome_somePath_iff hnote).1 ?_⟩
    rw [← Option.isSome_map, ← resultOf?_eq hnote, hr]
    rfl
  · rintro ⟨hn, hbelow⟩
    obtain ⟨path, hpath⟩ := Option.isSome_iff_exists.1 ((hg.isSome_somePath_iff hnote).2 hbelow)
    have hr := resultOf?_eq hnote n
    rw [hpath, Option.map_some] at hr
    exact ⟨_, mem_ranked.2 ⟨n, hn, hr⟩, noteId_of_resultOf? hnote hr⟩

/-- The notes below the one asked for are all searched. -/
theorem mem_searchedNotes (hn : n ∈ g.subtree hoisted) : n ∈ (searchedNotes g hoisted).ids := by
  rw [searchedNotes, NoteSet.mem_ofIds]
  split_ifs
  · exact mem_sortBy.2 (Table.contains_iff.1 (Graph.hasNote_of_mem_walkDown hn))
  · exact hn

end Results

/-! ## Searches -/

section Searches

variable {scope : Scope} {memo m : Memo} {o : Options} {e : Expression} {query : String}
  {hoisted n : NoteId} {p : NoteId → Prop}

theorem mem_noteIds_resultsFor (hg : scope.graph.Linked)
    (hnote : scope.graph.hasNote hoisted = true) (hlimit : e.hasLimit = false) (found : NoteSet) :
    n ∈ (resultsFor scope e { o with hoisted := hoisted, limit := none } found).map Result.noteId ↔
      n ∈ found.ids ∧ n ∈ scope.graph.subtree hoisted ∧ hoisted ∈ scope.graph.subtree rootId := by
  rw [resultsFor, e.unorderedLimit?_of_hasLimit hlimit, effectiveHoisted, if_pos hnote]
  exact mem_noteIds_ranked hg hnote

/-- A search without limits finds the notes below the one asked for that its expression finds. -/
theorem Remembered.exists_search_of_outcome (hm : Remembered scope memo m)
    (hg : scope.graph.Linked) (hnote : scope.graph.hasNote hoisted = true)
    (hlimit : e.hasLimit = false) (hblank : Text.isBlankText query = false)
    (he : (Query.read o.reading query).expression = some e) {found : NoteSet}
    (hfound : outcome scope memo e (searchedNotes scope.graph hoisted) = .ok found) :
    ∃ x, ((search scope query { o with hoisted := hoisted, limit := none }).run m).1 = .ok x ∧
      ∀ n, n ∈ x.noteIds ↔
        n ∈ found.ids ∧ n ∈ scope.graph.subtree hoisted ∧
          hoisted ∈ scope.graph.subtree rootId := by
  have hsearched : searched scope { o with hoisted := hoisted, limit := none } =
      searchedNotes scope.graph hoisted := by
    rw [searched, effectiveHoisted, if_pos hnote]
  have hsearch := hm.search_eq (o := { o with hoisted := hoisted, limit := none }) hblank he
  rw [hsearched, hfound] at hsearch
  exact ⟨_, hsearch, fun n => mem_noteIds_resultsFor hg hnote hlimit found⟩

/-- If the expression is the condition `p` on single notes, a search finds the notes below the one
asked for that satisfy it. -/
theorem Remembered.exists_search_eq (hm : Remembered scope memo m) (hg : scope.graph.Linked)
    (hnote : scope.graph.hasNote hoisted = true) (hlimit : e.hasLimit = false)
    (hblank : Text.isBlankText query = false)
    (he : (Query.read o.reading query).expression = some e)
    (hp : ∀ s : NoteSet, s.InStep → ∃ found, outcome scope memo e s = .ok found ∧ found.InStep ∧
      ∀ n, n ∈ found.ids ↔ n ∈ s.ids ∧ p n) :
    ∃ x, ((search scope query { o with hoisted := hoisted, limit := none }).run m).1 = .ok x ∧
      ∀ n, n ∈ x.noteIds ↔
        p n ∧ n ∈ scope.graph.subtree hoisted ∧ hoisted ∈ scope.graph.subtree rootId := by
  obtain ⟨found, hfound, -, hmem⟩ := hp (searchedNotes scope.graph hoisted) (NoteSet.inStep_ofIds _)
  obtain ⟨x, hx, hids⟩ := hm.exists_search_of_outcome hg hnote hlimit hblank he hfound
  refine ⟨x, hx, fun n => (hids n).trans ?_⟩
  rw [hmem, and_assoc]
  exact and_iff_right_of_imp fun h => mem_searchedNotes h.2.1

end Searches

end Search

namespace Vault

open Search Query

variable {v : Vault}

/-- **A search below a note finds what the whole search finds there**, and both fail with the same
error. -/
theorem Reachable.search_hoisted (hv : v.Reachable) (sources : ContentSources) {m m' : Memo}
    (hm : Remembered ⟨v.graph, sources⟩ v.memo m) (hm' : Remembered ⟨v.graph, sources⟩ v.memo m')
    {query : String} {o : Options} {e : Expression}
    (he : (Query.read o.reading query).expression = some e) (horder : e.hasOrder = false)
    (hlimit : e.hasLimit = false) {hoisted : NoteId} (hh : hoisted ∈ v.graph.subtree rootId) :
    let whole := (search ⟨v.graph, sources⟩ query
      { o with hoisted := rootId, limit := none }).run m
    let below := (search ⟨v.graph, sources⟩ query
      { o with hoisted := hoisted, limit := none }).run m'
    (∃ err, whole.1 = .error (.error err) ∧ below.1 = .error (.error err)) ∨
    ∃ all part, whole.1 = .ok all ∧ below.1 = .ok part ∧
      ∀ n, n ∈ part.noteIds ↔ n ∈ all.noteIds ∧ n ∈ v.graph.subtree hoisted := by
  intro whole below
  have hg := hv.consistent.toLinked
  have hroot : v.graph.hasNote rootId = true := (Graph.mem_walkDown_iff.1 hh).1
  have hself : rootId ∈ v.graph.subtree rootId := Graph.self_mem_walkDown hroot
  have hnote : v.graph.hasNote hoisted = true := Graph.hasNote_of_mem_walkDown hh
  have hdecides : DecidesEach ⟨v.graph, sources⟩ v.memo e :=
    (answers_of_lasts (lasts_evaluate _ e horder)).decidesEach (isPointwise_outcome _ _ e hlimit)
  cases hblank : Text.isBlankText query with
  | true =>
    have hnone : ∀ o : Options, search ⟨v.graph, sources⟩ query o = pure {} := fun o => by
      rw [search, if_pos hblank]
    refine Or.inr ⟨{}, {}, ?_, ?_, fun n => by simp [Outcome.noteIds]⟩
    · exact congrArg (fun r : Evaluation Outcome => (r.run m).1) (hnone _)
    · exact congrArg (fun r : Evaluation Outcome => (r.run m').1) (hnone _)
  | false =>
    rcases hdecides with ⟨err, herr⟩ | ⟨p, hp⟩
    · have hfails : ∀ o : Options, outcome ⟨v.graph, sources⟩ v.memo e
          (searched ⟨v.graph, sources⟩ o) = .error (.error err) := fun o =>
        herr v.memo .start _ (NoteSet.inStep_ofIds _)
      have hsearch := hm.search_eq (o := { o with hoisted := rootId, limit := none }) hblank he
      have hsearch' := hm'.search_eq (o := { o with hoisted := hoisted, limit := none }) hblank he
      rw [hfails] at hsearch hsearch'
      exact Or.inl ⟨err, hsearch, hsearch'⟩
    · obtain ⟨all, hall, hmem⟩ := hm.exists_search_eq hg hroot hlimit hblank he (hp v.memo .start)
      obtain ⟨part, hpart, hmem'⟩ :=
        hm'.exists_search_eq hg hnote hlimit hblank he (hp v.memo .start)
      refine Or.inr ⟨all, part, hall, hpart, fun n => ?_⟩
      rw [hmem, hmem', and_iff_left hself, and_iff_left hh, and_assoc]
      refine and_congr_right fun _ => (and_iff_right_of_imp fun hn => ?_).symm
      exact Graph.mem_walkDown_trans hh hn

/-- Three notes with the same title: two of them, each placed under the other, in one part of the
tree, and one in another. -/
def partsVault : Vault := .ofSnapshot
  { notes := [{ id := "root", title := "root" }, { id := "a", title := "x" },
      { id := "b", title := "x" }, { id := "c", title := "x" }]
    branches := [{ id := "ra", child := "a", parent := "root" },
      { id := "ab", child := "b", parent := "a" }, { id := "ba", child := "a", parent := "b" },
      { id := "rc", child := "c", parent := "root" }] }

/-- The word occurs in the flat text or in the content. -/
def wordOccurs : Expression :=
  .anyOf [.fulltext ["x"], .noteContent .contains ["x"], .protectedContent .contains ["x"]]

theorem read_wordOccurs :
    (Query.read ({} : Options).reading "x").expression = some wordOccurs := by
  have hlex : lex "x" = ⟨[⟨"x", false, 0, 0⟩], []⟩ := by decide +kernel
  simp only [Query.read, hlex]
  change (readTrees ({} : Options).reading [⟨"x", false, 0, 0⟩] []).expression = _
  simp only [readTrees, List.takeWhile_nil, List.dropWhile_nil, sequence_nil, clauses_nil]
  rfl

theorem search_hoisted_partsVault : ∃ all part,
    ((search ⟨partsVault.graph, {}⟩ "x" {}).run partsVault.memo).1 = .ok all ∧
    ((search ⟨partsVault.graph, {}⟩ "x" { hoisted := "a" }).run partsVault.memo).1 = .ok part ∧
    ∀ n, n ∈ part.noteIds ↔ n ∈ all.noteIds ∧ n ∈ partsVault.graph.subtree "a" := by
  have hv : partsVault.Reachable := .ofSnapshot ⟨by decide, by decide, by decide⟩
  have hbelow : "a" ∈ partsVault.graph.subtree rootId := by decide +kernel
  refine (hv.search_hoisted {} (o := {}) .start .start read_wordOccurs rfl rfl
    hbelow).resolve_left ?_
  rintro ⟨err, herr, -⟩
  rw [Remembered.start.search_eq (by decide) read_wordOccurs] at herr
  have hok : (outcome ⟨partsVault.graph, {}⟩ partsVault.memo wordOccurs
      (searched ⟨partsVault.graph, {}⟩ {})).isOk = true := by decide +kernel
  cases hx : outcome ⟨partsVault.graph, {}⟩ partsVault.memo wordOccurs
      (searched ⟨partsVault.graph, {}⟩ {}) with
  | ok found =>
    rw [hx] at herr
    cases herr
  | error failure =>
    rw [hx] at hok
    cases hok

end Vault

end Zettel
