import Zettel.Proofs.Inheritance.Between
import Zettel.Proofs.Query.PlainWord
import Zettel.Proofs.Search.Ranking
import Zettel.Proofs.Text.Words
import Zettel.Proofs.Vault.Invalidation

/-!
# Finding a note by a word of its title

The flat text of a note has the small letters of each word of its title. A query has the small
letters of the characters of a word, one by one. These are the same, unless a capital sigma ends the
word: the flat text then has a final sigma, and the query the common one. So a visible note is found
by the words of its title, and by a word with a final sigma only if its flat text happens to have
the other letters too.

Main statement: `Reachable.search_titleWord`.
-/

namespace Zettel

/-! ## Flat texts -/

namespace Text

variable {word text front back : List Char}

/-- A word of a text is a word of a longer one, if blanks part them. -/
theorem StandsApart.within (h : StandsApart word text) (hfront : front.getLast?.all isBlank = true)
    (hback : back.head?.all isBlank = true) : StandsApart word (front ++ text ++ back) := by
  obtain ⟨before, after, rfl, hbefore, hafter⟩ := h
  refine ⟨front ++ before, after ++ back, by simp, ?_, ?_⟩
  · rw [List.getLast?_append]
    cases hlast : before.getLast? with
    | none => exact hfront
    | some c => rwa [hlast] at hbefore
  · rw [List.head?_append]
    cases hhead : after.head? with
    | none => exact hback
    | some c => rwa [hhead] at hafter

end Text

namespace Graph

variable {g : Graph} {note : Note} {w : String}

/-- What stands in front of the title ends with a blank. -/
theorem exists_leadText_eq (g : Graph) (note : Note) :
    ∃ s, note.id ++ " " ++ g.leadText note = s ++ " " := by
  rw [leadText]
  have hjoin : ∀ leads : List String, (∀ s ∈ leads, ∃ t, s = t ++ " ") →
      String.join leads = "" ∨ ∃ t, String.join leads = t ++ " " := by
    intro leads hleads
    refine List.foldlRecOn leads _ (motive := fun s => s = "" ∨ ∃ t, s = t ++ " ") (Or.inl rfl)
      fun s _ lead hlead => ?_
    obtain ⟨t, rfl⟩ := hleads lead hlead
    exact Or.inr ⟨s ++ t, by rw [String.append_assoc]⟩
  have hleads := hjoin (note.edges.parentBranches.filterMap fun b =>
    ((g.branches.get? b).bind Branch.lead).map (· ++ " - ")) fun s hs => by
      obtain ⟨b, -, hb⟩ := List.mem_filterMap.1 hs
      obtain ⟨lead, -, rfl⟩ := Option.map_eq_some_iff.1 hb
      exact ⟨lead ++ " -", by rw [String.append_assoc]; rfl⟩
  rcases hleads with hempty | ⟨t, ht⟩
  · exact ⟨note.id, by rw [hempty, String.append_empty]⟩
  · exact ⟨note.id ++ " " ++ t, by rw [ht]; simp only [String.append_assoc]⟩

/-- **The small letters of a word of the title stand in the flat text.** -/
theorem isInfix_lowerL_fullText (hw : Text.StandsApart w.toList note.title.toList)
    (attributes : List Attribute) :
    Text.lowerL w.toList <:+: (g.fullText note attributes).toList := by
  obtain ⟨s, hs⟩ := exists_leadText_eq g note
  rw [fullText, hs, Text.lowercase, String.toList_ofList]
  have hparts : ∀ tail : String, (s ++ " " ++ note.title ++ " " ++ tail).toList =
      (s.toList ++ [' ']) ++ note.title.toList ++ (' ' :: tail.toList) := fun tail => by
    simp [String.toList_append]
  rw [hparts]
  refine (hw.within ?_ ?_).isInfix_lowerL
  · rw [List.getLast?_concat]
    decide
  · rw [List.head?_cons]
    decide

end Graph

/-! ## Small letters of words -/

/-- The small letters of the characters are those of the text, unless a capital sigma ends a
word. -/
theorem Query.toList_smallLetters {w : String} (h : Text.hasFinalSigma w = false) :
    (Query.smallLetters w).toList = Text.lowerL w.toList := by
  rw [Query.smallLetters, String.toList_ofList]
  exact ((Text.lowerFrom_eq_flatMap_iff [] w.toList).2 h).symm

/-! ## The words of a query -/

namespace Search

open Query

section Words

variable {scope : Scope} {memo : Memo} {words : List String} {e : Expression} {s : NoteSet}

theorem outcome_fulltext (scope : Scope) (memo : Memo) (words : List String) (s : NoteSet) :
    outcome scope memo (.fulltext words) s =
      .ok (s.filter fun n => containsAll (scope.graph.flatText n memo).1 words) := by
  have hdelivers : Delivers scope memo (evaluate scope (.fulltext words) s)
      (.ok (s.filter fun n => containsAll (scope.graph.flatText n memo).1 words)) := by
    simp only [evaluate]
    refine .lift ((Yields.filterM (fun n => ?_) s.ids).bind (.pure _))
    exact ((scope.graph.steady_flatText memo n).bind fun _ => .pure _).yields
      (.refl scope.graph memo)
  exact outcome_eq hdelivers

/-- **The words of a query find the notes with flat texts in which they occur**, and, if this is
asked for, others by their content. -/
theorem exists_outcome_words (scope : Scope) (memo : Memo) {o : ReadOptions}
    (he : wordsCondition o words = some e) (s : NoteSet) :
    ∃ found, outcome scope memo e s = .ok found ∧
      (∀ n ∈ s.ids, containsAll (scope.graph.flatText n memo).1 words = true → n ∈ found.ids) ∧
      (o.includeContent = false → ∀ n ∈ found.ids,
        containsAll (scope.graph.flatText n memo).1 words = true) := by
  have hfulltext := outcome_fulltext scope memo words s
  rw [wordsCondition] at he
  split_ifs at he with hempty hcontent
  · obtain rfl := Option.some.inj he
    have hplain : outcome scope memo (.noteContent .contains words) s =
        .ok (filterContent scope s words) := by
      simp only [outcome, evaluate]
      rfl
    have hprotected : outcome scope memo (.protectedContent .contains words) s =
        .ok (filterProtected scope s words) := by
      simp only [outcome, evaluate]
      rfl
    have hany : outcome scope memo (.anyOf [.fulltext words, .noteContent .contains words,
        .protectedContent .contains words]) s = .ok (((NoteSet.empty.addAll
          (s.filter fun n => containsAll (scope.graph.flatText n memo).1 words)).addAll
          (filterContent scope s words)).addAll (filterProtected scope s words)) := by
      rw [outcome_eq (delivers_anyOf (fun e _ => delivers_evaluate scope memo e) s)]
      simp only [List.foldlM_cons, List.foldlM_nil, hfulltext, hplain, hprotected]
      rfl
    refine ⟨_, hany, fun n hn hoccurs => ?_, fun hnone => absurd hcontent (by simp [hnone])⟩
    have hstep := NoteSet.inStep_empty.addAll
      (s.filter fun n => containsAll (scope.graph.flatText n memo).1 words)
    have hmem : n ∈ (NoteSet.empty.addAll
        (s.filter fun n => containsAll (scope.graph.flatText n memo).1 words)).ids :=
      NoteSet.inStep_empty.mem_addAll.2 (Or.inr (NoteSet.mem_filter.2 ⟨hn, hoccurs⟩))
    exact (hstep.addAll _).mem_addAll.2 (Or.inl (hstep.mem_addAll.2 (Or.inl hmem)))
  · obtain rfl := Option.some.inj he
    refine ⟨_, hfulltext, fun n hn hoccurs => NoteSet.mem_filter.2 ⟨hn, hoccurs⟩, fun _ n hn => ?_⟩
    exact (NoteSet.mem_filter.1 hn).2

theorem hasLimit_wordsCondition {o : ReadOptions} (he : wordsCondition o words = some e) :
    e.hasLimit = false := by
  rw [wordsCondition] at he
  split_ifs at he
  · obtain rfl := Option.some.inj he
    rfl
  · obtain rfl := Option.some.inj he
    rfl

end Words

end Search

namespace Vault

open Search Query

variable {v : Vault}

/-! ## What a fresh vault answers -/

theorem Fresh.knows (h : v.Fresh) (hg : v.graph.OwnsKnown) : v.graph.Knows v.memo := by
  intro n a hn ha
  rw [((fresh_iff.1 h) n hn).attributes a ha]
  exact Graph.tells_attributesAt hg n

/-- The flat text of a note is a blank if the note is hidden, and else put together from its title
and some attributes, whether it is remembered or not. -/
theorem Fresh.exists_flatText_eq_ite (h : v.Fresh) (hg : v.graph.OwnsKnown) {n : NoteId}
    {note : Note} (hnote : v.graph.notes.get? n = some note) :
    ∃ attributes, (v.graph.flatText n v.memo).1 =
      if (v.graph.isHidden n v.memo).1 then " " else v.graph.fullText note attributes := by
  have hn : v.graph.hasNote n = true := by rw [Graph.hasNote, Table.contains, hnote]; rfl
  rw [Graph.flatText_of_note hnote]
  cases hknown : (v.memo.of n).flatText with
  | some text =>
    refine ⟨v.graph.effectiveAt n, ?_⟩
    dsimp only
    rw [Graph.isHidden_eq hg (h.knows hg), (fresh_iff.1 h n hn).flatText text hknown,
      Graph.flatTextAt, hnote]
  | none =>
    refine ⟨(v.graph.effective n (v.graph.isHidden n v.memo).2).1, ?_⟩
    change ((if (v.graph.isHidden n v.memo).1 = true then pure " "
      else return v.graph.fullText note (← v.graph.effective n) : Reading String)
        (v.graph.isHidden n v.memo).2).1 = _
    split
    · rfl
    · rfl

theorem Fresh.exists_flatText_eq (h : v.Fresh) (hv : v.graph.Consistent) {n : NoteId} {note : Note}
    (hnote : v.graph.notes.get? n = some note) (hvisible : (v.read (·.isHidden n)).1 = false) :
    ∃ attributes, (v.graph.flatText n v.memo).1 = v.graph.fullText note attributes := by
  obtain ⟨attributes, htext⟩ := h.exists_flatText_eq_ite hv.ownsKnown hnote
  have hhidden : (v.graph.isHidden n v.memo).1 = false := hvisible
  exact ⟨attributes, htext.trans (if_neg (by simp [hhidden]))⟩

/-! ## The search for a word -/

/-- **A visible note is found by each word of its title, unless a capital sigma ends the word**, and
by any word, if the small letters of its characters occur in the flat text of the note. -/
theorem Reachable.search_titleWord (hv : v.Reachable) (hfresh : v.Fresh) (sources : ContentSources)
    {m : Memo} (hm : Remembered ⟨v.graph, sources⟩ v.memo m) {n : NoteId} {note : Note}
    (hnote : v.graph.notes.get? n = some note) (hbelow : v.graph.LiesBelow n rootId)
    (hvisible : (v.read (·.isHidden n)).1 = false) {w : String} (hw : IsPlainWord w)
    (htitle : Text.StandsApart w.toList note.title.toList) (o : Options) :
    ∃ x, ((search ⟨v.graph, sources⟩ w { o with hoisted := rootId, limit := none }).run m).1 =
        .ok x ∧
      (Text.hasFinalSigma w = false → n ∈ x.noteIds) ∧
      (Text.occurs (smallLetters w) (v.read (·.flatText n)).1 = true → n ∈ x.noteIds) ∧
      (o.includeContent = false → n ∈ x.noteIds →
        Text.occurs (smallLetters w) (v.read (·.flatText n)).1 = true) := by
  have hlinked := hv.consistent.toLinked
  have hroot : v.graph.hasNote rootId = true := hbelow.1
  have hunder : n ∈ v.graph.subtree rootId := hlinked.mem_subtree_iff_liesBelow.2 hbelow
  obtain ⟨e, he⟩ : ∃ e, wordsCondition o.reading [smallLetters w] = some e := by
    rw [wordsCondition, if_neg (by simp)]
    split_ifs
    · exact ⟨_, rfl⟩
    · exact ⟨_, rfl⟩
  obtain ⟨found, hfound, hfinds, hfindsOnly⟩ := exists_outcome_words ⟨v.graph, sources⟩ v.memo he
    (searchedNotes v.graph rootId)
  obtain ⟨x, hx, hids⟩ := hm.exists_search_of_outcome hlinked hroot (hasLimit_wordsCondition he)
    hw.isBlankText ((hw.expression_read o.reading).trans he) hfound
  have hmem : n ∈ x.noteIds ↔ n ∈ found.ids :=
    (hids n).trans (and_iff_left ⟨hunder, Graph.self_mem_walkDown hroot⟩)
  have hoccurs : Text.occurs (smallLetters w) (v.read (·.flatText n)).1 = true →
      n ∈ found.ids := fun h => hfinds n (mem_searchedNotes hunder) ((Bool.and_true _).trans h)
  refine ⟨x, hx, fun hsigma => ?_, fun h => hmem.2 (hoccurs h), fun hnone hn => ?_⟩
  · refine hmem.2 (hoccurs ?_)
    obtain ⟨attributes, htext⟩ := hfresh.exists_flatText_eq hv.consistent hnote hvisible
    have hinfix := Graph.isInfix_lowerL_fullText (g := v.graph) htitle attributes
    rw [← toList_smallLetters hsigma, ← htext] at hinfix
    exact Text.occursL_iff.2 hinfix
  · have honly := hfindsOnly hnone n (hmem.1 hn)
    rwa [containsAll, List.all_cons, List.all_nil, Bool.and_true] at honly

/-- A note with two words in its title, of which one ends with a capital sigma. -/
def sigmaVault : Vault := .ofSnapshot
  { notes := [{ id := "root", title := "root" }, { id := "a", title := "ΣΟΦΙΑ ΟΔΟΣ" }]
    branches := [{ id := "ra", child := "a", parent := "root" }] }

theorem search_titleWord_sigmaVault : ∃ x,
    ((search ⟨sigmaVault.graph, {}⟩ "ΣΟΦΙΑ" {}).run sigmaVault.memo).1 = .ok x ∧
      "a" ∈ x.noteIds := by
  have hv : sigmaVault.Reachable := .ofSnapshot ⟨by decide, by decide, by decide⟩
  have hfresh : sigmaVault.Fresh := fresh_of_remembers (remembers_of_nothing rfl)
  have hbelow : sigmaVault.graph.LiesBelow "a" rootId :=
    hv.consistent.toLinked.mem_subtree_iff_liesBelow.1 (by decide +kernel)
  obtain ⟨note, hnote, htitle⟩ : ∃ note, sigmaVault.graph.notes.get? "a" = some note ∧
      note.title = "ΣΟΦΙΑ ΟΔΟΣ" := ⟨_, rfl, rfl⟩
  have hword : Text.StandsApart "ΣΟΦΙΑ".toList note.title.toList := by
    rw [htitle]
    exact ⟨[], " ΟΔΟΣ".toList, by decide, by decide, by decide⟩
  obtain ⟨x, hx, hfinds, -⟩ := hv.search_titleWord hfresh {} .start hnote hbelow
    (by decide +kernel) (by decide +kernel) hword {}
  exact ⟨x, hx, hfinds (by decide +kernel)⟩

/-- The other word finds nothing. -/
theorem lost_sigmaVault : sigmaVault.Reachable ∧ sigmaVault.Fresh ∧
    sigmaVault.graph.LiesBelow "a" rootId ∧ (sigmaVault.read (·.isHidden "a")).1 = false ∧
    (sigmaVault.graph.notes.get? "a").map Note.title = some "ΣΟΦΙΑ ΟΔΟΣ" ∧
    IsPlainWord "ΟΔΟΣ" ∧ Text.StandsApart "ΟΔΟΣ".toList "ΣΟΦΙΑ ΟΔΟΣ".toList ∧
    ((search ⟨sigmaVault.graph, {}⟩ "ΟΔΟΣ" {}).run sigmaVault.memo).1.map Outcome.results =
      .ok [] := by
  have hv : sigmaVault.Reachable := .ofSnapshot ⟨by decide, by decide, by decide⟩
  refine ⟨hv, fresh_of_remembers (remembers_of_nothing rfl),
    hv.consistent.toLinked.mem_subtree_iff_liesBelow.1 (by decide +kernel), by decide +kernel,
    by decide +kernel, by decide +kernel,
    ⟨"ΣΟΦΙΑ ".toList, [], by decide, by decide, by decide⟩, by decide +kernel⟩

end Vault

end Zettel
