import Zettel.Proofs.Search.TitleWords
import Zettel.Proofs.Vault.Filed

/-!
# Hidden notes

A hidden note has a single blank for its flat text, whatever its title and its attributes are. So a
search for words passes it over, unless each of the words occurs in a blank: the empty word, and the
blank itself. A query can have these in quotes, and the blank also behind a backslash. Then hidden
notes are found like all others.

Main statements: `Remembered.search_words`, what a search for words finds, and
`Tended.search_hidden`.
-/

namespace Zettel

/-- Nothing but the empty text and the blank occurs in a blank. -/
theorem Text.occurs_blank_iff {s : String} : Text.occurs s " " = true ↔ s = "" ∨ s = " " := by
  rw [Text.occurs, Text.occursL_iff]
  constructor
  · intro h
    rcases List.infix_cons_iff.1 h with hstart | hpart
    · cases hs : s.toList with
      | nil => exact Or.inl (String.toList_eq_nil_iff.1 hs)
      | cons c cs =>
        rw [hs] at hstart
        obtain ⟨rfl, hcs⟩ := List.cons_prefix_cons.1 hstart
        rw [List.prefix_nil.1 hcs] at hs
        exact Or.inr (String.toList_inj.1 hs)
    · exact Or.inl (String.toList_eq_nil_iff.1 (List.infix_nil.1 hpart))
  · rintro (rfl | rfl)
    · exact List.nil_infix
    · exact List.infix_rfl

namespace Graph

variable {g : Graph} {memo : Memo} {n : NoteId}

theorem fst_isHidden_eq_true_iff : (g.isHidden n memo).1 = true ↔ ∃ a ∈ (g.effective n memo).1,
    a.isLabel = true ∧ (a.name = Attribute.archivedName ∨ a.name = Attribute.hiddenName) := by
  change (g.effective n memo).1.any _ = true ↔ _
  simp [List.any_eq_true]

theorem Filed.ownsKnown (h : g.Filed) : g.OwnsKnown := by
  intro n id hid
  obtain ⟨a, ha, -⟩ := ((h.owned n).mem_iff id).1 hid
  rw [Table.contains, ha]
  rfl

/-- Only an existing note is hidden. -/
theorem exists_note_of_isHidden (hg : g.OwnsKnown) (hmemo : g.Knows memo)
    (h : (g.isHidden n memo).1 = true) : ∃ note, g.notes.get? n = some note := by
  obtain ⟨a, ha, -⟩ := fst_isHidden_eq_true_iff.1 h
  obtain ⟨id, hid, -⟩ := List.mem_filterMap.1
    (show a ∈ (g.attributeIds n memo).1.filterMap g.attributes.get? from ha)
  exact Option.isSome_iff_exists.1 ((mem_attributeIds_iff hg hmemo).1 hid).hasNote

end Graph

/-- **The flat text of a hidden note is a blank**, whether it is remembered or not. -/
theorem Vault.Fresh.flatText_of_isHidden {v : Vault} (h : v.Fresh) (hg : v.graph.OwnsKnown)
    {n : NoteId} (hhidden : (v.graph.isHidden n v.memo).1 = true) :
    (v.graph.flatText n v.memo).1 = " " := by
  obtain ⟨note, hnote⟩ := Graph.exists_note_of_isHidden hg (h.knows hg) hhidden
  obtain ⟨attributes, htext⟩ := h.exists_flatText_eq_ite hg hnote
  rw [htext, if_pos hhidden]

namespace Search

open Query

variable {scope : Scope} {memo m : Memo} {o : Options} {query : String}

theorem mem_of_mem_takeLimit {α : Type} {limit : Option Nat} {xs : List α} {x : α}
    (h : x ∈ takeLimit limit xs) : x ∈ xs := by
  cases limit with
  | none => exact h
  | some k => exact List.mem_of_mem_take h

/-- **A search for words finds the notes with flat texts in which all of them occur.** -/
theorem Remembered.search_words (hm : Remembered scope memo m) (hg : scope.graph.Linked)
    (hwords : (lex query).fulltext ≠ []) (hplain : (lex query).expression = [])
    (hcontent : o.includeContent = false) :
    ∃ x, ((search scope query o).run m).1 = .ok x ∧
      (∀ n ∈ x.noteIds, ∀ t ∈ (lex query).fulltext,
        Text.occurs t.text (scope.graph.flatText n memo).1 = true) ∧
      (o.limit = none → ∀ n, n ∈ x.noteIds ↔
        (∀ t ∈ (lex query).fulltext, Text.occurs t.text (scope.graph.flatText n memo).1 = true) ∧
        scope.graph.LiesBelow n (effectiveHoisted scope.graph o.hoisted) ∧
        scope.graph.LiesBelow (effectiveHoisted scope.graph o.hoisted) rootId) := by
  set words := (lex query).fulltext.map Token.text
  have he : (Query.read o.reading query).expression = some (.fulltext words) := by
    rw [expression_read_of_words _ hplain, wordsCondition, if_neg (by simpa using hwords)]
    exact if_neg (by simp [Options.reading, hcontent])
  have hblank : Text.isBlankText query = false := by
    rw [← Bool.not_eq_true]
    intro hblank
    rw [lex_of_isBlankText hblank] at hwords
    exact hwords rfl
  have hsearch := hm.search_eq hblank he
  rw [outcome_fulltext] at hsearch
  set found := (searched scope o).filter fun n =>
    containsAll (scope.graph.flatText n memo).1 words with hfound
  have hmem : ∀ n, n ∈ found.ids ↔ n ∈ (searched scope o).ids ∧ ∀ t ∈ (lex query).fulltext,
      Text.occurs t.text (scope.graph.flatText n memo).1 = true := fun n => by
    rw [hfound, NoteSet.mem_filter, containsAll, List.all_map, List.all_eq_true]
    rfl
  have hshows : Shows scope.graph (effectiveHoisted scope.graph o.hoisted) found.ids
      (ranked scope.graph (effectiveHoisted scope.graph o.hoisted) found) :=
    shows_ranked hg (sorted_ofIds _) (NoteSet.inStep_filter _ _).nodup
  refine ⟨⟨takeLimit o.limit (ranked scope.graph (effectiveHoisted scope.graph o.hoisted) found),
    (Query.read o.reading query).diagnostic?⟩, hsearch, fun n hn => ?_, fun hlimit n => ?_⟩
  · obtain ⟨r, hr, rfl⟩ := List.mem_map.1 hn
    have hshown := List.mem_map_of_mem (f := Result.noteId) (mem_of_mem_takeLimit hr)
    exact ((hmem _).1 ((hshows.mem_iff _).1 hshown).1).2
  · rw [hlimit]
    refine (hshows.mem_iff n).trans ?_
    rw [hmem, and_assoc]
    exact and_iff_right_of_imp fun h => mem_searchedNotes (hg.mem_subtree_iff_liesBelow.2 h.2.1)

end Search

namespace Vault

open Search Query

variable {v : Vault}

/-- **A hidden note is not found by a word, unless the word is empty or a blank**, and is found like
all others by words that are. -/
theorem Tended.search_hidden (hv : v.Tended Snapshot.HasDistinctIds) (hfresh : v.Fresh)
    (sources : ContentSources) {m : Memo} (hm : Remembered ⟨v.graph, sources⟩ v.memo m)
    {n : NoteId} {a : Attribute} (ha : a ∈ (v.read (·.effective n)).1) (hlabel : a.isLabel = true)
    (hname : a.name = Attribute.archivedName ∨ a.name = Attribute.hiddenName) {query : String}
    (hwords : (lex query).fulltext ≠ []) (hplain : (lex query).expression = []) {o : Options}
    (hcontent : o.includeContent = false) :
    ∃ x, ((search ⟨v.graph, sources⟩ query o).run m).1 = .ok x ∧
      (n ∈ x.noteIds → ∀ t ∈ (lex query).fulltext, t.text = "" ∨ t.text = " ") ∧
      (o.limit = none → (n ∈ x.noteIds ↔
        (∀ t ∈ (lex query).fulltext, t.text = "" ∨ t.text = " ") ∧
        v.graph.LiesBelow n (effectiveHoisted v.graph o.hoisted) ∧
        v.graph.LiesBelow (effectiveHoisted v.graph o.hoisted) rootId)) := by
  have hlinked : v.graph.Linked :=
    hv.of_isUpheld Graph.isUpheld_linked Graph.Bare.empty.linked fun _ hs =>
      linked_ofSnapshot hs.branches
  have hfiled : v.graph.Filed :=
    hv.of_isUpheld Graph.isUpheld_filed Graph.Bare.empty.filed fun _ hs =>
      filed_ofSnapshot hs.attributes
  have hblank : (v.graph.flatText n v.memo).1 = " " :=
    hfresh.flatText_of_isHidden hfiled.ownsKnown
      (Graph.fst_isHidden_eq_true_iff.2 ⟨a, ha, hlabel, hname⟩)
  obtain ⟨x, hx, honly, hiff⟩ := hm.search_words hlinked hwords hplain hcontent
  refine ⟨x, hx, fun hn t ht => ?_, fun hlimit => ?_⟩
  · have hoccurs := honly n hn t ht
    rw [hblank] at hoccurs
    exact Text.occurs_blank_iff.1 hoccurs
  · have hn := hiff hlimit n
    simp only [hblank, Text.occurs_blank_iff] at hn
    exact hn

/-- An archived note, and one below it that is archived with it. -/
def hiddenVault : Vault := .ofSnapshot
  { notes := [{ id := "root", title := "root" }, { id := "a", title := "attic" },
      { id := "b", title := "box" }]
    branches := [{ id := "ra", child := "a", parent := "root" },
      { id := "ab", child := "b", parent := "a" }]
    attributes := [(AttributeRow.label "l" "a" "archived" "").inheritable] }

theorem tended_hiddenVault : hiddenVault.Tended Snapshot.HasDistinctIds :=
  .ofSnapshot ⟨by decide, by decide, by decide⟩

theorem fresh_hiddenVault : hiddenVault.Fresh := fresh_of_remembers (remembers_of_nothing rfl)

/-- The lower note is not found by its title. -/
theorem search_hidden_hiddenVault : ∃ x,
    ((search ⟨hiddenVault.graph, {}⟩ "box" { includeContent := false }).run hiddenVault.memo).1 =
      .ok x ∧ "b" ∉ x.noteIds := by
  have hlabel : (hiddenVault.read (·.effective "b")).1 =
      [⟨"l", "a", .label, "archived", "", true, 0⟩] := by decide +kernel
  have hwords : (lex "box").fulltext ≠ [] := by decide +kernel
  have hplain : (lex "box").expression = [] := by decide +kernel
  obtain ⟨x, hx, honly, -⟩ := tended_hiddenVault.search_hidden fresh_hiddenVault {} .start
    (hlabel ▸ List.mem_singleton_self _) rfl (Or.inl rfl) hwords hplain
    (o := { includeContent := false }) rfl
  exact ⟨x, hx, fun hfound => absurd (honly hfound) (by decide +kernel)⟩

/-- Both are found by a blank. -/
theorem found_hiddenVault : hiddenVault.Tended Snapshot.HasDistinctIds ∧ hiddenVault.Fresh ∧
    (hiddenVault.read (·.isHidden "a")).1 = true ∧ (hiddenVault.read (·.isHidden "b")).1 = true ∧
    (lex "' '").fulltext.map Token.text = [" "] ∧ (lex "' '").expression = [] ∧
    ((search ⟨hiddenVault.graph, {}⟩ "' '" { includeContent := false }).run
      hiddenVault.memo).1.map Outcome.noteIds = .ok ["root", "a", "b"] :=
  ⟨tended_hiddenVault, fresh_hiddenVault, by decide +kernel, by decide +kernel, by decide +kernel,
    by decide +kernel, by decide +kernel⟩

end Vault

end Zettel
