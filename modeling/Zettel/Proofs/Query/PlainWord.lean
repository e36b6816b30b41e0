import Zettel.Proofs.Query.RoundTrip

/-!
# Queries of one word

In front of the expression only blanks end a word. What would open a quote or begin the expression
does so at the beginning of a word only. So a word that begins with none of these is one token,
whatever follows in it, and the query asks for its small letters.

Main statement: `IsPlainWord.expression_read`.
-/

namespace Zettel.Query

open Lexed

/-- The text is a single word, without a backslash, and begins neither a quote nor an expression. -/
structure IsPlainWord (s : String) : Prop where
  ne_empty : s ≠ ""
  solid : ∀ c ∈ s.toList, Text.isBlank c = false ∧ c ≠ '\\'
  first : ∀ c ∈ s.toList.head?, c ∉ quoteChars ∧ c ∉ markerChars

instance (s : String) : Decidable (IsPlainWord s) :=
  decidable_of_iff (s ≠ "" ∧ (s.toList.all fun c => !Text.isBlank c && c ≠ '\\') ∧
      s.toList.head?.all fun c => !quoteChars.contains c && !markerChars.contains c)
    ⟨fun ⟨hne, hsolid, hfirst⟩ =>
        ⟨hne, by simpa using hsolid, by simpa [Option.all_eq_true] using hfirst⟩,
      fun h => ⟨h.ne_empty, by simpa using h.solid, by simpa [Option.all_eq_true] using h.first⟩⟩

section PlainWord

variable {w : Word} {i : Nat} {s : String} {c : Char} {cs : List Char}

/-- In front of the expression a character adds to the word, also a quote or a marker, if the word
has begun. -/
theorem next_front (hw : w.Holds false none false s) (hblank : Text.isBlank c = false)
    (hc : s ≠ "" ∨ c ∉ quoteChars ∧ c ∉ markerChars) (i : Nat) :
    Step.next w c i = ⟨[], w.push c i⟩ := by
  have hbegun : c ∈ quoteChars ∨ c ∈ markerChars → w.text.isEmpty = false := by
    intro hmem
    have hs : s ≠ "" := hc.resolve_right fun ⟨hquote, hmarker⟩ => hmem.elim hquote hmarker
    simpa [hw.text] using hs
  have hplain : Step.plain w i c i = ⟨[], w.push c i⟩ := by
    rw [Step.plain, hw.isOperator]
    rfl
  rw [Step.next, hw.quote]
  simp only [Step.unquoted, hblank, hw.inExpression, hplain, Bool.false_and, Bool.false_eq_true,
    if_false]
  split_ifs with hquote hboundary hmarker
  · rw [Word.atQuoteBoundary, hbegun (Or.inl (List.contains_iff_mem.1 hquote)), hw.inExpression]
      at hboundary
    cases hboundary
  · rfl
  · rw [Step.marker, hw.inExpression, hbegun (Or.inr (List.contains_iff_mem.1 hmarker))]
    rfl
  · rfl

theorem exists_reads_front (hw : w.Holds false none false s) (hs : s ≠ "")
    (hcs : ∀ c ∈ cs, Text.isBlank c = false ∧ c ≠ '\\') :
    ∃ w', Reads w i cs ⟨[], []⟩ w' ∧
      w'.Holds false none false (s ++ String.ofList (cs.flatMap Text.lowerChar)) := by
  induction cs generalizing w i s with
  | nil => exact ⟨w, .nil w i, by simpa using hw⟩
  | cons c cs ih =>
    rw [List.forall_mem_cons] at hcs
    obtain ⟨⟨hblank, hslash⟩, hrest⟩ := hcs
    obtain ⟨w', hreads, hw'⟩ := ih (i := i + 1) (holds_push hw c i) (by simp [hs]) hrest
    rw [List.flatMap_cons, String.ofList_append, ← String.append_assoc]
    exact ⟨w', hreads.pass hslash (next_front hw hblank (Or.inl hs) i), hw'⟩

namespace IsPlainWord

/-- The word is the only token. -/
theorem lex_eq (h : IsPlainWord s) :
    ∃ t, lex s = ⟨[t], []⟩ ∧ t.lexeme = (smallLetters s, false) := by
  obtain ⟨c, cs, hcs⟩ := List.exists_cons_of_ne_nil (mt String.toList_eq_nil_iff.1 h.ne_empty)
  obtain ⟨hc, hrest⟩ := List.forall_mem_cons.1 (hcs ▸ h.solid)
  have hstart : ({} : Word).Holds false none false "" := ⟨rfl, rfl, rfl, rfl⟩
  have hstep := next_front hstart hc.1 (Or.inr (h.first c (by rw [hcs]; rfl))) 0
  have hne : "" ++ String.ofList (Text.lowerChar c) ≠ "" := by
    simpa using Text.lowerChar_ne_nil c
  obtain ⟨w, hreads, hw⟩ := exists_reads_front (i := 1) (holds_push hstart c 0) hne hrest
  have hletters : "" ++ String.ofList (Text.lowerChar c) ++
      String.ofList (cs.flatMap Text.lowerChar) = smallLetters s := by
    rw [String.empty_append, ← String.ofList_append, smallLetters, hcs, List.flatMap_cons]
  rw [hletters] at hw
  have hscan := (hreads.pass hc.2 hstep).scan_append []
  refine ⟨⟨smallLetters s, false, w.start, w.finish⟩, ?_, rfl⟩
  rw [lex, hcs, ← List.append_nil (c :: cs), hscan, scan, hw.quote, hw.inExpression,
    token?_of_holds hw]
  · rfl
  · rw [← hletters]
    simp [Text.lowerChar_ne_nil c]

/-- **The query asks for the small letters of the word.** -/
theorem expression_read (h : IsPlainWord s) (o : ReadOptions) :
    (Query.read o s).expression = wordsCondition o [smallLetters s] := by
  obtain ⟨t, hlex, ht⟩ := h.lex_eq
  rw [expression_read_of_words o (by rw [hlex]), hlex, List.map_singleton, (Prod.mk.inj ht).1]

theorem isBlankText (h : IsPlainWord s) : Text.isBlankText s = false := by
  obtain ⟨c, hc⟩ := List.exists_mem_of_ne_nil _ (mt String.toList_eq_nil_iff.1 h.ne_empty)
  exact List.all_eq_false.2 ⟨c, hc, by simp [(h.solid c hc).1]⟩

end IsPlainWord

end PlainWord

end Zettel.Query
