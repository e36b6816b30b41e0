import Mathlib.Data.List.Basic
import Mathlib.Tactic.SplitIfs
import Zettel.Query.Token

/-!
# Reading a part of a query

The characters of a query are read one after the other, with an escaped character in one step, so
what a part of a query adds to the tokens depends on the word before it alone. Between words nothing
is left over from what was read before, and the tokens of parts that begin and end there stand one
after the other.

Main statements: `Reads.scan_append`, the tokens of a query from those of a part in front, and
`Lexes`, a part that stands between words: a word, an operator, a structural character or a quoted
text.
-/

namespace Zettel

/-! ## Small letters -/

namespace Text

theorem length_le_length_lowerFrom (before cs : List Char) :
    cs.length ≤ (lowerFrom before cs).length := by
  induction cs generalizing before with
  | nil => exact Nat.le_refl 0
  | cons c cs ih =>
    have himage := List.length_pos_iff.2 (lowerChar_ne_nil c)
    have hrest := ih (c :: before)
    rw [lowerFrom, List.length_append, List.length_cons]
    split_ifs
    · rw [List.length_singleton]
      omega
    · rw [List.length_singleton]
      omega
    · omega

/-- In a text that small letters leave alone, each character is its own small letter. -/
theorem lowerChar_of_lowerFrom {before cs : List Char} (h : lowerFrom before cs = cs) :
    ∀ c ∈ cs, lowerChar c = [c] := by
  induction cs generalizing before with
  | nil => exact nofun
  | cons c cs ih =>
    rw [lowerFrom] at h
    split_ifs at h with hsigma hends
    · exact absurd ((List.cons.inj h).1.trans hsigma) (by decide)
    · exact absurd ((List.cons.inj h).1.trans hsigma) (by decide)
    · -- no image is empty, so the images of the rest are no longer than the rest
      have hlength := congrArg List.length h
      have himage := List.length_pos_iff.2 (lowerChar_ne_nil c)
      have hrest := length_le_length_lowerFrom (c :: before) cs
      rw [List.length_append, List.length_cons] at hlength
      obtain ⟨d, hd⟩ := List.length_eq_one_iff.1 (show (lowerChar c).length = 1 by omega)
      rw [hd, List.singleton_append, List.cons.injEq] at h
      exact List.forall_mem_cons.2 ⟨hd.trans (by rw [h.1]), ih h.2⟩

end Text

namespace Query

/-- A text whose letters are small. -/
def SmallText : Type := { s : String // Text.lowercase s = s }

/-- The characters of a text with small letters, one by one. -/
def smallLetters (s : String) : String := String.ofList (s.toList.flatMap Text.lowerChar)

/-- A text in small letters has them one by one. -/
theorem smallLetters_eq_self {s : String} (h : Text.lowercase s = s) : smallLetters s = s := by
  have hsmall : Text.lowerFrom [] s.toList = s.toList :=
    String.ofList_injective (h.trans String.ofList_toList.symm)
  have hchars := Text.lowerChar_of_lowerFrom hsmall
  rw [smallLetters, List.flatMap_congr hchars, List.flatMap_singleton', String.ofList_toList]

/-! ## Parts of a query -/

namespace Lexed

/-- The tokens of a query and of what follows it. -/
def append (l m : Lexed) : Lexed := ⟨l.fulltext ++ m.fulltext, l.expression ++ m.expression⟩

/-- Tokens in front of a query are in front of what follows it. -/
theorem prepend_append (b : Bool) (ts : List Token) (l m : Lexed) :
    prepend b ts (l.append m) = (prepend b ts l).append m := by
  cases b <;> simp [prepend, append]

end Lexed

open Lexed

/-- After the word `w` the characters `cs` from position `i` on have the tokens `l` and lead to the
word `w'`. They do not end with a backslash that has nothing to escape. -/
inductive Reads : Word → Nat → List Char → Lexed → Word → Prop
  | nil (w : Word) (i : Nat) : Reads w i [] ⟨[], []⟩ w
  | next {w w' : Word} {i : Nat} {c : Char} {cs : List Char} {l : Lexed} (hc : c ≠ '\\')
    (h : Reads (Step.next w c i).word (i + 1) cs l w') :
    Reads w i (c :: cs) (prepend w.inExpression (Step.next w c i).ended l) w'
  | escaped {w w' : Word} {i : Nat} {c : Char} {cs : List Char} {l : Lexed}
    (h : Reads (Step.escaped w c i).word (i + 2) cs l w') :
    Reads w i ('\\' :: c :: cs) (prepend w.inExpression (Step.escaped w c i).ended l) w'

section Reads

variable {w w' w'' : Word} {i : Nat} {c : Char} {cs ds : List Char} {l m : Lexed}

/-- A character that is no backslash is taken by one step. -/
theorem scan_next (hc : c ≠ '\\') : scan w i (c :: cs) =
    prepend w.inExpression (Step.next w c i).ended (scan (Step.next w c i).word (i + 1) cs) := by
  rw [scan]
  · exact fun h _ => hc h
  · exact fun _ _ h _ => hc h

/-- **The tokens of a query are those of a part in front and those of the rest.** -/
theorem Reads.scan_append (h : Reads w i cs l w') (rest : List Char) :
    scan w i (cs ++ rest) = l.append (scan w' (i + cs.length) rest) := by
  induction h with
  | nil w i => rfl
  | next hc _ ih =>
    rw [List.cons_append, scan_next hc, ih, prepend_append, List.length_cons, Nat.add_assoc,
      Nat.add_comm 1]
  | escaped _ ih =>
    rw [List.cons_append, List.cons_append, scan, ih, prepend_append, List.length_cons,
      List.length_cons, Nat.add_assoc, Nat.add_comm 2]

theorem Reads.append (h : Reads w i cs l w') (h' : Reads w' (i + cs.length) ds m w'') :
    Reads w i (cs ++ ds) (l.append m) w'' := by
  induction h with
  | nil w i => exact h'
  | next hc _ ih =>
    rw [← prepend_append]
    refine .next hc (ih ?_)
    rwa [Nat.add_right_comm]
  | escaped _ ih =>
    rw [← prepend_append]
    refine .escaped (ih ?_)
    rwa [Nat.add_right_comm]

@[simp]
theorem prepend_nil (b : Bool) (l : Lexed) : prepend b [] l = l := by cases b <;> rfl

/-- A character at which no token ends. -/
theorem Reads.pass {w₁ : Word} (hc : c ≠ '\\') (hstep : Step.next w c i = ⟨[], w₁⟩)
    (h : Reads w₁ (i + 1) cs l w') : Reads w i (c :: cs) l w' := by
  have hreads : Reads w i (c :: cs) (prepend w.inExpression (Step.next w c i).ended l) w' :=
    .next hc (by rwa [hstep])
  rwa [hstep, prepend_nil] at hreads

/-- A single character. -/
theorem reads_single {ts : List Token} (hc : c ≠ '\\') (hstep : Step.next w c i = ⟨ts, w'⟩) :
    Reads w i [c] (prepend w.inExpression ts ⟨[], []⟩) w' := by
  have hreads := Reads.next (w := w) (i := i) hc (.nil (Step.next w c i).word (i + 1))
  rwa [hstep] at hreads

end Reads

/-! ## Between words -/

/-- What the word consists of: the part of the query that it stands in, its quote, whether it is an
operator, and its text. -/
structure Word.Holds (w : Word) (inExpression : Bool) (quote : Option Char) (isOperator : Bool)
    (text : String) : Prop where
  inExpression : w.inExpression = inExpression
  quote : w.quote = quote
  isOperator : w.isOperator = isOperator
  text : w.text = text

/-- Nothing is left over from before: no text, no open quote and no operator. -/
def Word.IsIdle (w : Word) (inExpression : Bool) : Prop := w.Holds inExpression none false ""

/-- The text of a token, and whether it stood in quotes. -/
def Token.lexeme (t : Token) : String × Bool := (t.text, t.inQuotes)

/-- The characters are read as these texts, from between words to between words, in the expression
of a query or in front of it. -/
def Lexes (inExpression : Bool) (cs : List Char) (ls : List (String × Bool)) : Prop :=
  ∀ (w : Word) (i : Nat), w.IsIdle inExpression → ∃ ts w',
    Reads w i cs (prepend inExpression ts ⟨[], []⟩) w' ∧ ts.map Token.lexeme = ls ∧
      w'.IsIdle inExpression

section Lexes

variable {w w' : Word} {i : Nat} {b op : Bool} {q : Option Char} {c : Char} {cs ds : List Char}
  {s : String} {ls ms : List (String × Bool)}

theorem Lexes.nil : Lexes b [] [] := by
  intro w i hw
  refine ⟨[], w, ?_, rfl, hw⟩
  cases b <;> exact .nil w i

/-- Characters that are read from between words to between words may follow each other. -/
theorem Lexes.append (h : Lexes b cs ls) (h' : Lexes b ds ms) : Lexes b (cs ++ ds) (ls ++ ms) := by
  intro w i hw
  obtain ⟨ts, w', hts, rfl, hw'⟩ := h w i hw
  obtain ⟨us, w'', hus, rfl, hw''⟩ := h' w' (i + cs.length) hw'
  refine ⟨ts ++ us, w'', ?_, List.map_append, hw''⟩
  have happend := hts.append hus
  cases b <;> simpa [Lexed.append, prepend] using happend

/-- So may any number of such parts. -/
theorem Lexes.flatMap {α : Type} {chars : α → List Char} {lexeme : α → String × Bool}
    (h : ∀ a, Lexes b (chars a) [lexeme a]) (as : List α) :
    Lexes b (as.flatMap chars) (as.map lexeme) := by
  induction as with
  | nil => exact .nil
  | cons a as ih => exact (h a).append ih

/-- The small letter of the character is added to the text, wherever the word begins. -/
theorem holds_pushFrom (hw : w.Holds b q op s) (j : Nat) (c : Char) (i : Nat) :
    (w.pushFrom j c i).Holds b q op (s ++ String.ofList (Text.lowerChar c)) :=
  ⟨hw.inExpression, hw.quote, hw.isOperator, by rw [← hw.text]; rfl⟩

/-- The small letter of the character is added to the text. -/
theorem holds_push (hw : w.Holds b q op s) (c : Char) (i : Nat) :
    (w.push c i).Holds b q op (s ++ String.ofList (Text.lowerChar c)) :=
  holds_pushFrom hw i c i

/-- A word that was cleared has nothing left over. -/
theorem isIdle_cleared (hw : w.Holds b q op s) : w.cleared.IsIdle b :=
  ⟨hw.inExpression, rfl, rfl, rfl⟩

/-- A word with a text becomes a token. -/
theorem token?_of_holds (hw : w.Holds b q op s) (hs : s ≠ "") :
    w.token? = [⟨s, false, w.start, w.finish⟩] := by
  rw [Word.token?, hw.text, if_neg (by simpa [String.isEmpty_iff] using hs)]

/-- A word without a text becomes none. -/
theorem token?_of_isIdle (hw : w.IsIdle b) : w.token? = [] := by
  rw [Word.token?, hw.text]
  rfl

/-- A character that ends the word leads between words. -/
theorem Reads.ended {ts : Nat → List Token} (h : Reads w i cs ⟨[], []⟩ w') (hw : w'.Holds b q op s)
    (hc : c ≠ '\\') (hstep : ∀ j, Step.next w' c j = ⟨ts j, w'.cleared⟩)
    (hts : ∀ j, (ts j).map Token.lexeme = ls) : ∃ us w'',
      Reads w i (cs ++ [c]) (prepend b us ⟨[], []⟩) w'' ∧ us.map Token.lexeme = ls ∧
        w''.IsIdle b := by
  have hend := reads_single hc (hstep (i + cs.length))
  rw [hw.inExpression] at hend
  exact ⟨_, w'.cleared, h.append hend, hts _, isIdle_cleared hw⟩

/-- Outside quotes a blank ends the word. -/
theorem next_of_isBlank (hw : w.quote = none) (hc : Text.isBlank c = true) (i : Nat) :
    Step.next w c i = ⟨w.token?, w.cleared⟩ := by
  have hquote : quoteChars.contains c = false := by
    rw [← Bool.not_eq_true, List.contains_iff_mem]
    simp only [quoteChars, List.mem_cons, List.not_mem_nil, or_false]
    rintro (rfl | rfl | rfl) <;> exact absurd hc (by decide)
  rw [Step.next, hw]
  simp only [Step.unquoted, hquote, hc, Bool.false_eq_true, if_false, if_true]

/-- A blank ends the word. -/
theorem next_blank (hw : w.Holds b none op s) (i : Nat) :
    Step.next w ' ' i = ⟨w.token?, w.cleared⟩ :=
  next_of_isBlank hw.quote (by decide) i

/-- Between words blanks are passed over. -/
theorem exists_reads_of_blank (hw : w.IsIdle b) (hcs : ∀ c ∈ cs, Text.isBlank c = true) :
    ∃ w', Reads w i cs ⟨[], []⟩ w' ∧ w'.IsIdle b := by
  induction cs generalizing w i with
  | nil => exact ⟨w, .nil w i, hw⟩
  | cons c cs ih =>
    rw [List.forall_mem_cons] at hcs
    have hc : c ≠ '\\' := by
      rintro rfl
      exact absurd hcs.1 (by decide)
    have hstep := next_of_isBlank hw.quote hcs.1 i
    rw [token?_of_isIdle hw] at hstep
    obtain ⟨w', hreads, hw'⟩ := ih (isIdle_cleared hw) hcs.2
    exact ⟨w', .pass hc hstep hreads, hw'⟩

theorem lexes_blank : Lexes b [' '] [] := by
  intro w i hw
  refine (Reads.nil w i).ended hw (by decide) (next_blank hw) fun _ => ?_
  rw [token?_of_isIdle hw]
  rfl

/-- A structural character ends the word and is a token by itself. -/
theorem next_structural (hw : w.Holds true none op s) (hc : c ∈ structuralChars) (i : Nat) :
    Step.next w c i = ⟨w.token? ++ [⟨c.toString, false, i, i⟩], w.cleared⟩ := by
  have hpush : (w.cleared.push c i).token? = [⟨c.toString, false, i, i⟩] := by
    simp only [structuralChars, List.mem_cons, List.not_mem_nil, or_false] at hc
    rcases hc with rfl | rfl | rfl <;> rfl
  have hplain : quoteChars.contains c = false ∧ Text.isBlank c = false ∧
      markerChars.contains c = false ∧ structuralChars.contains c = true := by
    simp only [structuralChars, List.mem_cons, List.not_mem_nil, or_false] at hc
    rcases hc with rfl | rfl | rfl <;> decide
  obtain ⟨hquote, hblank, hmarker, hstructural⟩ := hplain
  rw [Step.next, hw.quote]
  simp only [Step.unquoted, hquote, hblank, hmarker, hstructural, hw.inExpression, hpush,
    Bool.and_self, Bool.false_eq_true, if_false, if_true]

/-- The structural characters are not escapes. -/
theorem ne_backslash_of_structural (hc : c ∈ structuralChars) : c ≠ '\\' := by
  rintro rfl
  exact absurd hc (by decide)

/-- A structural character is a token of its own. -/
theorem lexes_structural (hc : c ∈ structuralChars) : Lexes true [c] [(c.toString, false)] := by
  intro w i hw
  refine (Reads.nil w i).ended hw (ne_backslash_of_structural hc) (next_structural hw hc)
    fun _ => ?_
  rw [token?_of_isIdle hw]
  rfl

/-! ## Words -/

/-- An ordinary character, which a word consists of. -/
def isOrdinaryChar (c : Char) : Bool :=
  !quoteChars.contains c && !Text.isBlank c && !markerChars.contains c &&
    !structuralChars.contains c && !isOperatorChar c && c ≠ '\\'

/-- An ordinary small character, which a word consists of. -/
def isWordChar (c : Char) : Bool :=
  !quoteChars.contains c && !Text.isBlank c && !markerChars.contains c &&
    !structuralChars.contains c && !isOperatorChar c && c ≠ '\\' && Text.lowerChar c = [c]

/-- The text is made of such characters only. -/
def isWordText (s : String) : Bool := !s.isEmpty && s.toList.all isWordChar

/-- The characters of words are ordinary ones without a capital. -/
theorem isWordChar_iff : isWordChar c = true ↔ isOrdinaryChar c = true ∧ Text.lowerChar c = [c] := by
  rw [isWordChar, isOrdinaryChar, Bool.and_eq_true, decide_eq_true_eq]

theorem ne_empty_of_isWordText (hs : isWordText s = true) : s ≠ "" := by
  rintro rfl
  exact absurd hs (by decide)

theorem next_ordinaryChar (hw : w.Holds b none false s) (hc : isOrdinaryChar c = true) (i : Nat) :
    Step.next w c i = ⟨[], w.push c i⟩ := by
  simp only [isOrdinaryChar, Bool.and_eq_true, Bool.not_eq_true'] at hc
  obtain ⟨⟨⟨⟨⟨hquote, hblank⟩, hmarker⟩, hstructural⟩, hoperator⟩, -⟩ := hc
  rw [Step.next, hw.quote]
  simp only [Step.unquoted, Step.plain, hquote, hblank, hmarker, hstructural, hoperator,
    hw.isOperator, Bool.and_false, Bool.false_eq_true, if_false]
  rfl

/-- Ordinary characters add their small letters to the word. -/
theorem exists_reads_ordinary (hw : w.Holds b none false s)
    (hcs : ∀ c ∈ cs, isOrdinaryChar c = true) : ∃ w', Reads w i cs ⟨[], []⟩ w' ∧
      w'.Holds b none false (s ++ String.ofList (cs.flatMap Text.lowerChar)) := by
  induction cs generalizing w i s with
  | nil => exact ⟨w, .nil w i, by simpa using hw⟩
  | cons c cs ih =>
    rw [List.forall_mem_cons] at hcs
    have hslash : c ≠ '\\' := by
      have hc := hcs.1
      simp only [isOrdinaryChar, Bool.and_eq_true, decide_eq_true_eq] at hc
      exact hc.2
    obtain ⟨w', hreads, hw'⟩ := ih (i := i + 1) (holds_push hw c i) hcs.2
    refine ⟨w', hreads.pass hslash (next_ordinaryChar hw hcs.1 i), ?_⟩
    rwa [List.flatMap_cons, String.ofList_append, ← String.append_assoc]

/-- Ordinary small characters add to the word. -/
theorem exists_reads_word (hw : w.Holds b none false s) (hcs : ∀ c ∈ cs, isWordChar c = true) :
    ∃ w', Reads w i cs ⟨[], []⟩ w' ∧ w'.Holds b none false (s ++ String.ofList cs) := by
  obtain ⟨w', hreads, hw'⟩ := exists_reads_ordinary (i := i) hw fun c hc =>
    (isWordChar_iff.1 (hcs c hc)).1
  rw [List.flatMap_congr fun c hc => (isWordChar_iff.1 (hcs c hc)).2, List.flatMap_singleton'] at hw'
  exact ⟨w', hreads, hw'⟩

/-- The text is made of ordinary characters only. -/
def isOrdinaryText (s : String) : Bool := !s.isEmpty && s.toList.all isOrdinaryChar

/-- Small letters do not make a text vanish. -/
theorem smallLetters_ne_empty (hs : isOrdinaryText s = true) : smallLetters s ≠ "" := by
  rw [isOrdinaryText, Bool.and_eq_true, Bool.not_eq_true', ← Bool.not_eq_true,
    String.isEmpty_iff] at hs
  obtain ⟨c, cs, hcs⟩ := List.exists_cons_of_ne_nil (mt String.toList_eq_nil_iff.1 hs.1)
  rw [smallLetters, hcs, List.flatMap_cons]
  exact fun h => Text.lowerChar_ne_nil c (List.append_eq_nil_iff.1 (String.ofList_eq_empty_iff.1 h)).1

theorem isOrdinaryText_of_isWordText (hs : isWordText s = true) : isOrdinaryText s = true := by
  rw [isWordText, Bool.and_eq_true, List.all_eq_true] at hs
  rw [isOrdinaryText, Bool.and_eq_true, List.all_eq_true]
  exact ⟨hs.1, fun c hc => (isWordChar_iff.1 (hs.2 c hc)).1⟩

/-- A word of small letters stays as it is. -/
theorem smallLetters_of_isWordText (hs : isWordText s = true) : smallLetters s = s := by
  rw [isWordText, Bool.and_eq_true, List.all_eq_true] at hs
  rw [smallLetters, List.flatMap_congr fun c hc => (isWordChar_iff.1 (hs.2 c hc)).2,
    List.flatMap_singleton', String.ofList_toList]

/-- A word of ordinary characters between words. -/
theorem exists_reads_ordinaryText (hw : w.IsIdle b) (hs : isOrdinaryText s = true) :
    ∃ w', Reads w i s.toList ⟨[], []⟩ w' ∧ w'.Holds b none false (smallLetters s) := by
  rw [isOrdinaryText, Bool.and_eq_true, List.all_eq_true] at hs
  obtain ⟨w', hreads, hw'⟩ := exists_reads_ordinary (i := i) hw hs.2
  rw [String.empty_append] at hw'
  exact ⟨w', hreads, hw'⟩

/-- An ordinary word is read with small letters. -/
theorem lexes_ordinary (hs : isOrdinaryText s = true) :
    Lexes b (s.toList ++ [' ']) [(smallLetters s, false)] := by
  intro w i hw
  obtain ⟨w', hreads, hw'⟩ := exists_reads_ordinaryText (i := i) hw hs
  refine hreads.ended hw' (by decide) (next_blank hw') fun _ => ?_
  rw [token?_of_holds hw' (smallLetters_ne_empty hs)]
  rfl

/-- A word between words. -/
theorem exists_reads_of_isIdle (hw : w.IsIdle b) (hs : isWordText s = true) :
    ∃ w', Reads w i s.toList ⟨[], []⟩ w' ∧ w'.Holds b none false s := by
  obtain ⟨w', hreads, hw'⟩ :=
    exists_reads_ordinaryText (i := i) hw (isOrdinaryText_of_isWordText hs)
  rw [smallLetters_of_isWordText hs] at hw'
  exact ⟨w', hreads, hw'⟩

/-- A word of small letters is read as it is. -/
theorem lexes_word (hs : isWordText s = true) : Lexes b (s.toList ++ [' ']) [(s, false)] := by
  have hlexes := lexes_ordinary (b := b) (isOrdinaryText_of_isWordText hs)
  rwa [smallLetters_of_isWordText hs] at hlexes

/-- A structural character ends a word as a blank does. -/
theorem lexes_word_structural (hs : isWordText s = true) (hc : c ∈ structuralChars) :
    Lexes true (s.toList ++ [c]) [(s, false), (c.toString, false)] := by
  intro w i hw
  obtain ⟨w', hreads, hw'⟩ := exists_reads_of_isIdle (i := i) hw hs
  refine hreads.ended hw' (ne_backslash_of_structural hc) (next_structural hw' hc) fun _ => ?_
  rw [token?_of_holds hw' (ne_empty_of_isWordText hs)]
  rfl

/-! ## Operators -/

/-- The characters of operators have no other meaning. -/
theorem operatorChar_cases (hc : isOperatorChar c = true) : c ≠ '\\' ∧ Text.lowerChar c = [c] ∧
    quoteChars.contains c = false ∧ Text.isBlank c = false ∧ markerChars.contains c = false ∧
      structuralChars.contains c = false := by
  rw [isOperatorChar, List.contains_iff_mem] at hc
  simp only [operatorChars, List.mem_cons, List.not_mem_nil, or_false] at hc
  rcases hc with rfl | rfl | rfl | rfl | rfl | rfl <;> decide

/-- An operator character continues an operator. -/
theorem next_operatorChar (hw : w.Holds true none true s) (hc : isOperatorChar c = true) (i : Nat) :
    Step.next w c i = ⟨[], w.push c i⟩ := by
  obtain ⟨-, -, hquote, hblank, hmarker, hstructural⟩ := operatorChar_cases hc
  rw [Step.next, hw.quote]
  simp only [Step.unquoted, Step.operator, hquote, hblank, hmarker, hstructural, hc,
    hw.inExpression, hw.isOperator, Bool.and_false, Bool.and_self, Bool.false_eq_true, if_false,
    if_true, ite_self]

/-- Between words it begins an operator. -/
theorem next_operatorChar_of_isIdle (hw : w.IsIdle true) (hc : isOperatorChar c = true) (i : Nat) :
    Step.next w c i = ⟨[], { w.cleared with isOperator := true }.push c i⟩ := by
  obtain ⟨-, -, hquote, hblank, hmarker, hstructural⟩ := operatorChar_cases hc
  have hisMarker : w.isMarker = false := by
    rw [Word.isMarker, hw.text]
    decide
  rw [Step.next, hw.quote]
  simp only [Step.unquoted, Step.operator, hquote, hblank, hmarker, hstructural, hc,
    hw.inExpression, hw.isOperator, hisMarker, token?_of_isIdle hw, Bool.and_false, Bool.and_self,
    Bool.false_eq_true, if_false, if_true]

theorem exists_reads_operator (hw : w.Holds true none true s)
    (hcs : ∀ c ∈ cs, isOperatorChar c = true) : ∃ w', Reads w i cs ⟨[], []⟩ w' ∧
      w'.Holds true none true (s ++ String.ofList cs) := by
  induction cs generalizing w i s with
  | nil => exact ⟨w, .nil w i, by simpa using hw⟩
  | cons c cs ih =>
    rw [List.forall_mem_cons] at hcs
    obtain ⟨hne, hsmall, -⟩ := operatorChar_cases hcs.1
    have hpush := holds_push hw c i
    rw [hsmall] at hpush
    obtain ⟨w', hreads, hw'⟩ := ih (i := i + 1) hpush hcs.2
    refine ⟨w', hreads.pass hne (next_operatorChar hw hcs.1 i), ?_⟩
    rwa [String.append_assoc, ← String.ofList_append] at hw'

theorem lexes_operator (hs : isOperatorText s = true) :
    Lexes true (s.toList ++ [' ']) [(s, false)] := by
  intro w i hw
  rw [isOperatorText, Bool.and_eq_true, List.all_eq_true] at hs
  have hne : s ≠ "" := by
    rintro rfl
    exact absurd hs.1 (by decide)
  obtain ⟨c, cs, hcs⟩ := List.exists_cons_of_ne_nil (mt String.toList_eq_nil_iff.1 hne)
  obtain ⟨hc, hrest⟩ := List.forall_mem_cons.1 (hcs ▸ hs.2)
  obtain ⟨hslash, hsmall, -⟩ := operatorChar_cases hc
  have hstart : ({ w.cleared with isOperator := true }.push c i).Holds true none true
      (String.ofList [c]) := by
    have hempty : { w.cleared with isOperator := true }.Holds true none true "" :=
      ⟨hw.inExpression, rfl, rfl, rfl⟩
    have hpush := holds_push hempty c i
    rwa [hsmall, String.empty_append] at hpush
  obtain ⟨w', hreads, hw'⟩ := exists_reads_operator (i := i + 1) hstart hrest
  rw [← String.ofList_append, List.singleton_append, ← hcs, String.ofList_toList] at hw'
  have hword := hreads.pass hslash (next_operatorChar_of_isIdle hw hc i)
  rw [← hcs] at hword
  refine hword.ended hw' (by decide) (next_blank hw') fun _ => ?_
  rw [token?_of_holds hw' hne]
  rfl

/-! ## Quoted texts -/

/-- The character as it stands in quotes: one with a meaning there has a backslash in front. -/
def escape (c : Char) : List Char :=
  if c = '\\' ∨ c ∈ quoteChars then ['\\', c] else [c]

/-- The text in quotes. -/
def quote (s : String) : List Char := '\'' :: s.toList.flatMap escape ++ ['\'']

theorem exists_reads_escape (hw : w.Holds b (some '\'') false s) (cs : List Char) :
    ∃ w', Reads w i (cs.flatMap escape) ⟨[], []⟩ w' ∧
      w'.Holds b (some '\'') false (s ++ String.ofList (cs.flatMap Text.lowerChar)) := by
  induction cs generalizing w i s with
  | nil => exact ⟨w, .nil w i, by simpa using hw⟩
  | cons c cs ih =>
    rw [List.flatMap_cons, List.flatMap_cons, String.ofList_append, ← String.append_assoc]
    by_cases hc : c = '\\' ∨ c ∈ quoteChars
    · have hstep : Step.escaped w c i = ⟨[], w.push c (i + 1)⟩ := by
        rw [Step.escaped, hw.quote]
        rfl
      obtain ⟨w', hreads, hw'⟩ := ih (i := i + 2) (holds_push hw c (i + 1))
      refine ⟨w', ?_, hw'⟩
      have hescaped : Reads w i ('\\' :: c :: cs.flatMap escape)
          (prepend w.inExpression (Step.escaped w c i).ended ⟨[], []⟩) w' :=
        .escaped (by rwa [hstep])
      rw [hstep, prepend_nil] at hescaped
      rwa [escape, if_pos hc]
    · have hstep : Step.next w c i = ⟨[], w.push c i⟩ := by
        have hquote : c ≠ '\'' := by
          rintro rfl
          exact hc (Or.inr (by decide))
        rw [Step.next, hw.quote]
        exact if_neg hquote
      obtain ⟨w', hreads, hw'⟩ := ih (i := i + 1) (holds_push hw c i)
      rw [escape, if_neg hc]
      exact ⟨w', hreads.pass (not_or.1 hc).1 hstep, hw'⟩

theorem lexes_quote (s : String) : Lexes b (quote s) [(smallLetters s, true)] := by
  intro w i hw
  have hopen : Step.next w '\'' i = ⟨[], w.opened '\'' i⟩ := by
    have hboundary : w.atQuoteBoundary = true := by
      rw [Word.atQuoteBoundary, hw.text]
      rfl
    rw [Step.next, hw.quote]
    simp only [Step.unquoted, hboundary, token?_of_isIdle hw]
    rfl
  have hopened : (w.opened '\'' i).Holds b (some '\'') false "" :=
    ⟨hw.inExpression, rfl, rfl, rfl⟩
  obtain ⟨w', hreads, hw'⟩ := exists_reads_escape (i := i + 1) hopened s.toList
  rw [String.empty_append] at hw'
  have hbody := hreads.pass (by decide) hopen
  have hclose : ∀ j, Step.next w' '\'' j = ⟨[w'.quotedToken j], w'.cleared⟩ := by
    intro j
    rw [Step.next, hw'.quote]
    exact if_pos rfl
  refine hbody.ended hw' (by decide) hclose fun _ => ?_
  rw [List.map_singleton, Token.lexeme, Word.quotedToken, hw'.text, smallLetters]

/-! ## The end of a query -/

/-- From between words to the end of the query the characters are read as these texts. -/
def LexesToEnd (inExpression : Bool) (cs : List Char) (ls : List (String × Bool)) : Prop :=
  ∀ (w : Word) (i : Nat), w.IsIdle inExpression → ∃ ts,
    scan w i cs = prepend inExpression ts ⟨[], []⟩ ∧ ts.map Token.lexeme = ls

theorem Lexes.toEnd (h : Lexes b cs ls) (h' : LexesToEnd b ds ms) :
    LexesToEnd b (cs ++ ds) (ls ++ ms) := by
  intro w i hw
  obtain ⟨ts, w', hts, rfl, hw'⟩ := h w i hw
  obtain ⟨us, hus, rfl⟩ := h' w' (i + cs.length) hw'
  refine ⟨ts ++ us, ?_, List.map_append⟩
  rw [hts.scan_append, hus]
  cases b <;> simp [Lexed.append, prepend]

theorem lexesToEnd_ordinary (hs : isOrdinaryText s = true) :
    LexesToEnd b s.toList [(smallLetters s, false)] := by
  intro w i hw
  obtain ⟨w', hreads, hw'⟩ := exists_reads_ordinaryText (i := i) hw hs
  refine ⟨[⟨smallLetters s, false, w'.start, w'.finish⟩], ?_, rfl⟩
  have hscan := hreads.scan_append []
  rw [List.append_nil] at hscan
  rw [hscan, scan, hw'.quote, hw'.inExpression, token?_of_holds hw' (smallLetters_ne_empty hs)]
  cases b <;> simp [Lexed.append, prepend]

/-! ## Whole queries -/

/-- In front of the expression a marker, perhaps with a name, is its first token. -/
theorem exists_reads_marker (hw : w.IsIdle false) (cs : List Char)
    (hcs : ∀ c ∈ cs, isWordChar c = true) :
    ∃ ts w', Reads w i ('#' :: cs ++ [' ']) (prepend true ts ⟨[], []⟩) w' ∧
      ts.map Token.lexeme = [("#" ++ String.ofList cs, false)] ∧ w'.IsIdle true := by
  have hstep : Step.next w '#' i = ⟨[], { w with inExpression := true }.push '#' i⟩ := by
    have htext : w.text.isEmpty = true := by
      rw [hw.text]
      rfl
    rw [Step.next, hw.quote]
    change Step.marker w '#' i = _
    rw [Step.marker, hw.inExpression, if_neg Bool.false_ne_true, if_pos htext, hw.quote]
  have hmarker : ({ w with inExpression := true }.push '#' i).Holds true none false "#" :=
    holds_push (w := { w with inExpression := true }) (s := "")
      ⟨rfl, hw.quote, hw.isOperator, hw.text⟩ '#' i
  obtain ⟨w', hreads, hw'⟩ := exists_reads_word (i := i + 1) hmarker hcs
  refine (hreads.pass (by decide) hstep).ended hw' (by decide) (next_blank hw') fun _ => ?_
  rw [token?_of_holds hw' (by simp)]
  rfl

/-- At the end nothing is left over between words. -/
theorem scan_nil_of_isIdle (hw : w.IsIdle b) : scan w i [] = ⟨[], []⟩ := by
  rw [scan, hw.quote, token?_of_isIdle hw]
  exact prepend_nil _ _

/-- A blank query has no tokens. -/
theorem lex_of_isBlankText (h : Text.isBlankText s = true) : lex s = ⟨[], []⟩ := by
  obtain ⟨w, hreads, hw⟩ := exists_reads_of_blank (w := {}) (b := false) (i := 0)
    ⟨rfl, rfl, rfl, rfl⟩ (List.all_eq_true.1 h)
  have hscan := hreads.scan_append []
  rwa [List.append_nil, scan_nil_of_isIdle hw] at hscan

/-- **The tokens of a query: quoted words, and behind a marker its expression.** -/
theorem exists_lex_eq (words : List String) (h : Lexes true cs ls) : ∃ fulltext expression,
    lex (String.ofList (words.flatMap (fun s => quote s ++ [' ']) ++ '#' :: ' ' :: cs)) =
      ⟨fulltext, expression⟩ ∧
    fulltext.map Token.lexeme = words.map (fun s => (smallLetters s, true)) ∧
    expression.map Token.lexeme = ("#", false) :: ls := by
  have hword : ∀ s, Lexes false (quote s ++ [' ']) [(smallLetters s, true)] := fun s =>
    (lexes_quote s).append lexes_blank
  obtain ⟨ts, w₁, hts, hwords, hw₁⟩ := Lexes.flatMap hword words {} 0 ⟨rfl, rfl, rfl, rfl⟩
  obtain ⟨ms, w₂, hms, hmarker, hw₂⟩ := exists_reads_marker hw₁ [] nofun
  obtain ⟨es, w₃, hes, hexpression, hw₃⟩ := h w₂ _ hw₂
  have hscan := (hts.append (hms.append hes)).scan_append []
  rw [scan_nil_of_isIdle hw₃, List.append_nil] at hscan
  refine ⟨ts, ms ++ es, ?_, hwords, ?_⟩
  · rw [lex, String.toList_ofList]
    simpa [Lexed.append, prepend] using hscan
  · rw [List.map_append, hmarker, hexpression, String.ofList_nil, String.append_empty,
      List.singleton_append]

end Lexes

end Query

end Zettel
