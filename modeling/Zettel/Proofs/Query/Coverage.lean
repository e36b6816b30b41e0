import Zettel.Proofs.Query.Lexing

/-!
# The tokens account for the whole query

The tokens of a query stand in it one after the other, and between them there is nothing but blanks
and quotes. Whatever quotes, operators, markers and escaped characters do to the word that is being
read, it always spells a part of the query that reaches up to the character that is read next, so
the tokens are laid out over the query as it is read.

Main statement: `lossless_lex`, together with what a token's text and range have to do with each
other and how the expression begins.
-/

namespace Zettel.Query

open Lexed

/-! ## Tokens and their places -/

/-- The characters that may stand outside every token. -/
def isGapChar (c : Char) : Bool := Text.isBlank c || quoteChars.contains c

/-- Nothing but such characters stands from `i` up to `j`. -/
def Gap (query : String) (i j : Nat) : Prop :=
  ∀ k c, i ≤ k → k < j → query.toList[k]? = some c → isGapChar c = true

namespace Token

/-- The place `i` belongs to the token. -/
def Covers (t : Token) (i : Nat) : Prop := t.start ≤ i ∧ i ≤ t.finish

/-- The token's range lies in the query, and is empty for an empty text, which is a quoted one. In a
query without a backslash its text is what stands there, in small letters. -/
structure Fits (query : String) (t : Token) : Prop where
  finish_lt : t.finish < query.toList.length
  start_le : t.start ≤ t.finish + 1
  text_eq_empty_iff : t.text = "" ↔ t.finish < t.start
  inQuotes : t.text = "" → t.inQuotes = true
  text_eq : '\\' ∉ query.toList → t.text = smallLetters (t.source query)

/-- The token ends before the other one begins. -/
structure Before (t u : Token) : Prop where
  start_lt : t.start < u.start
  finish_lt : t.finish < u.finish
  finish_lt_start : t.finish < u.start

/-- The token begins with a marker, unquoted. -/
def IsMarked (query : String) (t : Token) : Prop :=
  t.inQuotes = false ∧ ∃ c ∈ markerChars, query.toList[t.start]? = some c ∧
    t.text.toList.head? = some c

/-- The source of a token is what stands in its range. -/
theorem source_eq (t : Token) (query : String) :
    t.source query = String.ofList (query.toList.extract t.start (t.finish + 1)) := by
  rw [source, sourceIn, Array.toList_extract]

end Token

namespace Lexed

/-- The tokens in the order of the query. -/
def tokens (l : Lexed) : List Token := l.fulltext ++ l.expression

/-- The tokens stand in the query in their order and leave out nothing but blanks and quotes, and
the expression begins with a marker. -/
structure Lossless (query : String) (l : Lexed) : Prop where
  fits : ∀ t ∈ l.tokens, t.Fits query
  ordered : l.tokens.Pairwise Token.Before
  covered : ∀ i c, query.toList[i]? = some c →
    (∃ t ∈ l.tokens, t.Covers i) ∨ isGapChar c = true
  marked : ∀ t, l.expression.head? = some t → t.IsMarked query

/-- Tokens that are put in front stand in front of all others, if the words have not ended
before. -/
theorem tokens_prepend {b : Bool} {l : Lexed} (h : b = true → l.fulltext = []) (ts : List Token) :
    (prepend b ts l).tokens = ts ++ l.tokens := by
  cases b with
  | false => rw [prepend, if_neg Bool.false_ne_true, tokens, tokens, List.append_assoc]
  | true => rw [prepend, if_pos rfl, tokens, tokens, h rfl, List.nil_append, List.nil_append]

end Lexed

/-! ## Tokens laid out over the query -/

/-- The tokens stand one after the other from `p` up to `q`, with gaps between them. -/
inductive Laid (query : String) : Nat → List Token → Nat → Prop
  | gap {p q : Nat} (hpq : p ≤ q) (hgap : Gap query p q) : Laid query p [] q
  | token {p q r : Nat} {t : Token} {ts : List Token} (hfits : t.Fits query)
    (hstart : p ≤ t.start ∧ p ≤ t.finish) (hbefore : Gap query p t.start)
    (hfinish : t.start < q ∧ t.finish < q) (hafter : Gap query (t.finish + 1) q)
    (hrest : Laid query q ts r) : Laid query p (t :: ts) r

section Laid

variable {query : String} {i j k p q r : Nat} {t : Token} {ts us : List Token}

theorem Gap.refl (query : String) (i : Nat) : Gap query i i := fun _ _ hi hj =>
  absurd hj (Nat.not_lt.2 hi)

theorem Gap.trans (h : Gap query i j) (h' : Gap query j k) : Gap query i k := by
  intro m c hi hk hc
  rcases Nat.lt_or_ge m j with hj | hj
  · exact h m c hi hj hc
  · exact h' m c hj hk hc

/-- A blank or a quote is a gap. -/
theorem gap_succ {c : Char} (hc : query.toList[i]? = some c) (hgap : isGapChar c = true) :
    Gap query i (i + 1) := by
  intro k d hi hk hd
  obtain rfl : k = i := by omega
  rwa [← Option.some.inj (hc.symm.trans hd)]

/-- Behind the query there are gaps only. -/
theorem gap_of_length_le (h : query.toList.length ≤ i) (j : Nat) : Gap query i j := by
  intro k c hi _ hc
  have hk := (List.getElem?_eq_some_iff.1 hc).1
  omega

theorem Laid.refl (query : String) (p : Nat) : Laid query p [] p :=
  .gap (Nat.le_refl p) (.refl query p)

/-- A gap may stand in front. -/
theorem Laid.gap_left (hpq : p ≤ q) (hgap : Gap query p q) (h : Laid query q ts r) :
    Laid query p ts r := by
  cases h with
  | gap hqr hgap' => exact .gap (Nat.le_trans hpq hqr) (hgap.trans hgap')
  | token hfits hstart hbefore hfinish hafter hrest =>
    exact .token hfits ⟨Nat.le_trans hpq hstart.1, Nat.le_trans hpq hstart.2⟩ (hgap.trans hbefore)
      hfinish hafter hrest

/-- What is laid up to a place goes on with what is laid from there. -/
theorem Laid.append (h : Laid query p ts q) (h' : Laid query q us r) :
    Laid query p (ts ++ us) r := by
  induction h with
  | gap hpq hgap => exact h'.gap_left hpq hgap
  | token hfits hstart hbefore hfinish hafter _ ih =>
    exact .token hfits hstart hbefore hfinish hafter (ih h')

/-- Every token stands in the query as its range says. -/
theorem Laid.fits (h : Laid query p ts q) : ∀ t ∈ ts, t.Fits query := by
  induction h with
  | gap => exact nofun
  | token hfits _ _ _ _ _ ih => exact List.forall_mem_cons.2 ⟨hfits, ih⟩

/-- No token begins or ends before the place that they are laid from. -/
theorem Laid.le_of_mem (h : Laid query p ts q) : ∀ t ∈ ts, p ≤ t.start ∧ p ≤ t.finish := by
  induction h with
  | gap => exact nofun
  | token _ hstart _ hfinish _ _ ih =>
    refine List.forall_mem_cons.2 ⟨hstart, fun u hu => ?_⟩
    have hu := ih u hu
    omega

/-- The tokens do not overlap. -/
theorem Laid.ordered (h : Laid query p ts q) : ts.Pairwise Token.Before := by
  induction h with
  | gap => exact .nil
  | token _ _ _ hfinish _ hrest ih =>
    refine List.pairwise_cons.2 ⟨fun u hu => ?_, ih⟩
    have hle := hrest.le_of_mem u hu
    exact ⟨by omega, by omega, by omega⟩

theorem Laid.covered (h : Laid query p ts q) {c : Char} (hp : p ≤ i) (hq : i < q)
    (hc : query.toList[i]? = some c) : (∃ t ∈ ts, t.Covers i) ∨ isGapChar c = true := by
  induction h with
  | gap _ hgap => exact Or.inr (hgap i c hp hq hc)
  | @token p q r t ts _ _ hbefore _ hafter _ ih =>
    rcases Nat.lt_or_ge i t.start with hstart | hstart
    · exact Or.inr (hbefore i c hp hstart hc)
    rcases Nat.lt_or_ge t.finish i with hfinish | hfinish
    · rcases Nat.lt_or_ge i q with hi | hi
      · exact Or.inr (hafter i c hfinish hi hc)
      · refine (ih hi hq).imp_left ?_
        rintro ⟨u, hu, hcovers⟩
        exact ⟨u, List.mem_cons_of_mem t hu, hcovers⟩
    · exact Or.inl ⟨t, List.mem_cons_self, hstart, hfinish⟩

end Laid

/-! ## What a step can do -/

/-- The character `c` stands at `k`, which is `i`, or follows a backslash at `i`. -/
def Stands (query : String) (i : Nat) (c : Char) (k : Nat) : Prop :=
  query.toList[k]? = some c ∧ (k = i ∨ k = i + 1 ∧ query.toList[i]? = some '\\')

/-- From the word `w` and the place `i` on, a step leads to what it gives and to the next place. -/
inductive Takes (query : String) (w : Word) (i : Nat) : Step → Nat → Prop
  /-- The quote ends. -/
  | closes {q : Char} (hw : w.quote = some q) (hc : query.toList[i]? = some q) :
    Takes query w i ⟨[w.quotedToken i], w.cleared⟩ (i + 1)
  /-- A character adds to a quoted text. -/
  | quotes {q c : Char} {k : Nat} (hw : w.quote = some q) (hc : Stands query i c k) :
    Takes query w i ⟨[], w.push c k⟩ (k + 1)
  /-- A quote opens. -/
  | opens {c : Char} (hw : w.quote = none) (hc : query.toList[i]? = some c)
    (hquote : c ∈ quoteChars) : Takes query w i ⟨w.token?, w.opened c i⟩ (i + 1)
  /-- A blank ends the word. -/
  | ends {c : Char} (hw : w.quote = none) (hc : query.toList[i]? = some c)
    (hblank : Text.isBlank c = true) : Takes query w i ⟨w.token?, w.cleared⟩ (i + 1)
  /-- A character is a token by itself. -/
  | single {c : Char} (hw : w.quote = none) (hc : query.toList[i]? = some c) :
    Takes query w i ⟨w.token? ++ (w.cleared.push c i).token?, w.cleared⟩ (i + 1)
  /-- A character begins another word. -/
  | restarts {c : Char} {k : Nat} (isOperator : Bool) (hw : w.quote = none)
    (hc : Stands query i c k) :
    Takes query w i ⟨w.token?, { w.cleared with isOperator := isOperator }.pushFrom i c k⟩ (k + 1)
  /-- A character adds to the word. -/
  | continues {c : Char} {k : Nat} (hw : w.quote = none) (hc : Stands query i c k) :
    Takes query w i ⟨[], w.pushFrom i c k⟩ (k + 1)
  /-- A marker begins the expression. -/
  | marks {c : Char} (hw : w.quote = none) (hc : query.toList[i]? = some c)
    (hmarker : c ∈ markerChars) (hfront : w.inExpression = false) (htext : w.text = "") :
    Takes query w i ⟨[], { w with inExpression := true }.push c i⟩ (i + 1)

section Takes

variable {query : String} {w : Word} {i k : Nat} {c : Char}

/-- Outside quotes a character goes to the word, which begins with it if there is none yet. -/
theorem takes_plain (hw : w.quote = none) (hc : Stands query i c k) :
    Takes query w i (Step.plain w i c k) (k + 1) := by
  rw [Step.plain]
  split_ifs
  · exact .restarts false hw hc
  · exact .continues hw hc

/-- A marker ends the words and begins the expression. -/
theorem takes_marker (hw : w.quote = none) (hc : query.toList[i]? = some c)
    (hmarker : c ∈ markerChars) : Takes query w i (Step.marker w c i) (i + 1) := by
  rw [Step.marker]
  split_ifs with hexpression htext
  · exact .restarts false hw ⟨hc, Or.inl rfl⟩
  · exact .marks hw hc hmarker (Bool.not_eq_true _ ▸ hexpression) (String.isEmpty_iff.1 htext)
  · exact .continues hw ⟨hc, Or.inl rfl⟩

/-- A character of an operator begins one, or goes on with it. -/
theorem takes_operator (hw : w.quote = none) (hc : query.toList[i]? = some c) :
    Takes query w i (Step.operator w c i) (i + 1) := by
  rw [Step.operator]
  split_ifs
  · exact .continues hw ⟨hc, Or.inl rfl⟩
  · exact .continues hw ⟨hc, Or.inl rfl⟩
  · exact .restarts true hw ⟨hc, Or.inl rfl⟩

theorem takes_next (hc : query.toList[i]? = some c) :
    Takes query w i (Step.next w c i) (i + 1) := by
  cases hw : w.quote with
  | some q =>
    rw [Step.next, hw]
    dsimp only
    split_ifs with hclose
    · exact .closes hw (hclose ▸ hc)
    · exact .quotes hw ⟨hc, Or.inl rfl⟩
  | none =>
    rw [Step.next, hw]
    dsimp only
    rw [Step.unquoted]
    split_ifs with hquote _ hblank hmarker
    · exact .opens hw hc (List.contains_iff_mem.1 hquote)
    · exact takes_plain hw ⟨hc, Or.inl rfl⟩
    · exact .ends hw hc hblank
    · exact takes_marker hw hc (List.contains_iff_mem.1 hmarker)
    · exact .single hw hc
    · exact takes_operator hw hc
    · exact takes_plain hw ⟨hc, Or.inl rfl⟩

/-- A backslash and what it escapes are taken together. -/
theorem takes_escaped (hslash : query.toList[i]? = some '\\')
    (hc : query.toList[i + 1]? = some c) : Takes query w i (Step.escaped w c i) (i + 2) := by
  have hstands : Stands query i c (i + 1) := ⟨hc, Or.inr ⟨rfl, hslash⟩⟩
  rw [Step.escaped]
  cases hw : w.quote with
  | some q => exact .quotes hw hstands
  | none => exact takes_plain hw hstands

/-- A backslash at the end stands for itself. -/
theorem takes_trailingBackslash (hslash : query.toList[i]? = some '\\') :
    Takes query w i (Step.trailingBackslash w i) (i + 1) := by
  rw [Step.trailingBackslash]
  cases hw : w.quote with
  | some q => exact .quotes hw ⟨hslash, Or.inl rfl⟩
  | none => exact takes_plain hw ⟨hslash, Or.inl rfl⟩

/-- **What holds at the end of the query and is kept backwards by every step holds of all tokens.**
The words and places are those at which the reading can be. -/
theorem scan_induction {motive : Word → Nat → Lexed → Prop}
    (hend : ∀ w, motive w query.toList.length (scan w query.toList.length []))
    (hstep : ∀ w i s j l, Takes query w i s j → motive s.word j l →
      motive w i (prepend w.inExpression s.ended l)) :
    motive {} 0 (lex query) := by
  have hscan : ∀ w i cs, query.toList.drop i = cs → i ≤ query.toList.length →
      motive w i (scan w i cs) := by
    intro w i cs
    have hhead : ∀ {k c ds}, query.toList.drop k = c :: ds →
        query.toList[k]? = some c ∧ query.toList.drop (k + 1) = ds ∧
          k + 1 ≤ query.toList.length := by
      intro k c ds hk
      have hc : query.toList[k]? = some c := by
        rw [← List.head?_drop, hk, List.head?_cons]
      exact ⟨hc, by rw [← List.tail_drop, hk, List.tail_cons],
        (List.getElem?_eq_some_iff.1 hc).1⟩
    fun_induction scan w i cs with
    | case1 w i last =>
      intro hdrop hle
      obtain rfl : i = query.toList.length := Nat.le_antisymm hle (List.drop_eq_nil_iff.1 hdrop)
      have hlast := hend w
      rwa [scan] at hlast
    | case2 w i s ih =>
      intro hdrop hle
      obtain ⟨hc, hrest, hlt⟩ := hhead hdrop
      exact hstep _ _ _ _ _ (takes_trailingBackslash hc) (ih hrest hlt)
    | case3 w i c rest s ih =>
      intro hdrop hle
      obtain ⟨hslash, hnext, -⟩ := hhead hdrop
      obtain ⟨hc, hrest, hlt⟩ := hhead hnext
      exact hstep _ _ _ _ _ (takes_escaped hslash hc) (ih hrest hlt)
    | case4 w i c rest _ _ s ih =>
      intro hdrop hle
      obtain ⟨hc, hrest, hlt⟩ := hhead hdrop
      exact hstep _ _ _ _ _ (takes_next hc) (ih hrest hlt)
  exact hscan {} 0 query.toList rfl (Nat.zero_le _)

end Takes

/-! ## The word being read -/

/-- The text is what stands from `a` up to `i`: it is empty there only, and without a backslash in
the query it consists of the small letters of what stands there. -/
structure Spells (query text : String) (a i : Nat) : Prop where
  le : a ≤ i
  le_length : i ≤ query.toList.length
  eq_empty_iff : text = "" ↔ a = i
  letters : '\\' ∉ query.toList →
    text = smallLetters (String.ofList (query.toList.extract a i))

namespace Word

/-- Outside quotes the word stands from `p` up to `i`; between words these are the same place. -/
structure Unquoted (query : String) (w : Word) (p i : Nat) : Prop where
  quote : w.quote = none
  spells : Spells query w.text p i
  place : w.text ≠ "" → w.start = p ∧ w.finish + 1 = i

/-- A quote stands at `p`, and the text in it reaches up to `i`. -/
structure Quoted (query : String) (w : Word) (p i : Nat) : Prop where
  quote : ∃ q ∈ quoteChars, w.quote = some q ∧ query.toList[p]? = some q
  spells : Spells query w.text (p + 1) i
  place : w.start = p + 1 ∧ w.finish + 1 = i

end Word

/-- The tokens before `p` have ended, and the word reaches from there up to `i`. -/
def Underway (query : String) (w : Word) (p i : Nat) : Prop :=
  w.Unquoted query p i ∨ w.Quoted query p i

section Underway

variable {query s : String} {w : Word} {a i j k p : Nat} {c q : Char}

theorem isGapChar_of_quote (hc : c ∈ quoteChars) : isGapChar c = true := by
  rw [isGapChar, List.contains_iff_mem.2 hc, Bool.or_true]

theorem isGapChar_of_blank (hc : Text.isBlank c = true) : isGapChar c = true := by
  rw [isGapChar, hc, Bool.true_or]

theorem length_of_getElem? (hc : query.toList[i]? = some c) : i + 1 ≤ query.toList.length :=
  (List.getElem?_eq_some_iff.1 hc).1

/-- A character stands at its own place. -/
theorem Stands.self (hc : query.toList[i]? = some c) : Stands query i c i := ⟨hc, Or.inl rfl⟩

theorem Spells.nil (hi : i ≤ query.toList.length) : Spells query "" i i := by
  refine ⟨Nat.le_refl i, hi, by simp, fun _ => ?_⟩
  rw [List.extract_eq_take_drop, Nat.sub_self, List.take_zero]
  rfl

/-- The range up to a character goes on with it. -/
theorem extract_succ (ha : a ≤ i) (hc : query.toList[i]? = some c) :
    query.toList.extract a (i + 1) = query.toList.extract a i ++ [c] := by
  have hlast : (query.toList.drop a)[i - a]? = some c := by
    rw [List.getElem?_drop, Nat.add_sub_cancel' ha, hc]
  rw [List.extract_eq_take_drop, List.extract_eq_take_drop, Nat.succ_sub ha, List.take_add_one,
    hlast, Option.toList_some]

theorem Spells.push (h : Spells query s a i) (hc : Stands query i c k) :
    Spells query (s ++ String.ofList (Text.lowerChar c)) a (k + 1) := by
  obtain ⟨hstands, hk⟩ := hc
  have ha := h.le
  refine ⟨by omega, length_of_getElem? hstands, ?_, fun hslash => ?_⟩
  · have hne := Text.lowerChar_ne_nil c
    have hlt : a ≠ k + 1 := by omega
    simp [hne, hlt]
  · -- without a backslash no character is escaped
    have hself : k = i := hk.resolve_right fun hescaped =>
      hslash (List.mem_of_getElem? hescaped.2)
    subst hself
    rw [extract_succ ha hstands, h.letters hslash, smallLetters, smallLetters,
      String.toList_ofList, String.toList_ofList, List.flatMap_append, String.ofList_append,
      List.flatMap_singleton]

theorem Spells.fits (h : Spells query s a i) (inQuotes : Bool) (hi : 0 < i)
    (hquotes : s = "" → inQuotes = true) : (Token.mk s inQuotes a (i - 1)).Fits query := by
  have ha := h.le
  have hlength := h.le_length
  have hsucc : i - 1 + 1 = i := Nat.succ_pred_eq_of_pos hi
  refine ⟨by dsimp only; omega, by dsimp only; omega, h.eq_empty_iff.trans (by dsimp only; omega),
    hquotes, fun hslash => ?_⟩
  rw [Token.source_eq, hsucc]
  exact h.letters hslash

/-- A word that was cleared has not begun yet. -/
theorem unquoted_cleared (w : Word) (hi : i ≤ query.toList.length) :
    w.cleared.Unquoted query i i :=
  ⟨rfl, .nil hi, fun h => absurd rfl h⟩

theorem Word.Unquoted.pushFrom (hw : w.Unquoted query p i) (hc : Stands query i c k) :
    (w.pushFrom i c k).Unquoted query p (k + 1) := by
  refine ⟨hw.quote, hw.spells.push hc, fun _ => ⟨?_, rfl⟩⟩
  rw [Word.pushFrom, hw.quote, Option.isNone_none, Bool.and_true]
  dsimp only
  split_ifs with htext
  · exact (hw.spells.eq_empty_iff.1 (String.isEmpty_iff.1 htext)).symm
  · exact (hw.place (mt String.isEmpty_iff.2 htext)).1

/-- In quotes every character goes to the text. -/
theorem Word.Quoted.push (hw : w.Quoted query p i) (hc : Stands query i c k) :
    (w.push c k).Quoted query p (k + 1) := by
  refine ⟨hw.quote, hw.spells.push hc, ?_, rfl⟩
  obtain ⟨q, -, hq, -⟩ := hw.quote
  rw [Word.push, Word.pushFrom, hq, Option.isNone_some, Bool.and_false, if_neg Bool.false_ne_true]
  exact hw.place.1

/-- A quote opens a text that is empty. -/
theorem Word.Quoted.opened (w : Word) (hc : query.toList[i]? = some c) (hquote : c ∈ quoteChars) :
    (w.opened c i).Quoted query i (i + 1) :=
  ⟨⟨c, hquote, rfl, hc⟩, .nil (length_of_getElem? hc), rfl, rfl⟩

/-- A word that ends at `i` is laid out up to there. -/
theorem Word.Unquoted.laid_token? (hw : w.Unquoted query p i) : Laid query p w.token? i := by
  rw [Word.token?]
  split_ifs with htext
  · rw [hw.spells.eq_empty_iff.1 (String.isEmpty_iff.1 htext)]
    exact .refl query i
  · have hne : w.text ≠ "" := mt String.isEmpty_iff.2 htext
    obtain ⟨hstart, hfinish⟩ := hw.place hne
    have hlt : p < i := Nat.lt_of_le_of_ne hw.spells.le (mt hw.spells.eq_empty_iff.2 hne)
    have hfits := hw.spells.fits false (by omega) fun h => absurd h hne
    rw [hstart, show w.finish = i - 1 by omega]
    refine .token hfits ⟨Nat.le_refl p, ?_⟩ (.refl query p) ⟨hlt, ?_⟩ ?_ (.refl query i)
    · dsimp only
      omega
    · dsimp only
      omega
    · rw [show i - 1 + 1 = i by omega]
      exact .refl query i

/-- A quoted text that ends at `i` is laid out with the quotes around it. -/
theorem Word.Quoted.laid_quotedToken (hw : w.Quoted query p i) (hgap : Gap query i (i + 1)) :
    Laid query p [w.quotedToken i] (i + 1) := by
  obtain ⟨q, hq, -, hopen⟩ := hw.quote
  have hle := hw.spells.le
  have hfits := hw.spells.fits true (by omega) fun _ => rfl
  rw [Word.quotedToken, hw.place.1]
  refine .token hfits ⟨Nat.le_succ p, ?_⟩ (gap_succ hopen (isGapChar_of_quote hq)) ⟨?_, ?_⟩ ?_
    (.refl query (i + 1))
  · dsimp only
    omega
  · dsimp only
    omega
  · dsimp only
    omega
  · rwa [show i - 1 + 1 = i by omega]

theorem Underway.unquoted (h : Underway query w p i) (hw : w.quote = none) :
    w.Unquoted query p i := by
  refine h.resolve_right fun hquoted => ?_
  obtain ⟨q, -, hq, -⟩ := hquoted.quote
  rw [hw] at hq
  cases hq

theorem Underway.quoted (h : Underway query w p i) (hw : w.quote = some q) :
    w.Quoted query p i := by
  refine h.resolve_left fun hunquoted => ?_
  rw [hunquoted.quote] at hw
  cases hw

/-- **A step lays out what it gives**, and the word that follows begins where that ends. -/
theorem Takes.laid {s : Step} (h : Takes query w i s j) (hw : Underway query w p i) :
    ∃ r, Laid query p s.ended r ∧ Underway query s.word r j := by
  cases h with
  | closes hquote hc =>
    have hquoted := hw.quoted hquote
    obtain ⟨q, hq, hopen, -⟩ := hquoted.quote
    obtain rfl := Option.some.inj (hopen.symm.trans hquote)
    exact ⟨i + 1, hquoted.laid_quotedToken (gap_succ hc (isGapChar_of_quote hq)),
      Or.inl (unquoted_cleared w (length_of_getElem? hc))⟩
  | quotes hquote hc => exact ⟨p, .refl query p, Or.inr ((hw.quoted hquote).push hc)⟩
  | opens hquote hc hmem =>
    exact ⟨i, (hw.unquoted hquote).laid_token?, Or.inr (.opened w hc hmem)⟩
  | ends hquote hc hblank =>
    have hskip : Laid query i [] (i + 1) :=
      .gap (Nat.le_succ i) (gap_succ hc (isGapChar_of_blank hblank))
    have hlaid := (hw.unquoted hquote).laid_token?.append hskip
    rw [List.append_nil] at hlaid
    exact ⟨i + 1, hlaid, Or.inl (unquoted_cleared w (length_of_getElem? hc))⟩
  | single hquote hc =>
    have hi := length_of_getElem? hc
    have hsingle := (unquoted_cleared w (Nat.le_of_succ_le hi)).pushFrom (.self hc)
    exact ⟨i + 1, (hw.unquoted hquote).laid_token?.append hsingle.laid_token?,
      Or.inl (unquoted_cleared w hi)⟩
  | restarts isOperator hquote hc =>
    have hi := (hw.unquoted hquote).spells.le_length
    have hempty : { w.cleared with isOperator := isOperator }.Unquoted query i i :=
      ⟨rfl, .nil hi, fun h => absurd rfl h⟩
    exact ⟨i, (hw.unquoted hquote).laid_token?, Or.inl (hempty.pushFrom hc)⟩
  | continues hquote hc =>
    exact ⟨p, .refl query p, Or.inl ((hw.unquoted hquote).pushFrom hc)⟩
  | marks hquote hc =>
    have hunquoted := hw.unquoted hquote
    have hmarked : { w with inExpression := true }.Unquoted query p i :=
      ⟨hunquoted.quote, hunquoted.spells, hunquoted.place⟩
    exact ⟨p, .refl query p, Or.inl (hmarked.pushFrom (.self hc))⟩

/-- The end of the query ends the word, also in an open quote. -/
theorem Underway.laid_end (hw : Underway query w p query.toList.length) :
    ∃ r, query.toList.length ≤ r ∧
      Laid query p (scan w query.toList.length []).tokens r := by
  have htokens : (scan w query.toList.length []).tokens =
      if w.quote.isSome then [w.quotedToken query.toList.length] else w.token? := by
    rw [scan, tokens_prepend fun _ => rfl]
    exact List.append_nil _
  rw [htokens]
  rcases hw with hunquoted | hquoted
  · rw [hunquoted.quote, Option.isSome_none, if_neg Bool.false_ne_true]
    exact ⟨_, Nat.le_refl _, hunquoted.laid_token?⟩
  · obtain ⟨q, -, hq, -⟩ := hquoted.quote
    rw [hq, Option.isSome_some, if_pos rfl]
    exact ⟨_, Nat.le_succ _, hquoted.laid_quotedToken (gap_of_length_le (Nat.le_refl _) _)⟩

end Underway

/-! ## The beginning of the expression -/

/-- The word begins the expression with a marker. -/
structure Word.Marks (query : String) (w : Word) : Prop where
  inExpression : w.inExpression = true
  quote : w.quote = none
  text : ∃ c ∈ markerChars, query.toList[w.start]? = some c ∧ w.text.toList.head? = some c

section Marks

variable {query : String} {w : Word} {i j k : Nat} {c : Char} {s : Step}

/-- Markers have no capitals. -/
theorem lowerChar_of_marker (hc : c ∈ markerChars) : Text.lowerChar c = [c] := by
  simp only [markerChars, List.mem_cons, List.not_mem_nil, or_false] at hc
  rcases hc with rfl | rfl <;> decide

/-- A word that begins with a marker is not empty. -/
theorem Word.Marks.text_ne_empty (hw : w.Marks query) : w.text ≠ "" := by
  obtain ⟨c, -, -, hhead⟩ := hw.text
  intro htext
  rw [htext] at hhead
  cases hhead

/-- A word that begins with a marker becomes a token that does. -/
theorem Word.Marks.token? (hw : w.Marks query) :
    ∃ t, w.token? = [t] ∧ t.IsMarked query := by
  rw [Word.token?, if_neg (mt String.isEmpty_iff.1 hw.text_ne_empty)]
  exact ⟨_, rfl, rfl, hw.text⟩

theorem Word.Marks.pushFrom (hw : w.Marks query) (i : Nat) (c : Char) (k : Nat) :
    (w.pushFrom i c k).Marks query := by
  obtain ⟨d, hd, hplace, hhead⟩ := hw.text
  refine ⟨hw.inExpression, hw.quote, d, hd, ?_, ?_⟩
  · have hne : w.text.isEmpty = false := by
      simpa using hw.text_ne_empty
    rw [Word.pushFrom, hne, Bool.false_and, if_neg Bool.false_ne_true]
    exact hplace
  · rw [Word.pushFrom, String.toList_append, List.head?_append, hhead, Option.some_or]

/-- A word in front of the expression is followed by another one, or begins the expression. -/
theorem Takes.front_or_marks (h : Takes query w i s j) (hw : w.inExpression = false) :
    s.word.inExpression = false ∨ s.word.Marks query := by
  cases h with
  | closes | quotes | opens | ends | single | restarts | continues => exact Or.inl hw
  | @marks c hquote hc hmarker _ htext =>
    refine Or.inr ⟨rfl, hquote, c, hmarker, ?_, ?_⟩
    · rw [Word.push, Word.pushFrom, htext, hquote]
      exact hc
    · rw [Word.push, Word.pushFrom, htext, lowerChar_of_marker hmarker, String.empty_append,
        String.toList_ofList, List.head?_cons]

/-- A word that begins the expression goes on or becomes its first token. -/
theorem Takes.ended_or_marks (h : Takes query w i s j) (hw : w.Marks query) :
    (∃ t ts, s.ended = t :: ts ∧ t.IsMarked query) ∨ s.ended = [] ∧ s.word.Marks query := by
  obtain ⟨t, htoken, ht⟩ := hw.token?
  cases h with
  | closes hquote | quotes hquote =>
    rw [hw.quote] at hquote
    cases hquote
  | opens | ends | restarts => exact Or.inl ⟨t, [], htoken, ht⟩
  | single => exact Or.inl ⟨t, _, congrArg (· ++ _) htoken, ht⟩
  | continues => exact Or.inr ⟨rfl, hw.pushFrom _ _ _⟩
  | marks _ _ _ hfront =>
    rw [hw.inExpression] at hfront
    cases hfront

end Marks

/-! ## The whole query -/

/-- What the tokens are that follow after the word `w` at the place `i`. -/
structure Word.Leads (query : String) (w : Word) (i : Nat) (l : Lexed) : Prop where
  fulltext : w.inExpression = true → l.fulltext = []
  laid : ∀ p, Underway query w p i → ∃ r, query.toList.length ≤ r ∧ Laid query p l.tokens r
  marked : w.inExpression = false ∨ w.Marks query →
    ∀ t, l.expression.head? = some t → t.IsMarked query

section Query

variable {query : String} {w : Word} {i j : Nat} {s : Step} {l : Lexed}

/-- The expression goes on to the end of the query. -/
theorem Takes.inExpression (h : Takes query w i s j) (hw : w.inExpression = true) :
    s.word.inExpression = true := by
  cases h with
  | closes | quotes | opens | ends | single | restarts | continues => exact hw
  | marks => rfl

theorem Takes.marked (h : Takes query w i s j) (hl : s.word.Leads query j l)
    (hw : w.inExpression = false ∨ w.Marks query) :
    ∀ t, (prepend w.inExpression s.ended l).expression.head? = some t → t.IsMarked query := by
  rcases hw with hfront | hmarks
  · rw [hfront]
    exact hl.marked (h.front_or_marks hfront)
  · rw [hmarks.inExpression]
    rcases h.ended_or_marks hmarks with ⟨u, us, hended, hu⟩ | ⟨hended, hword⟩
    · intro t ht
      rw [hended] at ht
      rwa [← Option.some.inj ht]
    · rw [hended]
      exact hl.marked (Or.inr hword)

theorem Takes.leads (h : Takes query w i s j) (hl : s.word.Leads query j l) :
    w.Leads query i (prepend w.inExpression s.ended l) := by
  have hfulltext := fun hw => hl.fulltext (h.inExpression hw)
  refine ⟨fun hw => ?_, fun p hp => ?_, h.marked hl⟩
  · rw [hw]
    exact hfulltext hw
  · obtain ⟨r, hended, hword⟩ := h.laid hp
    obtain ⟨r', hr', hrest⟩ := hl.laid r hword
    rw [tokens_prepend hfulltext]
    exact ⟨r', hr', hended.append hrest⟩

theorem leads_end (query : String) (w : Word) :
    w.Leads query query.toList.length (scan w query.toList.length []) := by
  refine ⟨fun hw => ?_, fun p hp => hp.laid_end, fun hw t ht => ?_⟩
  · rw [scan, hw]
    rfl
  · rw [scan] at ht
    rcases hw with hfront | hmarks
    · rw [hfront] at ht
      cases ht
    · obtain ⟨u, htoken, hu⟩ := hmarks.token?
      rw [hmarks.inExpression, hmarks.quote, htoken] at ht
      rwa [← Option.some.inj ht]

/-- The tokens of a query are those that follow from its start. -/
theorem leads_lex (query : String) : ({} : Word).Leads query 0 (lex query) :=
  scan_induction (leads_end query) fun _ _ _ _ _ htakes hl => htakes.leads hl

/-- **The tokens of a query leave out nothing but blanks and quotes.** They stand in the query in
their order, those in front of the expression first, and the expression begins with a marker. -/
theorem lossless_lex (query : String) : (lex query).Lossless query := by
  have hleads := leads_lex query
  have hstart : Underway query {} 0 0 :=
    Or.inl ⟨rfl, .nil (Nat.zero_le _), fun h => absurd rfl h⟩
  obtain ⟨r, hr, hlaid⟩ := hleads.laid 0 hstart
  refine ⟨hlaid.fits, hlaid.ordered, fun i c hc => ?_, hleads.marked (Or.inl rfl)⟩
  exact hlaid.covered (Nat.zero_le i) (Nat.lt_of_lt_of_le (length_of_getElem? hc) hr) hc

end Query

end Zettel.Query
