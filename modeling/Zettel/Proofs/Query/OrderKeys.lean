import Zettel.Proofs.Query.Clauses
import Zettel.Proofs.Query.Escaped

/-!
# Commas between keys to order by

Between keys a comma is passed over, but only if it is a word of its own. Behind a name or a
direction without a blank it is part of this word: the name is then the name of a label that ends
with a comma, and the direction is no direction but one more such name. No fault tells of it.

Main statements: `clauses_items`, what keys and commas between blanks ask for, and `read_orderKeys`,
the same keys with blanks, with commas between blanks, and with commas behind words.
-/

namespace Zettel.Query

/-! ## Written keys -/

/-- The word for a direction. -/
def directionText (descending : Bool) : String := if descending then "desc" else "asc"

/-- A key to order by as it is written: a name, perhaps behind `note.`, and perhaps a direction. -/
structure WrittenKey where
  behindNote : Bool := false
  name : String
  /-- Whether the direction is descending, if there is one. -/
  direction : Option Bool := none
  deriving DecidableEq

/-- The words that mean something by themselves among keys. -/
def clauseWords : List String := ["orderby", "limit", "note", "asc", "desc", ",", "(", ")"]

namespace WrittenKey

/-- The key as it is written. -/
def text (k : WrittenKey) : String :=
  (if k.behindNote then "note." else "") ++ k.name ++
    k.direction.elim "" fun descending => " " ++ directionText descending

/-- What the key orders by. -/
def term (k : WrittenKey) : OrderTerm := ⟨.ofName (smallLetters k.name), k.direction.getD false⟩

/-- The name is an ordinary word, in small or capital letters, that means nothing by itself. -/
def IsNamed (k : WrittenKey) : Prop :=
  isOrdinaryText k.name = true ∧ smallLetters k.name ∉ clauseWords

instance : DecidablePred IsNamed := fun k =>
  inferInstanceAs (Decidable (isOrdinaryText k.name = true ∧ smallLetters k.name ∉ clauseWords))

/-- The texts of the tokens of a key. -/
def lexemes (k : WrittenKey) : List (String × Bool) :=
  (if k.behindNote then [("note", false), (".", false)] else []) ++ (smallLetters k.name, false) ::
    (k.direction.map fun descending => (directionText descending, false)).toList

end WrittenKey

/-- What stands between blanks among keys: a key, or a comma. -/
inductive OrderItem
  | key (k : WrittenKey)
  | comma

namespace OrderItem

/-- The item as it is written. -/
def text : OrderItem → String
  | key k => k.text
  | comma => ","

/-- The key of the item, if it is one. -/
def key? : OrderItem → Option WrittenKey
  | key k => some k
  | comma => none

/-- The texts of the tokens of an item. -/
def lexemes : OrderItem → List (String × Bool)
  | key k => k.lexemes
  | comma => [(",", false)]

end OrderItem

/-! ## Tokens -/

theorem isWordText_directionText (descending : Bool) :
    isWordText (directionText descending) = true := by
  cases descending <;> decide +kernel

section Lexing

variable {b : Bool} {k : WrittenKey} {i : OrderItem}

/-- The name and the dot in front of a property are two tokens. -/
theorem lexes_behindNote (behindNote : Bool) :
    Lexes true (if behindNote then "note." else "").toList
    (if behindNote then [("note", false), (".", false)] else []) := by
  cases behindNote with
  | false => exact .nil
  | true => exact lexes_word_structural (s := "note") (c := '.') (by decide +kernel) (by decide)

/-- A key is read as its tokens, with a blank behind it and at the end of the query. -/
theorem WrittenKey.lexes (hk : k.IsNamed) : Lexes true (k.text.toList ++ [' ']) k.lexemes ∧
    LexesToEnd true k.text.toList k.lexemes := by
  obtain ⟨behindNote, name, direction⟩ := k
  have hfront := lexes_behindNote behindNote
  have hname := lexes_ordinary (b := true) hk.1
  simp only [text, lexemes, String.toList_append, List.append_assoc]
  cases direction with
  | none =>
    exact ⟨by simpa using hfront.append hname,
      by simpa using hfront.toEnd (lexesToEnd_ordinary hk.1)⟩
  | some descending =>
    have hword := isWordText_directionText descending
    have hdirection := lexes_word (b := true) hword
    have hlast := lexesToEnd_ordinary (b := true) (isOrdinaryText_of_isWordText hword)
    rw [smallLetters_of_isWordText hword] at hlast
    exact ⟨by simpa using hfront.append (hname.append hdirection),
      by simpa using hfront.toEnd (hname.toEnd hlast)⟩

theorem OrderItem.lexes (hi : ∀ k, i.key? = some k → k.IsNamed) :
    Lexes true (i.text.toList ++ [' ']) i.lexemes ∧ LexesToEnd true i.text.toList i.lexemes := by
  cases i with
  | key k => exact WrittenKey.lexes (hi k rfl)
  | comma =>
    have hlast := lexesToEnd_ordinary (s := ",") (b := true) (by decide +kernel)
    exact ⟨lexes_word (s := ",") (by decide +kernel), by
      rwa [show smallLetters "," = "," by decide +kernel] at hlast⟩

/-- Items with blanks between them are read as their tokens. -/
theorem lexesToEnd_items {items : List OrderItem} (hne : items ≠ [])
    (hitems : ∀ k ∈ items.filterMap OrderItem.key?, k.IsNamed) :
    LexesToEnd true (" ".intercalate (items.map OrderItem.text)).toList
      (items.flatMap OrderItem.lexemes) := by
  have hlexes : ∀ i ∈ items, Lexes true (i.text.toList ++ [' ']) i.lexemes ∧
      LexesToEnd true i.text.toList i.lexemes := fun i hi =>
    OrderItem.lexes fun k hk => hitems k (List.mem_filterMap.2 ⟨i, hi, hk⟩)
  clear hitems
  induction items with
  | nil => exact absurd rfl hne
  | cons i items ih =>
    rw [List.forall_mem_cons] at hlexes
    cases items with
    | nil =>
      rw [List.map_singleton, String.intercalate_singleton, List.flatMap_singleton]
      exact hlexes.1.2
    | cons j items =>
      have hrest := ih (by simp) hlexes.2
      rw [List.map_cons] at hrest
      rw [List.map_cons, List.map_cons, String.intercalate_cons_cons, List.flatMap_cons]
      simpa [String.toList_append] using hlexes.1.1.toEnd hrest

end Lexing

/-! ## Clauses -/

section Reading

variable {ts us : List Token} {k : WrittenKey}

theorem word?_of_lexeme {t : Token} {s : String} (h : t.lexeme = (s, false)) :
    (Tree.token t).word? = some s := by
  obtain ⟨rfl, hquotes⟩ := Prod.mk.inj h
  simp [Tree.word?, hquotes]

theorem isWord_of_lexeme {t : Token} {s : String} (h : t.lexeme = (s, false)) (s' : String) :
    (Tree.token t).isWord s' = decide (s = s') := by
  obtain ⟨rfl, hquotes⟩ := Prod.mk.inj h
  simp [Tree.isWord, Token.isWord, hquotes]

/-- The first of the tokens is no direction. -/
def BeginsUndirected (ls : List (String × Bool)) : Prop :=
  ∀ l ∈ ls.head?, l.2 = false ∧ l.1 ≠ "asc" ∧ l.1 ≠ "desc"

theorem directed_of_beginsUndirected (name : String)
    (h : BeginsUndirected (us.map Token.lexeme)) :
    directed name (us.map .token) = ⟨some ⟨.ofName name, false⟩, us.map .token, {}⟩ := by
  cases us with
  | nil => rfl
  | cons u us =>
    obtain ⟨hquotes, hasc, hdesc⟩ := h u.lexeme (by simp)
    have hword := isWord_of_lexeme (t := u) (s := u.text) (by rw [← hquotes]; rfl)
    have hne : ¬ u.text = "desc" ∧ ¬ u.text = "asc" := ⟨hdesc, hasc⟩
    simp [directed, hword, hne.1, hne.2]

/-- A word for a direction belongs to the key in front of it. -/
theorem directed_of_direction (name : String) {t : Token} {descending : Bool}
    (ht : t.lexeme = (directionText descending, false)) (rest : List Tree) :
    directed name (.token t :: rest) = ⟨some ⟨.ofName name, descending⟩, rest, {}⟩ := by
  have hword := isWord_of_lexeme ht
  cases descending <;> simp [directed, hword, directionText]

/-- A name and the direction behind it, if there is one, make up a key. -/
theorem directed_written (name : String) (direction : Option Bool)
    (hts : ts.map Token.lexeme =
      (direction.map fun descending => (directionText descending, false)).toList)
    (hus : BeginsUndirected (us.map Token.lexeme)) :
    directed name ((ts ++ us).map .token) =
      ⟨some ⟨.ofName name, direction.getD false⟩, us.map .token, {}⟩ := by
  cases direction with
  | none =>
    obtain rfl := List.map_eq_nil_iff.1 hts
    exact directed_of_beginsUndirected name hus
  | some descending =>
    obtain ⟨t, rfl, ht⟩ := List.map_eq_singleton_iff.1 hts
    exact directed_of_direction name ht _

/-- What means nothing by itself is none of these words. -/
theorem not_mem_clauseWords {s : String} (hs : s ∉ clauseWords) :
    s ≠ "orderby" ∧ s ≠ "limit" ∧ s ≠ "note" ∧ s ≠ "asc" ∧ s ≠ "desc" ∧ s ≠ "," ∧ s ≠ "(" ∧
      s ≠ ")" := by
  simpa [clauseWords] using hs

/-- A key is read from its tokens, and what follows is read behind it. -/
theorem clauses_written (hk : k.IsNamed) (hts : ts.map Token.lexeme = k.lexemes)
    (hus : BeginsUndirected (us.map Token.lexeme)) : clauses true ((ts ++ us).map .token) =
      (clauses true (us.map .token)).ordered (some k.term) := by
  obtain ⟨behindNote, name, direction⟩ := k
  obtain ⟨horderby, hlimit, hnote, -, -, hcomma, -⟩ := not_mem_clauseWords hk.2
  cases behindNote with
  | false =>
    obtain ⟨t, ds, rfl, ht, hds⟩ := List.map_eq_cons_iff.1 hts
    have hterm : orderTerm (smallLetters name) ((ds ++ us).map .token) = ⟨some
        ⟨.ofName (smallLetters name), direction.getD false⟩, us.map .token, {}⟩ := by
      rw [orderTerm.eq_def, if_neg hnote]
      exact directed_written _ direction hds hus
    rw [List.cons_append, List.map_cons,
      clauses_key (word?_of_lexeme ht) horderby hlimit hcomma, hterm]
    rfl
  | true =>
    obtain ⟨n, us', rfl, hn, hrest⟩ := List.map_eq_cons_iff.1 hts
    obtain ⟨dot, us'', rfl, hdot, hrest⟩ := List.map_eq_cons_iff.1 hrest
    obtain ⟨t, ds, rfl, ht, hds⟩ := List.map_eq_cons_iff.1 hrest
    have hterm : orderTerm "note" ((dot :: t :: ds ++ us).map .token) = ⟨some
        ⟨.ofName (smallLetters name), direction.getD false⟩, us.map .token, {}⟩ := by
      have hisDot : (Tree.token dot).isWord "." = true := by
        rw [isWord_of_lexeme hdot]
        rfl
      have hword := word?_of_lexeme ht
      simp only [orderTerm, List.cons_append, List.map_cons, hisDot, if_true, hword]
      exact directed_written _ direction hds hus
    rw [List.cons_append, List.map_cons,
      clauses_key (word?_of_lexeme hn) (by decide) (by decide) (by decide), hterm]
    rfl

theorem beginsUndirected_lexemes {items : List OrderItem}
    (hitems : ∀ k ∈ items.filterMap OrderItem.key?, k.IsNamed) :
    BeginsUndirected (items.flatMap OrderItem.lexemes) := by
  cases items with
  | nil => exact nofun
  | cons i items =>
    cases i with
    | comma =>
      intro l hl
      obtain rfl := Option.some.inj hl
      decide
    | key k =>
      obtain ⟨behindNote, name, direction⟩ := k
      obtain ⟨-, -, -, hasc, hdesc, -⟩ :=
        not_mem_clauseWords (hitems _ List.mem_cons_self).2
      intro l hl
      cases behindNote with
      | false =>
        obtain rfl := Option.some.inj hl
        exact ⟨rfl, hasc, hdesc⟩
      | true =>
        obtain rfl := Option.some.inj hl
        decide

/-- **Keys are read in their order, without a fault**, and commas between them are passed over. -/
theorem clauses_items {items : List OrderItem}
    (hitems : ∀ k ∈ items.filterMap OrderItem.key?, k.IsNamed)
    (hts : ts.map Token.lexeme = items.flatMap OrderItem.lexemes) :
    clauses true (ts.map .token) =
      ⟨(items.filterMap OrderItem.key?).map WrittenKey.term, none, {}⟩ := by
  induction items generalizing ts with
  | nil =>
    obtain rfl := List.map_eq_nil_iff.1 hts
    exact clauses_nil true
  | cons i items ih =>
    have hrest : ∀ k ∈ items.filterMap OrderItem.key?, k.IsNamed := fun k hk => by
      obtain ⟨j, hj, hk⟩ := List.mem_filterMap.1 hk
      exact hitems k (List.mem_filterMap.2 ⟨j, List.mem_cons_of_mem i hj, hk⟩)
    rw [List.flatMap_cons] at hts
    obtain ⟨us, vs, rfl, hus, hvs⟩ := List.map_eq_append_iff.1 hts
    cases i with
    | comma =>
      obtain ⟨t, rfl, ht⟩ := List.map_eq_singleton_iff.1 hus
      rw [List.cons_append, List.map_cons, clauses_comma (word?_of_lexeme ht)]
      exact ih hrest hvs
    | key k =>
      have hnext : BeginsUndirected (vs.map Token.lexeme) := by
        rw [hvs]
        exact beginsUndirected_lexemes hrest
      rw [clauses_written (hitems k List.mem_cons_self) hus hnext, ih hrest hvs]
      rfl

end Reading

/-! ## Commas behind words -/

namespace WrittenKey

/-- What a key with a comma behind its last word is read as. -/
def withComma (k : WrittenKey) : List WrittenKey :=
  match k.direction with
  | none => [{ k with name := k.name ++ "," }]
  | some descending =>
    [{ k with direction := none }, { name := directionText descending ++ "," }]

/-- What keys with commas behind all but the last one are read as. -/
def withCommas : List WrittenKey → List WrittenKey
  | [] => []
  | [k] => [k]
  | k :: k' :: ks => k.withComma ++ withCommas (k' :: ks)

/-- A key that is read with its comma is written as the key and a comma. -/
theorem text_withComma (k : WrittenKey) :
    " ".intercalate (k.withComma.map text) = k.text ++ "," := by
  obtain ⟨behindNote, name, direction⟩ := k
  cases direction with
  | none => simp [withComma, text, String.append_assoc]
  | some descending => simp [withComma, text, String.append_assoc]

theorem withComma_ne_nil (k : WrittenKey) : k.withComma ≠ [] := by
  obtain ⟨behindNote, name, direction⟩ := k
  cases direction <;> simp [withComma]

theorem withCommas_ne_nil {ks : List WrittenKey} (h : ks ≠ []) : withCommas ks ≠ [] := by
  match ks with
  | [k] => simp [withCommas]
  | k :: k' :: ks => simp [withCommas, withComma_ne_nil]

/-- Keys with commas behind them are written as these other keys with blanks between them. -/
theorem text_withCommas (ks : List WrittenKey) :
    ", ".intercalate (ks.map text) = " ".intercalate ((withCommas ks).map text) := by
  induction ks with
  | nil => rfl
  | cons k ks ih =>
    cases ks with
    | nil => rfl
    | cons k' ks =>
      have hcomma : ", " = "," ++ " " := rfl
      have hne : (withCommas (k' :: ks)).map text ≠ [] := by simp [withCommas_ne_nil]
      rw [List.map_cons, List.map_cons, String.intercalate_cons_cons, ← List.map_cons, ih,
        withCommas, List.map_append,
        String.intercalate_append_of_ne_nil (by simp [withComma_ne_nil]) hne, text_withComma,
        hcomma]
      simp only [String.append_assoc]

/-- Small letters are made part by part. -/
theorem smallLetters_append (s t : String) :
    smallLetters (s ++ t) = smallLetters s ++ smallLetters t := by
  simp [smallLetters, String.ofList_append]

theorem IsNamed.withComma {k : WrittenKey} (h : k.IsNamed) : ∀ k' ∈ k.withComma, k'.IsNamed := by
  obtain ⟨behindNote, name, direction⟩ := k
  cases direction with
  | none =>
    refine List.forall_mem_singleton.2 ⟨?_, ?_⟩
    · have hchars := h.1
      have hcomma : isOrdinaryChar ',' = true := by decide +kernel
      simp only [isOrdinaryText, Bool.and_eq_true, List.all_eq_true] at hchars
      rw [isOrdinaryText, Bool.and_eq_true, List.all_eq_true]
      refine ⟨by simp, fun c hc => ?_⟩
      rw [String.toList_append] at hc
      rcases List.mem_append.1 hc with hc | hc
      · exact hchars.2 c hc
      · rwa [List.mem_singleton.1 hc]
    · -- the words among keys do not end with a comma, but for the comma itself
      show smallLetters (name ++ ",") ∉ clauseWords
      rw [smallLetters_append, show smallLetters "," = "," by decide +kernel]
      intro hmem
      have hlast : ∀ s ∈ clauseWords, s.toList.getLast? = some ',' → s = "," := by decide
      have hcomma := hlast _ hmem (by simp)
      exact smallLetters_ne_empty h.1 (by simpa using hcomma)
  | some descending =>
    refine List.forall_mem_cons.2 ⟨h, List.forall_mem_singleton.2 ?_⟩
    cases descending <;> decide +kernel

theorem isNamed_withCommas {ks : List WrittenKey} (h : ∀ k ∈ ks, k.IsNamed) :
    ∀ k ∈ withCommas ks, k.IsNamed := by
  induction ks with
  | nil => exact h
  | cons k ks ih =>
    cases ks with
    | nil => exact h
    | cons k' ks =>
      rw [List.forall_mem_cons] at h
      rw [withCommas, List.forall_mem_append]
      exact ⟨h.1.withComma, ih h.2⟩

theorem length_le_length_withCommas (ks : List WrittenKey) :
    ks.length ≤ (withCommas ks).length := by
  induction ks with
  | nil => exact Nat.le_refl 0
  | cons k ks ih =>
    cases ks with
    | nil => exact Nat.le_refl 1
    | cons k' ks =>
      have hpos := List.length_pos_iff.2 k.withComma_ne_nil
      rw [withCommas, List.length_append, List.length_cons]
      omega

/-- A name with a comma behind it orders by something else. -/
theorem ofName_append_comma_ne (s : String) : OrderKey.ofName (s ++ ",") ≠ .ofName s := by
  have hnone : Property.ofName? (s ++ ",") = none := by
    rw [Option.eq_none_iff_forall_ne_some]
    intro p hp
    have hname := congrArg (·.toList.getLast?) (Property.name_of_ofName? hp)
    have hlast : ∀ p ∈ Property.all, p.name.toList.getLast? ≠ some ',' := by decide
    exact hlast p (by cases p <;> decide) (by simpa using hname)
  unfold OrderKey.ofName
  rw [hnone]
  cases Property.ofName? s with
  | some p => exact nofun
  | none =>
    intro h
    have hlists := String.ofList_injective (OrderKey.label.inj h)
    rw [String.toList_append, show ",".toList = [','] from rfl, List.dropWhile_append] at hlists
    have hlength := congrArg List.length hlists
    split_ifs at hlength with hempty
    · rw [List.isEmpty_iff] at hempty
      rw [hempty] at hlength
      exact absurd hlength (by decide)
    · rw [List.length_append, List.length_singleton] at hlength
      omega

/-- With commas behind them two keys or more order by something else. -/
theorem term_withCommas_iff {ks : List WrittenKey} (hne : ks ≠ []) :
    (withCommas ks).map term = ks.map term ↔ ks.length = 1 := by
  match ks with
  | [k] => exact iff_of_true rfl rfl
  | k :: k' :: ks =>
    refine iff_of_false (fun h => ?_) (by simp)
    obtain ⟨behindNote, name, direction⟩ := k
    cases direction with
    | none =>
      simp only [withCommas, withComma, List.cons_append, List.map_cons, List.cons.injEq, term,
        OrderTerm.mk.injEq] at h
      obtain ⟨⟨hkey, -⟩, -⟩ := h
      rw [smallLetters_append, show smallLetters "," = "," by decide +kernel] at hkey
      exact ofName_append_comma_ne _ hkey
    | some descending =>
      -- the direction is one more key
      have hlength := congrArg List.length h
      have hmore := length_le_length_withCommas (k' :: ks)
      simp only [withCommas, withComma, List.length_map, List.length_append, List.length_cons,
        List.length_nil] at hlength hmore
      omega

end WrittenKey

/-! ## Queries with keys -/

section Queries

variable {query : String} {o : ReadOptions} {e : Expression} {keys : List WrittenKey}

/-- The query with keys at its end, which `separator` stands between. -/
def orderedBy (query separator : String) (keys : List WrittenKey) : String :=
  query ++ " orderby " ++ separator.intercalate (keys.map WrittenKey.text)

theorem ne_paren_of_mem_lexemes {items : List OrderItem}
    (hitems : ∀ k ∈ items.filterMap OrderItem.key?, k.IsNamed) :
    ∀ l ∈ items.flatMap OrderItem.lexemes, l.1 ≠ "(" ∧ l.1 ≠ ")" := by
  intro l hl
  obtain ⟨i, hi, hl⟩ := List.mem_flatMap.1 hl
  cases i with
  | comma =>
    obtain rfl := List.mem_singleton.1 hl
    decide
  | key k =>
    have hname := not_mem_clauseWords (hitems k (List.mem_filterMap.2 ⟨_, hi, rfl⟩)).2
    have hdirection : ∀ descending, directionText descending ≠ "(" ∧
        directionText descending ≠ ")" := by decide
    obtain ⟨behindNote, name, direction⟩ := k
    rcases List.mem_append.1 hl with hl | hl
    · cases behindNote with
      | false => cases hl
      | true =>
        have hfront : ∀ l ∈ [("note", false), (".", false)], l.1 ≠ "(" ∧ l.1 ≠ ")" := by decide
        exact hfront l hl
    · rcases List.mem_cons.1 hl with rfl | hl
      · exact hname.2.2.2.2.2.2
      · obtain ⟨descending, -, rfl⟩ := Option.map_eq_some_iff.1 (Option.mem_toList.1 hl)
        exact hdirection descending

/-- Commas between keys are items of their own. -/
theorem text_intersperse (ks : List WrittenKey) : " , ".intercalate (ks.map WrittenKey.text) =
    " ".intercalate (((ks.map OrderItem.key).intersperse .comma).map OrderItem.text) := by
  induction ks with
  | nil => rfl
  | cons k ks ih =>
    cases ks with
    | nil => rfl
    | cons k' ks =>
      have hcomma : " , " = " " ++ ("," ++ " ") := rfl
      have hne : ((OrderItem.key k' :: ks.map OrderItem.key).intersperse .comma).map
          OrderItem.text ≠ [] := by
        cases ks <;> simp
      simp only [List.map_cons] at ih ⊢
      rw [String.intercalate_cons_cons, ih, List.intersperse_cons_cons, List.map_cons,
        List.map_cons, String.intercalate_cons_cons, String.intercalate_cons_of_ne_nil hne]
      simp only [OrderItem.text, hcomma, String.append_assoc]

theorem key?_intersperse (ks : List WrittenKey) :
    ((ks.map OrderItem.key).intersperse .comma).filterMap OrderItem.key? = ks := by
  induction ks with
  | nil => rfl
  | cons k ks ih =>
    cases ks with
    | nil => rfl
    | cons k' ks =>
      simp only [List.map_cons] at ih
      simp only [List.map_cons, List.intersperse_cons_cons, List.filterMap_cons, OrderItem.key?, ih]

/-- Keys and commas between blanks at the end of a query order by the keys. -/
theorem exists_read_items (hopen : EndsOpen query)
    (hclean : (Query.read o query).diagnostic? = none)
    (he : (Query.read o query).expression = some e) :
    ∃ (c : Expression) (order : List OrderTerm) (limit : Option Nat),
      e = c.withClauses order limit ∧
      ∀ items : List OrderItem, (∀ k ∈ items.filterMap OrderItem.key?, k.IsNamed) →
        items.filterMap OrderItem.key? ≠ [] →
        let q := Query.read o (query ++ " orderby " ++ " ".intercalate (items.map OrderItem.text))
        q.diagnostic? = none ∧ q.expression = some (.orderByAndLimit c
          (order ++ (items.filterMap OrderItem.key?).map WrittenKey.term) limit) := by
  obtain ⟨condition, order, limit, -, hplain, happend⟩ := exists_read_append_clauses hopen hclean
  rw [he] at hplain
  obtain ⟨c, rfl, hc⟩ := Option.map_eq_some_iff.1 hplain.symm
  refine ⟨c, order, limit, hc.symm, fun items hitems hne => ?_⟩
  have hsome : items ≠ [] := by
    rintro rfl
    exact hne rfl
  have hlexes := (lexes_word (s := "orderby") (by decide +kernel)).toEnd
    (lexesToEnd_items hsome hitems)
  obtain ⟨ts, hts, hexpression, hfaults⟩ :=
    happend (by decide) hlexes (ne_paren_of_mem_lexemes hitems)
  obtain ⟨t, us, rfl, ht, hus⟩ := List.map_eq_cons_iff.1 hts
  have hending : clauses false ((t :: us).map .token) =
      ⟨(items.filterMap OrderItem.key?).map WrittenKey.term, none, {}⟩ := by
    rw [List.map_cons, clauses_orderby (word?_of_lexeme ht), clauses_items hitems hus]
  have hquery : query ++ " orderby " ++ " ".intercalate (items.map OrderItem.text) =
      query ++ " " ++ String.ofList ("orderby".toList ++ [' '] ++
        (" ".intercalate (items.map OrderItem.text)).toList) := by
    have hword : " orderby " = " " ++ ("orderby" ++ " ") := rfl
    rw [hword]
    simp only [String.append_assoc, String.ofList_append, String.ofList_toList]
  rw [hending] at hexpression hfaults
  rw [← hquery] at hexpression hfaults
  constructor
  · rw [ReadQuery.diagnostic?, Report.diagnostic?, hfaults]
    rfl
  · rw [hexpression]
    simp [Expression.withClauses, hne]

/-- What is read with keys at the end of a query, with each of the separators. -/
theorem exists_read_orderedBy (hopen : EndsOpen query)
    (hclean : (Query.read o query).diagnostic? = none)
    (he : (Query.read o query).expression = some e) :
    ∃ (c : Expression) (order : List OrderTerm) (limit : Option Nat),
      e = c.withClauses order limit ∧
      ∀ keys : List WrittenKey, keys ≠ [] → (∀ k ∈ keys, k.IsNamed) →
        let spaced := Query.read o (orderedBy query " " keys)
        let parted := Query.read o (orderedBy query " , " keys)
        let glued := Query.read o (orderedBy query ", " keys)
        (spaced.diagnostic? = none ∧ spaced.expression =
          some (.orderByAndLimit c (order ++ keys.map WrittenKey.term) limit)) ∧
        (parted.diagnostic? = none ∧ parted.expression =
          some (.orderByAndLimit c (order ++ keys.map WrittenKey.term) limit)) ∧
        glued.diagnostic? = none ∧ glued.expression = some (.orderByAndLimit c
          (order ++ (WrittenKey.withCommas keys).map WrittenKey.term) limit) := by
  obtain ⟨c, order, limit, hc, hread⟩ := exists_read_items hopen hclean he
  refine ⟨c, order, limit, hc, fun keys hne hkeys => ?_⟩
  have hkey? : ∀ ks : List WrittenKey, (ks.map OrderItem.key).filterMap OrderItem.key? = ks := by
    simp [List.filterMap_map, Function.comp_def, OrderItem.key?]
  have htext : ∀ ks : List WrittenKey, (ks.map OrderItem.key).map OrderItem.text =
      ks.map WrittenKey.text := by
    simp [Function.comp_def, OrderItem.text]
  have hspaced := hread (keys.map .key) (by rwa [hkey?]) (by rwa [hkey?])
  have hparted := hread ((keys.map .key).intersperse .comma) (by rwa [key?_intersperse])
    (by rwa [key?_intersperse])
  have hglued := hread ((WrittenKey.withCommas keys).map .key)
    (by rw [hkey?]; exact WrittenKey.isNamed_withCommas hkeys)
    (by rw [hkey?]; exact WrittenKey.withCommas_ne_nil hne)
  rw [hkey?, htext] at hspaced hglued
  rw [key?_intersperse, ← text_intersperse] at hparted
  rw [← WrittenKey.text_withCommas] at hglued
  exact ⟨hspaced, hparted, hglued⟩

/-- **Blanks between keys, and commas between blanks, separate them.** A comma behind a word does
not: the query is read without a fault all the same, but orders by something else, unless there is
only one key. -/
theorem read_orderKeys (hopen : EndsOpen query)
    (hclean : (Query.read o query).diagnostic? = none)
    (he : (Query.read o query).expression = some e) (hne : keys ≠ [])
    (hkeys : ∀ k ∈ keys, k.IsNamed) :
    let spaced := Query.read o (orderedBy query " " keys)
    let parted := Query.read o (orderedBy query " , " keys)
    let glued := Query.read o (orderedBy query ", " keys)
    ∃ (c : Expression) (order : List OrderTerm) (limit : Option Nat),
      e = c.withClauses order limit ∧
      spaced.expression = some (.orderByAndLimit c (order ++ keys.map WrittenKey.term) limit) ∧
      parted.expression = spaced.expression ∧
      glued.expression = some (.orderByAndLimit c
        (order ++ (WrittenKey.withCommas keys).map WrittenKey.term) limit) ∧
      (glued.expression = spaced.expression ↔ keys.length = 1) ∧
      spaced.diagnostic? = none ∧ parted.diagnostic? = none ∧ glued.diagnostic? = none := by
  intro spaced parted glued
  obtain ⟨c, order, limit, hc, hread⟩ := exists_read_orderedBy hopen hclean he
  obtain ⟨⟨hspaced, hexpression⟩, ⟨hparted, hsame⟩, hglued, hother⟩ := hread keys hne hkeys
  refine ⟨c, order, limit, hc, hexpression, hsame.trans hexpression.symm, hother, ?_, hspaced,
    hparted, hglued⟩
  rw [← WrittenKey.term_withCommas_iff hne, hexpression, hother]
  simp only [Option.some.injEq, Expression.orderByAndLimit.injEq, true_and, and_true,
    List.append_cancel_left_eq]

/-- A label has a value. -/
def labelIsX : Expression := .attributeCompare .label "a" ⟨.equal, "x", none⟩

/-- The condition of the example is read without a fault. -/
theorem read_labelIsX : (Query.read {} "#a = x").expression = some labelIsX ∧
    (Query.read {} "#a = x").diagnostic? = none := by
  have hlex : lex "#a = x" =
      ⟨[], [⟨"#a", false, 0, 1⟩, ⟨"=", false, 3, 3⟩, ⟨"x", false, 5, 5⟩]⟩ := by decide +kernel
  exact read_value {} (by decide +kernel) (by decide) hlex rfl

/-- Two keys, of which the second has all that a key can have. -/
def titleKeys : List WrittenKey :=
  [{ name := "title" }, { behindNote := true, name := "noteId", direction := some true }]

theorem read_orderKeys_titleKeys :
    orderedBy "#a = x" " , " titleKeys = "#a = x orderby title , note.noteId desc" ∧
    (Query.read {} (orderedBy "#a = x" " , " titleKeys)).expression =
      (Query.read {} (orderedBy "#a = x" " " titleKeys)).expression ∧
    (Query.read {} (orderedBy "#a = x" " " titleKeys)).diagnostic? = none := by
  have hopen : EndsOpen "#a = x" := by decide +kernel
  have hne : titleKeys ≠ [] := by decide
  obtain ⟨c, order, limit, -, -, hparted, -, -, hspaced, -, -⟩ :=
    read_orderKeys hopen read_labelIsX.2 read_labelIsX.1 hne (by decide +kernel)
  exact ⟨by decide, hparted, hspaced⟩

/-- With a comma behind the first name the order is that of a label whose name ends with it. -/
theorem lost_titleKeys :
    orderedBy "#a = x" ", " titleKeys = "#a = x orderby title, note.noteId desc" ∧
    (Query.read {} (orderedBy "#a = x" ", " titleKeys)).expression = some (.orderByAndLimit labelIsX
      [⟨.label "title,", false⟩, ⟨.property .noteId, true⟩] none) ∧
    (Query.read {} (orderedBy "#a = x" " " titleKeys)).expression = some (.orderByAndLimit labelIsX
      [⟨.property .title, false⟩, ⟨.property .noteId, true⟩] none) := by
  have hopen : EndsOpen "#a = x" := by decide +kernel
  obtain ⟨c, order, limit, hc, hread⟩ :=
    exists_read_orderedBy hopen read_labelIsX.2 read_labelIsX.1
  have hplain : c = labelIsX ∧ order = [] ∧ limit = none := by
    rw [Expression.withClauses] at hc
    split_ifs at hc with hnone
    · simpa [hc] using hnone
    · cases hc
  obtain ⟨rfl, rfl, rfl⟩ := hplain
  obtain ⟨⟨-, hspaced⟩, -, -, hglued⟩ := hread titleKeys (by decide) (by decide +kernel)
  have hterms : titleKeys.map WrittenKey.term =
      [⟨.property .title, false⟩, ⟨.property .noteId, true⟩] := by decide +kernel
  have hlost : (WrittenKey.withCommas titleKeys).map WrittenKey.term =
      [⟨.label "title,", false⟩, ⟨.property .noteId, true⟩] := by decide +kernel
  rw [hterms] at hspaced
  rw [hlost] at hglued
  exact ⟨by decide, hglued, hspaced⟩

end Queries

end Zettel.Query
