import Zettel.Proofs.Query.Conditions
import Zettel.Proofs.Search.Pointwise
import Zettel.Query.Read

/-!
# Order and limit at the end of a query

Conditions are read in front of the first word of a clause, and clauses after it. So nothing inside
a query orders or limits, and clauses that are put at its end are read after those that are there.

Main statements: `isCondition_conditionOf`, only the end of a query orders and limits,
`exists_read_append_clauses`, what clauses at the end of a query add to it, and
`exists_read_append`, what a limit there changes.
-/

namespace Zettel.Query

/-! ## Conditions -/

namespace Expression

/-- Nothing in the expression is put in order or cut down. -/
def IsCondition (e : Expression) : Prop := ∀ test, e.anyOrdering test = false

/-- The expression of a query with the condition `e` and clauses at its end. -/
def withClauses (e : Expression) (order : List OrderTerm) (limit : Option Nat) : Expression :=
  if order.isEmpty && limit.isNone then e else .orderByAndLimit e order limit

theorem IsCondition.anyOrdering_withClauses {e : Expression} (h : e.IsCondition)
    {test : List OrderTerm → Option Nat → Bool} (htest : test [] none = false)
    (order : List OrderTerm) (limit : Option Nat) :
    (e.withClauses order limit).anyOrdering test = test order limit := by
  rw [withClauses]
  split_ifs with hnone
  · rw [Bool.and_eq_true, List.isEmpty_iff, Option.isNone_iff_eq_none] at hnone
    rw [h, hnone.1, hnone.2, htest]
  · rw [anyOrdering, h, Bool.or_false]

theorem IsCondition.hasLimit_withClauses {e : Expression} (h : e.IsCondition)
    (order : List OrderTerm) (limit : Option Nat) :
    (e.withClauses order limit).hasLimit = limit.isSome :=
  h.anyOrdering_withClauses rfl order limit

theorem IsCondition.hasOrder_withClauses {e : Expression} (h : e.IsCondition)
    (order : List OrderTerm) (limit : Option Nat) :
    (e.withClauses order limit).hasOrder = !order.isEmpty :=
  h.anyOrdering_withClauses rfl order limit

theorem IsCondition.eq_of_withClauses {e e' : Expression} {order order' : List OrderTerm}
    {limit limit' : Option Nat} (h : e.IsCondition)
    (heq : e.withClauses order limit = .orderByAndLimit e' order' limit') :
    e = e' ∧ order = order' := by
  rw [withClauses] at heq
  split_ifs at heq
  · have hnone := h fun _ _ => true
    rw [heq, anyOrdering, Bool.true_or] at hnone
    cases hnone
  · obtain ⟨rfl, rfl, -⟩ := Expression.orderByAndLimit.inj heq
    exact ⟨rfl, rfl⟩

/-- Whatever conditions are put together, nothing is put in order by that. -/
theorem isClosed_isCondition : IsClosed IsCondition where
  allOf h test := anyOrderingOf_eq_false.2 fun e he => h e he test
  anyOf h test := anyOrderingOf_eq_false.2 fun e he => h e he test
  fulltext _ _ := rfl
  noteContent _ _ _ := rfl
  protectedContent _ _ _ := rfl
  attributeExists _ _ _ _ := rfl
  attributeCompare _ _ _ _ := rfl
  propertyComparison _ _ _ := rfl
  relationWhere _ _ h test := h test
  descendantOf h test := h test
  childOf h test := h test
  parentOf h test := h test

end Expression

open Expression Lexed

/-- The clauses at the end of a query. -/
def clausesOf (trees : List Tree) : Clauses :=
  clauses false (trees.dropWhile fun t => !t.word?.any isClauseWord)

theorem expression_readTrees (o : ReadOptions) (words : List Token) (trees : List Tree) :
    (readTrees o words trees).expression = (conditionOf o words trees).map
      (·.withClauses (clausesOf trees).order (clausesOf trees).limit) := rfl

/-- **Only the end of a query orders and limits.** -/
theorem isCondition_conditionOf {o : ReadOptions} {words : List Token} {trees : List Tree}
    {e : Expression} (he : conditionOf o words trees = some e) : e.IsCondition :=
  all_conditionOf isClosed_isCondition (Or.inl fun _ h test => h test) he

/-! ## Clauses at the end -/

/-- The word that is being read behind some characters, unless they end with a backslash that has
nothing to escape. -/
def wordAfter (w : Word) (i : Nat) : List Char → Option Word
  | [] => some w
  | ['\\'] => none
  | '\\' :: c :: rest => wordAfter (Step.escaped w c i).word (i + 2) rest
  | c :: rest => wordAfter (Step.next w c i).word (i + 1) rest

theorem exists_reads_of_wordAfter {w w' : Word} {i : Nat} {cs : List Char}
    (h : wordAfter w i cs = some w') : ∃ l, Reads w i cs l w' := by
  fun_induction wordAfter w i cs with
  | case1 w i =>
    obtain rfl := Option.some.inj h
    exact ⟨_, .nil w i⟩
  | case2 => cases h
  | case3 w i c rest ih =>
    obtain ⟨l, hreads⟩ := ih h
    exact ⟨_, .escaped hreads⟩
  | case4 w i c rest hends hescapes ih =>
    obtain ⟨l, hreads⟩ := ih h
    refine ⟨_, .next ?_ hreads⟩
    rintro rfl
    cases rest with
    | nil => exact hends rfl rfl
    | cons c rest => exact hescapes c rest rfl rfl

/-- A query that can go on: it ends in its expression, with no quote open and no backslash that has
nothing to escape. -/
def EndsOpen (query : String) : Prop :=
  ∃ w ∈ wordAfter {} 0 query.toList, w.quote = none ∧ w.inExpression = true

instance : DecidablePred EndsOpen := fun query =>
  decidable_of_iff ((wordAfter {} 0 query.toList).any fun w =>
    w.quote.isNone && w.inExpression) (by simp [EndsOpen, Option.any_eq_true])

section Ending

variable {query digits : String} {k : Nat} {o : ReadOptions} {cs : List Char}
  {ls : List (String × Bool)}

/-- What stands behind a query, and a blank, adds its tokens to those of the expression. -/
theorem EndsOpen.lex_append (h : EndsOpen query) (hcs : LexesToEnd true cs ls) :
    ∃ ts, lex (query ++ " " ++ String.ofList cs) =
        ⟨(lex query).fulltext, (lex query).expression ++ ts⟩ ∧ ts.map Token.lexeme = ls := by
  obtain ⟨w, hw, hquote, hinExpression⟩ := h
  obtain ⟨l, hreads⟩ := exists_reads_of_wordAfter hw
  have hw : w.Holds true none w.isOperator w.text := ⟨hinExpression, hquote, rfl, rfl⟩
  have hblank := reads_single (by decide) (next_blank hw (0 + query.toList.length))
  obtain ⟨ts, hts, hlexemes⟩ := hcs w.cleared (0 + (query.toList ++ [' ']).length)
    (isIdle_cleared hw)
  have hend : ∀ i, scan w i [] = ⟨[], w.token?⟩ := by
    intro i
    rw [scan, hquote, hinExpression]
    simp [prepend]
  have hbefore := hreads.scan_append []
  have hafter := (hreads.append hblank).scan_append cs
  rw [List.append_nil, hend] at hbefore
  rw [hts] at hafter
  simp only [hinExpression, append, prepend, if_true, List.append_nil] at hbefore hafter
  refine ⟨ts, ?_, hlexemes⟩
  simp only [lex, String.toList_append, String.toList_ofList, hbefore]
  exact hafter

theorem isWordChar_of_isDigit {c : Char} (h : c.isDigit = true) : isWordChar c = true := by
  have hdigits : ∀ n < 58, 48 ≤ n → isWordChar (Char.ofNat n) = true := by decide +kernel
  simp only [Char.isDigit, Bool.and_eq_true, decide_eq_true_eq] at h
  rw [← Char.ofNat_toNat c]
  exact hdigits c.toNat (Nat.lt_succ_of_le (UInt32.le_iff_toNat_le.1 h.2))
    (UInt32.le_iff_toNat_le.1 h.1)

/-- A count is a word. -/
theorem isWordText_of_count? (h : Number.count? digits = some k) :
    isWordText digits = true := by
  have hplus : isWordChar '+' = true := by decide +kernel
  have hcount := (Option.isSome_iff_exists.2 ⟨k, h⟩ : (Number.count? digits).isSome = true)
  simp only [Number.count?, Option.isSome_ite, List.all_eq_true] at hcount
  obtain ⟨hne, hall, -⟩ := hcount
  rw [isWordText, Bool.and_eq_true, List.all_eq_true]
  constructor
  · rw [Bool.not_eq_true', ← Bool.not_eq_true, String.isEmpty_iff]
    rintro rfl
    exact hne rfl
  · split at hall
    · next rest hdigits =>
      rw [hdigits]
      exact List.forall_mem_cons.2 ⟨hplus, fun c hc => isWordChar_of_isDigit (hall c hc)⟩
    · exact fun c hc => isWordChar_of_isDigit (hall c hc)

/-- Reading a key stops in front of the word of a clause. -/
theorem orderTerm_append {text : String} {ts ending : List Tree} {clause : Token}
    (hclause : isClauseWord clause.text = true) (h : (orderTerm text ts).report.faults = []) :
    orderTerm text (ts ++ .token clause :: ending) = { orderTerm text ts with
      rest := (orderTerm text ts).rest ++ .token clause :: ending } := by
  have hword : ∀ s, isClauseWord s = false → (Tree.token clause).isWord s = false := by
    intro s hs
    have hne : clause.text ≠ s := fun heq => by simp [← heq, hclause] at hs
    simp [Tree.isWord, Token.isWord, hne]
  have hdirection := And.intro (hword "desc" (by decide)) (hword "asc" (by decide))
  have hdirected : ∀ (name : String) (ts : List Tree),
      directed name (ts ++ .token clause :: ending) = { directed name ts with
        rest := (directed name ts).rest ++ .token clause :: ending } := by
    intro name ts
    cases ts with
    | nil => simp [directed, hdirection.1, hdirection.2]
    | cons t ts =>
      simp only [directed, List.cons_append]
      split_ifs <;> rfl
  unfold orderTerm at h ⊢
  split_ifs at h ⊢ with hnote
  · -- behind `note` the key is the name behind a dot, which must not be missing
    cases ts with
    | nil => exact absurd h (by simp [Parsed.fault, Report.fault])
    | cons dot ts =>
      dsimp only [List.cons_append] at h ⊢
      split_ifs at h ⊢ with hdot
      · cases ts with
        | nil => exact absurd h (by simp [Parsed.fault, Report.fault])
        | cons name ts =>
          dsimp only [List.cons_append] at h ⊢
          cases hname : name.word? with
          | none =>
            rw [hname] at h
            exact absurd h (by simp [Parsed.fault, Report.fault])
          | some name => exact hdirected name ts
      · exact absurd h (by simp [Parsed.fault, Report.fault])
  · exact hdirected text ts

section Steps

variable {inOrder : Bool} {t : Tree} {rest : List Tree}

theorem clauses_orderby (ht : t.word? = some "orderby") :
    clauses inOrder (t :: rest) = clauses true rest := by
  rw [clauses.eq_def]
  simp only [ht, if_true]

theorem clauses_limit {n : Token} (ht : t.word? = some "limit")
    (hn : Number.count? n.text = some k) :
    clauses inOrder (t :: .token n :: rest) = (clauses false rest).limited k := by
  have hne : ("limit" : String) ≠ "orderby" := by decide
  rw [clauses.eq_def]
  simp only [ht, hn, hne, if_true, if_false]

theorem clauses_comma (ht : t.word? = some ",") :
    clauses inOrder (t :: rest) = clauses inOrder rest := by
  have hne : ("," : String) ≠ "orderby" ∧ ("," : String) ≠ "limit" := by decide
  rw [clauses.eq_def]
  simp only [ht, hne.1, hne.2, if_true, if_false]

theorem clauses_key {text : String} (ht : t.word? = some text) (horderby : text ≠ "orderby")
    (hlimit : text ≠ "limit") (hcomma : text ≠ ",") : clauses true (t :: rest) =
      ((clauses true (orderTerm text rest).rest).ordered (orderTerm text rest).value).noting
        (orderTerm text rest).report := by
  rw [clauses.eq_def]
  simp only [ht, horderby, hlimit, hcomma, if_true, if_false]

/-- A clause does not depend on what stands in front of its word. -/
theorem clauses_of_isClauseWord {text : String} (ht : t.word? = some text)
    (htext : isClauseWord text = true) (b : Bool) :
    clauses b (t :: rest) = clauses false (t :: rest) := by
  rw [isClauseWord, Bool.or_eq_true, decide_eq_true_eq, decide_eq_true_eq] at htext
  rcases htext with rfl | rfl
  · rw [clauses_orderby ht, clauses_orderby ht]
  · have hne : ("limit" : String) ≠ "orderby" := by decide
    rw [clauses.eq_def, clauses.eq_def false]
    simp only [ht, hne, if_true, if_false]

end Steps

/-- Clauses one after the other: the keys are those of both, and the last limit holds. -/
def Clauses.append (c d : Clauses) : Clauses :=
  ⟨c.order ++ d.order, d.limit.or c.limit, c.report ++ d.report⟩

/-- **Clauses behind clauses without a fault** are read as if they stood alone. -/
theorem clauses_append {clause : Token} (hquotes : clause.inQuotes = false)
    (hclause : isClauseWord clause.text = true) (ending : List Tree) (inOrder : Bool)
    (ts : List Tree) (h : (clauses inOrder ts).report.faults = []) :
    clauses inOrder (ts ++ .token clause :: ending) =
      (clauses inOrder ts).append (clauses false (.token clause :: ending)) := by
  have hfault : ∀ {d c}, ¬(Clauses.noting (.fault d) c).report.faults = [] := by
    intro d c
    simp [Clauses.noting, Report.fault]
  fun_induction clauses inOrder ts with
  | case1 inOrder =>
    have hword : (Tree.token clause).word? = some clause.text := by simp [Tree.word?, hquotes]
    rw [List.nil_append, clauses_of_isClauseWord hword hclause]
    simp only [Clauses.append, List.nil_append, Option.or_none]
    rfl
  | case2 => exact absurd h hfault
  | case3 inOrder t rest ht ih =>
    rw [List.cons_append, clauses_orderby ht]
    exact ih h
  | case4 => exact absurd h (by simp [Report.fault])
  | case5 => exact absurd h hfault
  | case6 inOrder t n rest m hm ht hne ih =>
    rw [List.cons_append, List.cons_append, clauses_limit ht hm, ih h]
    simp only [Clauses.append, Clauses.limited, Option.or_assoc]
  | case7 => exact absurd h hfault
  | case8 inOrder t rest ht hne hne' ih =>
    rw [List.cons_append, clauses_comma ht]
    exact ih h
  | case9 t rest text ht horderby hlimit hcomma p hrest ih =>
    obtain ⟨hkey, hends⟩ := List.append_eq_nil_iff.1 h
    rw [List.cons_append, clauses_key ht horderby hlimit hcomma,
      orderTerm_append hclause hkey, ih hends]
    simp only [Clauses.append, Clauses.ordered, Clauses.noting, List.append_assoc,
      Report.append_assoc, p]
  | case10 => exact absurd h hfault

/-! ## Reading a query that goes on -/

/-- A query that ends in its expression is not blank. -/
theorem EndsOpen.not_blank (h : EndsOpen query) : Text.isBlankText query = false := by
  -- blanks do not begin an expression
  have hblank : ∀ {w w' : Word} {i : Nat} {cs : List Char} {l : Lexed}, Reads w i cs l w' →
      (∀ c ∈ cs, Text.isBlank c = true) → w.quote = none → w'.inExpression = w.inExpression := by
    intro w w' i cs l hreads
    induction hreads with
    | nil w i => exact fun _ _ => rfl
    | @next w w' i c cs l hc _ ih =>
      intro hcs hquote
      rw [List.forall_mem_cons] at hcs
      rw [next_of_isBlank hquote hcs.1] at ih
      exact ih hcs.2 rfl
    | escaped _ _ => exact fun hcs _ => absurd (hcs '\\' List.mem_cons_self) (by decide)
  obtain ⟨w, hw, -, hinExpression⟩ := h
  obtain ⟨l, hreads⟩ := exists_reads_of_wordAfter hw
  rw [← Bool.not_eq_true, Text.isBlankText, List.all_eq_true]
  intro hcs
  rw [hblank hreads hcs rfl] at hinExpression
  cases hinExpression

/-- What is split off in front of a clause stays in front of it. -/
theorem takeWhile_append_of_not {α : Type} {p : α → Bool} {x : α} (hx : p x = false)
    (xs ys : List α) : (xs ++ x :: ys).takeWhile p = xs.takeWhile p ∧
      (xs ++ x :: ys).dropWhile p = xs.dropWhile p ++ x :: ys := by
  induction xs with
  | nil => simp [hx]
  | cons x' xs ih =>
    rw [List.cons_append, List.takeWhile_cons, List.dropWhile_cons, List.takeWhile_cons,
      List.dropWhile_cons]
    split_ifs
    · exact ⟨congrArg _ ih.1, ih.2⟩
    · exact ⟨rfl, rfl⟩

/-- Clauses behind the trees of a query without a fault are read behind its own. -/
theorem readTrees_append {words : List Token} {trees : List Tree} {clause : Token}
    (hquotes : clause.inQuotes = false) (hclause : isClauseWord clause.text = true)
    (hclean : (readTrees o words trees).report.faults = []) (rest : List Tree) :
    let ending := clauses false (.token clause :: rest)
    conditionOf o words (trees ++ .token clause :: rest) = conditionOf o words trees ∧
      clausesOf (trees ++ .token clause :: rest) = (clausesOf trees).append ending ∧
      (readTrees o words (trees ++ .token clause :: rest)).report.faults =
        ending.report.faults := by
  intro ending
  obtain ⟨hfront, hclauses⟩ := List.append_eq_nil_iff.1 hclean
  have hstops : (!(Tree.token clause).word?.any isClauseWord) = false := by
    simp [Tree.word?, hquotes, hclause]
  obtain ⟨htake, hdrop⟩ := takeWhile_append_of_not
    (p := fun t : Tree => !t.word?.any isClauseWord) hstops trees rest
  have hboth : clausesOf (trees ++ .token clause :: rest) = (clausesOf trees).append ending := by
    rw [clausesOf, hdrop]
    exact clauses_append hquotes hclause rest false _ hclauses
  refine ⟨by rw [conditionOf, htake, conditionOf], hboth, ?_⟩
  have hreport : ∀ trees, (readTrees o words trees).report.faults =
      (wordsReport (words.map Token.text) ++
        (sequence o (trees.takeWhile fun t => !t.word?.any isClauseWord)).report).faults ++
      (clausesOf trees).report.faults := fun _ => rfl
  rw [hreport, htake, hboth, hfront, List.nil_append]
  exact congrArg (· ++ ending.report.faults) hclauses

/-- Without a fault in its parentheses no group of the query is left open. -/
theorem outer_of_ofNesting?_eq_none {s : Tree.Nesting} (h : Diagnostic.ofNesting? s = none) :
    s.outer = [] := by
  rw [Diagnostic.ofNesting?] at h
  split_ifs at h with hunbalanced
  rw [not_or, Nat.not_lt, Nat.le_zero] at hunbalanced
  exact List.length_eq_zero_iff.1 hunbalanced.1

/-- Tokens that are written as no parentheses are none. -/
theorem plain_of_lexemes {ts : List Token} (h : ∀ l ∈ ts.map Token.lexeme, l.1 ≠ "(" ∧ l.1 ≠ ")") :
    ∀ t ∈ ts, t.isOpening = false ∧ t.isClosing = false := by
  intro t ht
  have htext : t.text ≠ "(" ∧ t.text ≠ ")" := h _ (List.mem_map_of_mem ht)
  simp [Token.isOpening, Token.isClosing, Token.isWord, htext.1, htext.2]

/-- **Clauses at the end of a query without a fault are read behind its own**, and change nothing
else. -/
theorem exists_read_append_clauses (h : EndsOpen query)
    (hclean : (Query.read o query).diagnostic? = none) : ∃ (condition : Option Expression)
      (order : List OrderTerm) (limit : Option Nat), (∀ e, condition = some e → e.IsCondition) ∧
      (Query.read o query).expression = condition.map (·.withClauses order limit) ∧
      ∀ {cs : List Char} {clause : String} {ls : List (String × Bool)},
        isClauseWord clause = true → LexesToEnd true cs ((clause, false) :: ls) →
        (∀ l ∈ ls, l.1 ≠ "(" ∧ l.1 ≠ ")") → ∃ ts : List Token,
          ts.map Token.lexeme = (clause, false) :: ls ∧
          let ending := clauses false (ts.map .token)
          (Query.read o (query ++ " " ++ String.ofList cs)).expression = condition.map
            (·.withClauses (order ++ ending.order) (ending.limit.or limit)) ∧
          (Query.read o (query ++ " " ++ String.ofList cs)).report.faults =
            ending.report.faults := by
  set nesting := Tree.nest (lex query).expression with hnesting
  have hfaults : (Diagnostic.ofNesting? nesting).toList ++
      (readTrees o (lex query).fulltext nesting.trees).report.faults = [] :=
    List.head?_eq_none_iff.1 hclean
  obtain ⟨hbalanced, hending⟩ := List.append_eq_nil_iff.1 hfaults
  refine ⟨conditionOf o (lex query).fulltext nesting.trees, (clausesOf nesting.trees).order,
    (clausesOf nesting.trees).limit, fun e => isCondition_conditionOf, rfl, ?_⟩
  intro cs clause ls hclause hcs hls
  obtain ⟨ts, hlex, hts⟩ := h.lex_append hcs
  obtain ⟨a, us, rfl, ha, hus⟩ := List.map_eq_cons_iff.1 hts
  obtain ⟨rfl, hquotes⟩ := Prod.mk.inj ha
  have hparens : a.text ≠ "(" ∧ a.text ≠ ")" := by
    constructor <;> (intro heq; exact absurd (heq ▸ hclause) (by decide))
  have hplain : ∀ t ∈ a :: us, t.isOpening = false ∧ t.isClosing = false := by
    refine plain_of_lexemes ?_
    rw [hts]
    exact List.forall_mem_cons.2 ⟨hparens, hls⟩
  have houter : nesting.outer = [] :=
    outer_of_ofNesting?_eq_none (Option.toList_eq_nil_iff.1 hbalanced)
  have hnest := Tree.nest_append_plain (lex query).expression hplain
  rw [← hnesting] at hnest
  have htrees : (Tree.nest ((lex query).expression ++ a :: us)).trees =
      nesting.trees ++ .token a :: us.map .token := by
    rw [hnest]
    simp [Tree.Nesting.trees, houter]
  have hnofault : Diagnostic.ofNesting? (Tree.nest ((lex query).expression ++ a :: us)) =
      Diagnostic.ofNesting? nesting := by
    rw [hnest]
    rfl
  obtain ⟨hcondition, hclauses, hreport⟩ :=
    readTrees_append hquotes hclause hending (us.map .token)
  refine ⟨a :: us, hts, ?_, ?_⟩
  · rw [Query.read, hlex]
    simp only [htrees]
    rw [expression_readTrees, hcondition, hclauses]
    rfl
  · rw [Query.read, hlex]
    simp only [htrees, hnofault, Report.faults_append, hbalanced, hreport]
    rfl

/-- **A limit at the end of a query without a fault takes the place of its limit**, and changes
nothing else. -/
theorem exists_read_append (h : EndsOpen query) (hclean : (Query.read o query).diagnostic? = none)
    (hk : Number.count? digits = some k) : ∃ (condition : Option Expression)
      (order : List OrderTerm) (limit : Option Nat), (∀ e, condition = some e → e.IsCondition) ∧
      (Query.read o query).expression = condition.map (·.withClauses order limit) ∧
      (Query.read o (query ++ " limit " ++ digits)).expression =
        condition.map (·.withClauses order (some k)) := by
  obtain ⟨condition, order, limit, hcondition, hplain, happend⟩ :=
    exists_read_append_clauses h hclean
  have hdigits := isWordText_of_count? hk
  have hlimit : isWordText "limit" = true := by decide +kernel
  have hcs := (lexes_word hlimit).toEnd
    (lexesToEnd_ordinary (b := true) (isOrdinaryText_of_isWordText hdigits))
  rw [smallLetters_of_isWordText hdigits] at hcs
  have hparens : digits ≠ "(" ∧ digits ≠ ")" := by
    constructor <;> (rintro rfl; exact absurd hdigits (by decide +kernel))
  obtain ⟨ts, hts, hread, -⟩ := happend (by decide) hcs (List.forall_mem_singleton.2 hparens)
  obtain ⟨a, us, rfl, ha, hus⟩ := List.map_eq_cons_iff.1 hts
  obtain ⟨b, rfl, hb⟩ := List.map_eq_singleton_iff.1 hus
  obtain ⟨htext, hquotes⟩ := Prod.mk.inj ha
  have hword : (Tree.token a).word? = some "limit" := by simp [Tree.word?, htext, hquotes]
  have hcount : Number.count? b.text = some k := by rwa [(Prod.mk.inj hb).1]
  have hending : clauses false ([a, b].map .token) = Clauses.limited k {} := by
    rw [List.map_cons, List.map_cons, List.map_nil, clauses_limit hword hcount, clauses_nil]
  have hquery : query ++ " limit " ++ digits =
      query ++ " " ++ String.ofList ("limit".toList ++ [' '] ++ digits.toList) := by
    simp only [String.append_assoc, String.ofList_append, String.ofList_toList]
    rfl
  refine ⟨condition, order, limit, hcondition, hplain, ?_⟩
  rw [hquery, hread, hending]
  simp [Clauses.limited]

end Ending

end Zettel.Query
