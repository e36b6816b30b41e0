import Mathlib.Data.List.TakeWhile
import Zettel.Proofs.Query.Written

/-!
# Reading what was written

A written condition is read from the texts of its tokens alone. A path takes all of its tokens. What
stands in parentheses becomes a group, which asks in a sequence for what it asks for alone. Names
and values are in quotes and never taken for anything else.

Main statements: `PathForm.path_eq`, for paths, `Sentence.asks`, for sentences, and
`read_queryText`, a written query is read as what it asks for.
-/

namespace Zettel.Query

/-! ## Tokens by their texts -/

/-- The texts of tokens determine the tokens, but for their places. -/
theorem exists_of_map_lexeme {ts : List Token} {s : String} {q : Bool} {ls : List (String × Bool)}
    (h : ts.map Token.lexeme = (s, q) :: ls) :
    ∃ i j us, ts = ⟨s, q, i, j⟩ :: us ∧ us.map Token.lexeme = ls := by
  obtain ⟨t, us, rfl, ht, hus⟩ := List.map_eq_cons_iff.1 h
  obtain ⟨rfl, rfl⟩ := Prod.mk.inj ht
  exact ⟨t.start, t.finish, us, rfl, hus⟩

/-- The text belongs to a condition: it is quoted, or neither a parenthesis nor the word of a
clause. -/
def isInner (l : String × Bool) : Bool :=
  l.2 || !(["(", ")", "orderby", "limit"] : List String).contains l.1

theorem isClauseWord_of_isInner {t : Token} (h : isInner t.lexeme = true) :
    (Tree.token t).word?.any isClauseWord = false := by
  rw [Tree.word?]
  split_ifs with hquotes
  · rfl
  · simp only [isInner, Token.lexeme, hquotes, Bool.false_or, List.contains_cons,
      List.contains_nil, Bool.or_false, Bool.not_eq_true', Bool.or_eq_false_iff,
      beq_eq_false_iff_ne] at h
    simp [isClauseWord, h]

/-! ## Paths -/

namespace Comparison

variable (c : Comparison)

/-- A comparator with its value is read as it was meant, and the value is highlighted. -/
theorem comparison_eq (i j : Nat) : comparison c.operator.text [.token ⟨c.value.1, true, i, j⟩] =
    ⟨some c.comparator, [], .highlight c.value.1⟩ := by
  have hbuild : Comparator.build c.operator.text c.value.1 = .ok c.comparator := by
    rw [Comparator.build, Operator.ofText?_text]
    exact c.built
  rw [comparison]
  simp only [hbuild]

/-- The text of an operator is read as an operator. -/
theorem operator?_eq (i j : Nat) :
    (Tree.token ⟨c.operator.text, false, i, j⟩).operator? = some c.operator.text := by
  rw [Tree.operator?, Tree.word?, if_neg Bool.false_ne_true,
    Option.filter_some_pos (isOperatorText_text c.operator)]

theorem neededComparison_eq (subject : String) {ts : List Token}
    (h : ts.map Token.lexeme = c.lexemes) : neededComparison subject (ts.map .token) =
      ⟨some c.comparator, [], .highlight c.value.1⟩ := by
  obtain ⟨i, j, us, rfl, hus⟩ := exists_of_map_lexeme h
  obtain ⟨i', j', vs, rfl, hvs⟩ := exists_of_map_lexeme hus
  obtain rfl := List.map_eq_nil_iff.1 hvs
  rw [List.map_cons, List.map_cons, List.map_nil, neededComparison, operator?_eq]
  exact c.comparison_eq i' j'

end Comparison

/-- The attributes with a name, alone. -/
theorem predicate_nil (kind : AttributeKind) (name : String) : predicate {} kind name [] =
    ⟨some (.attributeExists kind name false), [], .highlight name⟩ := by
  rw [predicate]

/-- The attributes with a name, compared with a value. -/
theorem predicate_comparison (kind : AttributeKind) (name : String) (c : Comparison)
    {ts : List Token} (h : ts.map Token.lexeme = c.lexemes) :
    predicate {} kind name (ts.map .token) = ⟨some (.attributeCompare kind name c.comparator), [],
      .highlight name ++ .highlight c.value.1⟩ := by
  obtain ⟨i, j, us, rfl, hus⟩ := exists_of_map_lexeme h
  obtain ⟨i', j', vs, rfl, hvs⟩ := exists_of_map_lexeme hus
  obtain rfl := List.map_eq_nil_iff.1 hvs
  have hdot : (Tree.token ⟨c.operator.text, false, i, j⟩).isWord "." = false := by
    cases c.operator <;> rfl
  rw [List.map_cons, List.map_cons, List.map_nil, predicate, if_neg (by simp [hdot]),
    c.operator?_eq]
  have hoperator : ReadOptions.attributeOperator {} c.operator.text = c.operator.text := rfl
  simp only [hoperator, c.comparison_eq]
  rfl

theorem path_attributes (kind : AttributeKind) (name : SmallText) {ts : List Token}
    {ls : List (String × Bool)} (h : ts.map Token.lexeme = attributesLexemes kind name ++ ls) :
    ∃ us : List Token, path {} (ts.map .token) = predicate {} kind name.1 (us.map .token) ∧
      us.map Token.lexeme = ls := by
  obtain ⟨i, j, us, rfl, hus⟩ := exists_of_map_lexeme h
  obtain ⟨i', j', vs, rfl, hvs⟩ := exists_of_map_lexeme hus
  obtain ⟨i'', j'', ws, rfl, hws⟩ := exists_of_map_lexeme hvs
  have hmarked : MarkedName.ofText? (attributesWord kind) = none := by cases kind <;> decide
  have hsegment : Segment.ofText (attributesWord kind) = .attributes kind := by
    cases kind <;> decide
  refine ⟨ws, ?_, hws⟩
  rw [List.map_cons, path]
  simp only [hmarked, hsegment]
  rfl

namespace PathForm

/-- **A written path is read as what it asks for.** -/
theorem path_eq (p : PathForm) : ∀ {ts : List Token}, ts.map Token.lexeme = p.lexemes →
    ∃ r, path {} (ts.map .token) = ⟨some p.expression, [], r⟩ ∧ r.faults = [] := by
  induction p with
  | named kind name comparison =>
    intro ts h
    cases comparison with
    | none =>
      rw [lexemes, ← List.append_nil (attributesLexemes kind name)] at h
      obtain ⟨us, hpath, hus⟩ := path_attributes kind name h
      obtain rfl := List.map_eq_nil_iff.1 hus
      exact ⟨_, hpath.trans (predicate_nil kind name.1), rfl⟩
    | some c =>
      obtain ⟨us, hpath, hus⟩ := path_attributes kind name h
      exact ⟨_, hpath.trans (predicate_comparison kind name.1 c hus), rfl⟩
  | target name further ih =>
    intro ts h
    rw [lexemes, List.append_assoc] at h
    obtain ⟨us, hpath, hus⟩ := path_attributes .relation name h
    obtain ⟨i, j, vs, rfl, hvs⟩ := exists_of_map_lexeme hus
    obtain ⟨r, hr, hfaults⟩ := ih hvs
    refine ⟨.highlight name.1 ++ r, hpath.trans ?_, ?_⟩
    · rw [List.map_cons, predicate, if_pos ⟨rfl, rfl⟩, hr]
      rfl
    · rw [Report.faults_append, hfaults]
      rfl
  | relatives r further ih =>
    intro ts h
    obtain ⟨i, j, us, rfl, hus⟩ := exists_of_map_lexeme h
    obtain ⟨i', j', vs, rfl, hvs⟩ := exists_of_map_lexeme hus
    obtain ⟨report, hreport, hfaults⟩ := ih hvs
    refine ⟨report, ?_, hfaults⟩
    have hstep : path {} (((⟨r.word, false, i, j⟩ :: ⟨".", false, i', j'⟩ :: vs : List Token)).map
        .token) = (path {} (vs.map .token)).map r.satisfies := by
      have hmarked : MarkedName.ofText? r.word = none := by cases r <;> decide
      have hsegment : Segment.ofText r.word = .relatives r := by cases r <;> decide
      rw [List.map_cons, path]
      simp only [hmarked, hsegment]
      rfl
    rw [hstep, hreport]
    rfl
  | property p c =>
    intro ts h
    obtain ⟨i, j, us, rfl, hus⟩ := exists_of_map_lexeme h
    refine ⟨.highlight c.value.1, ?_, rfl⟩
    have hstep : path {} ((⟨p.name, false, i, j⟩ :: us : List Token).map .token) =
        (neededComparison p.name (us.map .token)).map (.propertyComparison p) := by
      have hmarked : MarkedName.ofText? p.name = none := by cases p <;> decide
      have hsegment : Segment.ofText p.name = .property p := by cases p <;> decide
      rw [List.map_cons, path]
      simp only [hmarked, hsegment]
      rfl
    rw [hstep, c.neededComparison_eq p.name hus]
    rfl
  | content c =>
    intro ts h
    obtain ⟨i, j, us, rfl, hus⟩ := exists_of_map_lexeme h
    refine ⟨.highlight c.value.1, ?_, rfl⟩
    have hstep : path {} ((⟨"content", false, i, j⟩ :: us : List Token).map .token) =
        (neededComparison "content" (us.map .token)).map contentCondition := by
      have hmarked : MarkedName.ofText? "content" = none := by decide
      have hsegment : Segment.ofText "content" = .content := by decide
      rw [List.map_cons, path]
      simp only [hmarked, hsegment]
      rfl
    rw [hstep, c.neededComparison_eq "content" hus]
    rfl

theorem isInner_lexemes (p : PathForm) : ∀ l ∈ p.lexemes, isInner l = true := by
  have hcomparison : ∀ c : Comparison, ∀ l ∈ c.lexemes, isInner l = true := by
    intro c
    have hoperator : isInner (c.operator.text, false) = true := by cases c.operator <;> decide
    exact List.forall_mem_cons.2 ⟨hoperator, by simp [isInner]⟩
  have hattributes : ∀ kind name, ∀ l ∈ attributesLexemes kind name, isInner l = true := by
    intro kind name
    have hword : isInner (attributesWord kind, false) = true := by cases kind <;> decide
    exact List.forall_mem_cons.2 ⟨hword, by simp [isInner]⟩
  induction p with
  | named kind name comparison =>
    cases comparison with
    | none => exact hattributes kind name
    | some c => exact List.forall_mem_append.2 ⟨hattributes kind name, hcomparison c⟩
  | target name further ih =>
    exact List.forall_mem_append.2 ⟨List.forall_mem_append.2 ⟨hattributes _ name, by decide⟩, ih⟩
  | relatives r further ih =>
    exact List.forall_mem_append.2 ⟨by cases r <;> decide, ih⟩
  | property p c => exact List.forall_mem_append.2 ⟨by cases p <;> decide, hcomparison c⟩
  | content c => exact List.forall_mem_append.2 ⟨by decide, hcomparison c⟩

end PathForm

/-! ## Trees -/

/-- Added to any nesting, the tokens add the trees to its innermost group. -/
def FormTrees (ts : List Token) (trees : List Tree) : Prop :=
  ∀ s : Tree.Nesting,
    ts.foldl Tree.Nesting.push s = { s with current := trees.reverse ++ s.current }

section FormTrees

variable {ts us : List Token} {trees trees' : List Tree} {opening closing : Token}

theorem FormTrees.nil : FormTrees [] [] := fun _ => rfl

/-- Trees are added to a nesting part by part. -/
theorem FormTrees.append (h : FormTrees ts trees) (h' : FormTrees us trees') :
    FormTrees (ts ++ us) (trees ++ trees') := by
  intro s
  rw [List.foldl_append, h, h', List.reverse_append, List.append_assoc]

theorem Report.append_empty (r : Report) : r ++ {} = r :=
  congrArg₂ Report.mk (List.append_nil _) (List.append_nil _)

/-- Such tokens are grouped into the trees, and nothing is wrong with their parentheses. -/
theorem FormTrees.ofTokensNoting_eq (h : FormTrees ts trees) (r : Report) :
    Tree.ofTokensNoting r ts = (trees, r) := by
  have hnest : Tree.nest ts = { current := trees.reverse } := by
    rw [Tree.nest, h, List.append_nil]
  rw [Tree.ofTokensNoting, hnest]
  exact Prod.ext (List.reverse_reverse trees) (Report.append_empty r)

theorem formTrees_of_isInner (h : ∀ t ∈ ts, isInner t.lexeme = true) :
    FormTrees ts (ts.map .token) := by
  induction ts with
  | nil => exact .nil
  | cons t ts ih =>
    rw [List.forall_mem_cons] at h
    refine FormTrees.append (show FormTrees [t] [.token t] from fun s => ?_) (ih h.2)
    have hplain : t.isOpening = false ∧ t.isClosing = false := by
      have ht := h.1
      simp only [isInner, Token.lexeme, Bool.or_eq_true] at ht
      rcases ht with ht | ht
      · simp [Token.isOpening, Token.isClosing, Token.isWord, ht]
      · simp only [List.contains_cons, List.contains_nil, Bool.or_false, Bool.not_eq_true',
          Bool.or_eq_false_iff, beq_eq_false_iff_ne] at ht
        simp [Token.isOpening, Token.isClosing, Token.isWord, ht]
    simp [Tree.Nesting.push, hplain]

theorem FormTrees.grouped (h : FormTrees ts trees) (hopening : opening.lexeme = ("(", false))
    (hclosing : closing.lexeme = (")", false)) :
    FormTrees ([opening] ++ ts ++ [closing]) [.group trees] := by
  obtain ⟨htext, hquotes⟩ := Prod.mk.inj hopening
  obtain ⟨htext', hquotes'⟩ := Prod.mk.inj hclosing
  have hopens : opening.isOpening = true := by simp [Token.isOpening, Token.isWord, htext, hquotes]
  have hcloses : closing.isOpening = false ∧ closing.isClosing = true := by
    simp [Token.isOpening, Token.isClosing, Token.isWord, htext', hquotes']
  have hopen : ∀ s : Tree.Nesting,
      s.push opening = { s with current := [], outer := s.current :: s.outer } := fun s =>
    if_pos hopens
  intro s
  simp only [List.foldl_append, List.foldl_cons, List.foldl_nil, hopen, h _]
  simp [Tree.Nesting.push, hcloses]

end FormTrees

/-! ## Sequences -/

theorem Report.append_assoc (r s t : Report) : r ++ s ++ t = r ++ (s ++ t) :=
  congrArg₂ Report.mk (List.append_assoc ..) (List.append_assoc ..)

/-- In front of other trees, these add the items, and no faults. -/
def Contributes (trees : List Tree) (items : List Item) : Prop :=
  ∃ r : Report, r.faults = [] ∧
    ∀ rest, sequence {} (trees ++ rest) = (sequence {} rest).after items r

theorem Contributes.append {trees trees' : List Tree} {items items' : List Item}
    (h : Contributes trees items) (h' : Contributes trees' items') :
    Contributes (trees ++ trees') (items ++ items') := by
  obtain ⟨r, hr, hsequence⟩ := h
  obtain ⟨r', hr', hsequence'⟩ := h'
  refine ⟨r ++ r', by rw [Report.faults_append, hr, hr', List.append_nil], fun rest => ?_⟩
  rw [List.append_assoc, hsequence, hsequence', Sequence.after, Sequence.after, Sequence.after,
    List.append_assoc, Report.append_assoc]

/-- No tree is the word of a clause. -/
def IsClauseFree (trees : List Tree) : Prop := ∀ t ∈ trees, t.word?.any isClauseWord = false

/-- The tokens form trees that add the items to a sequence. -/
def Adds (ts : List Token) (items : List Item) : Prop :=
  ∃ trees, FormTrees ts trees ∧ IsClauseFree trees ∧ Contributes trees items

/-- The tokens form trees that together ask for `e`. -/
def Asks (ts : List Token) (e : Expression) : Prop :=
  ∃ trees, FormTrees ts trees ∧ IsClauseFree trees ∧ (sequence {} trees).condition = some e ∧
    (sequence {} trees).report.faults = []

section Asks

variable {ts us : List Token} {items items' : List Item} {e : Expression}
  {opening closing word : Token}

theorem Adds.nil : Adds [] [] := by
  refine ⟨[], .nil, by simp [IsClauseFree], {}, rfl, fun rest => ?_⟩
  rfl

/-- Items are added to a sequence part by part. -/
theorem Adds.append (h : Adds ts items) (h' : Adds us items') :
    Adds (ts ++ us) (items ++ items') := by
  obtain ⟨trees, hforms, hfree, hadds⟩ := h
  obtain ⟨trees', hforms', hfree', hadds'⟩ := h'
  exact ⟨trees ++ trees', hforms.append hforms', List.forall_mem_append.2 ⟨hfree, hfree'⟩,
    hadds.append hadds'⟩

/-- Alone, the trees ask for what their items stand for. -/
theorem Adds.asks (h : Adds ts items) (he : Item.joined items = some e) : Asks ts e := by
  obtain ⟨trees, hforms, hfree, r, hr, hsequence⟩ := h
  have halone : sequence {} trees = (sequence {} []).after items r := by
    rw [← hsequence, List.append_nil]
  refine ⟨trees, hforms, hfree, ?_, ?_⟩
  · rw [halone, sequence_nil, Sequence.condition, Sequence.after, List.append_nil, he]
  · rw [halone, sequence_nil, Sequence.after, Report.faults_append, hr]
    rfl

/-- In parentheses a condition is an item. -/
theorem Asks.grouped (h : Asks ts e) (hopening : opening.lexeme = ("(", false))
    (hclosing : closing.lexeme = (")", false)) :
    Adds ([opening] ++ ts ++ [closing]) [.condition e] := by
  obtain ⟨trees, hforms, -, hcondition, hfaults⟩ := h
  refine ⟨_, hforms.grouped hopening hclosing, by simp [IsClauseFree, Tree.word?], _, hfaults,
    fun rest => ?_⟩
  rw [List.singleton_append, sequence, hcondition]
  rfl

/-- Tokens between parentheses. -/
theorem exists_of_map_lexeme_grouped {ls : List (String × Bool)}
    (h : ts.map Token.lexeme = [("(", false)] ++ ls ++ [(")", false)]) :
    ∃ opening us closing, ts = [opening] ++ us ++ [closing] ∧ opening.lexeme = ("(", false) ∧
      us.map Token.lexeme = ls ∧ closing.lexeme = (")", false) := by
  obtain ⟨front, back, rfl, hfront, hback⟩ := List.map_eq_append_iff.1 h
  obtain ⟨os, us, rfl, hos, hus⟩ := List.map_eq_append_iff.1 hfront
  obtain ⟨opening, rfl, hopening⟩ := List.map_eq_singleton_iff.1 hos
  obtain ⟨closing, rfl, hclosing⟩ := List.map_eq_singleton_iff.1 hback
  exact ⟨opening, us, closing, rfl, hopening, hus, hclosing⟩

/-- A condition in parentheses is an operand. -/
theorem adds_of_grouped {ls : List (String × Bool)}
    (hasks : ∀ {us : List Token}, us.map Token.lexeme = ls → Asks us e)
    (h : ts.map Token.lexeme = [("(", false)] ++ ls ++ [(")", false)]) :
    Adds ts [.condition e] := by
  obtain ⟨opening, us, closing, rfl, hopening, hus, hclosing⟩ := exists_of_map_lexeme_grouped h
  exact (hasks hus).grouped hopening hclosing

/-- A negated condition is an item. -/
theorem Asks.negated (h : Asks ts e) (hword : word.lexeme = ("not", false))
    (hopening : opening.lexeme = ("(", false)) (hclosing : closing.lexeme = (")", false)) :
    Adds ([word] ++ ([opening] ++ ts ++ [closing])) [.condition (.not e)] := by
  obtain ⟨trees, hforms, -, hcondition, hfaults⟩ := h
  obtain ⟨htext, hquotes⟩ := Prod.mk.inj hword
  have hinner : FormTrees [word] [.token word] := by
    refine formTrees_of_isInner fun t ht => ?_
    rw [List.mem_singleton.1 ht, hword]
    decide
  refine ⟨_, hinner.append (hforms.grouped hopening hclosing), ?_, _, hfaults, fun rest => ?_⟩
  · have hfree : isClauseWord "not" = false := by decide
    simp [IsClauseFree, Tree.word?, htext, hquotes, hfree]
  · have hmeaning : SequenceWord.ofText word.text = .notWord := by
      rw [htext]
      decide
    rw [List.singleton_append, List.cons_append, List.singleton_append, sequence,
      if_neg (by simp [hquotes])]
    simp only [hmeaning, hcondition]
    rfl

/-- A path from the note is a condition. -/
theorem PathForm.asks (p : PathForm)
    (h : ts.map Token.lexeme = [("note", false), (".", false)] ++ p.lexemes) :
    Asks ts p.expression := by
  have hinner : ∀ t ∈ ts, isInner t.lexeme = true := by
    intro t ht
    have hmem := h ▸ List.mem_map_of_mem (f := Token.lexeme) ht
    exact List.forall_mem_append.2 ⟨by decide, p.isInner_lexemes⟩ _ hmem
  refine ⟨_, formTrees_of_isInner hinner, ?_, ?_⟩
  · intro tree htree
    obtain ⟨t, ht, rfl⟩ := List.mem_map.1 htree
    exact isClauseWord_of_isInner (hinner t ht)
  · obtain ⟨i, j, us, rfl, hus⟩ := exists_of_map_lexeme h
    obtain ⟨i', j', vs, rfl, hvs⟩ := exists_of_map_lexeme hus
    obtain ⟨r, hpath, hr⟩ := p.path_eq hvs
    have hsequence : sequence {} ((⟨"note", false, i, j⟩ :: ⟨".", false, i', j'⟩ :: vs :
        List Token).map .token) = ⟨[.condition p.expression], r⟩ := by
      have hmeaning : SequenceWord.ofText "note" = .noteWord := by decide
      rw [List.map_cons, List.map_cons, sequence.eq_def]
      simp only [hmeaning, hpath, sequence_nil, Bool.false_eq_true, if_false]
      have hdot : (Tree.token ⟨".", false, i', j'⟩).isWord "." = true := rfl
      rw [if_pos hdot, Sequence.after, List.append_nil, Report.append_empty]
      rfl
    rw [hsequence]
    exact ⟨rfl, hr⟩

end Asks

/-! ## Joined operands -/

namespace Connective

/-- The items between operands. -/
def items : Connective → List Item
  | and => []
  | or => [.orWord]

theorem adds {ts : List Token} (c : Connective) (h : ts.map Token.lexeme = c.lexemes) :
    Adds ts c.items := by
  cases c with
  | and =>
    obtain rfl := List.map_eq_nil_iff.1 h
    exact .nil
  | or =>
    obtain ⟨i, j, us, rfl, hus⟩ := exists_of_map_lexeme h
    obtain rfl := List.map_eq_nil_iff.1 hus
    refine ⟨[.token ⟨"or", false, i, j⟩], formTrees_of_isInner (by simp [Token.lexeme, isInner]),
      ?_, {}, rfl, fun rest => ?_⟩
    · have hfree : isClauseWord "or" = false := by decide
      simp [IsClauseFree, Tree.word?, hfree]
    · have hmeaning : SequenceWord.ofText "or" = .orWord := by decide
      rw [List.singleton_append, sequence.eq_def]
      simp only [hmeaning]
      rfl

/-- The items of further operands. -/
def itemsOfOthers (c : Connective) (es : List Expression) : List Item :=
  es.flatMap fun e => c.items ++ [.condition e]

/-- Operands with `and` between them are one alternative. -/
theorem alternatives_and (es : List Expression) :
    Item.alternatives (and.itemsOfOthers es) = [es] := by
  induction es with
  | nil => rfl
  | cons e es ih =>
    have hstep : and.itemsOfOthers (e :: es) = .condition e :: and.itemsOfOthers es := rfl
    rw [hstep, Item.alternatives, ih]

theorem alternatives_or (e : Expression) (es : List Expression) :
    Item.alternatives (.condition e :: or.itemsOfOthers es) = (e :: es).map ([·]) := by
  induction es generalizing e with
  | nil => rfl
  | cons e' es ih =>
    have hstep : or.itemsOfOthers (e' :: es) =
        .orWord :: .condition e' :: or.itemsOfOthers es := rfl
    rw [hstep, Item.alternatives, Item.alternatives, ih]
    rfl

/-- To join each of some conditions with nothing leaves them as they are. -/
theorem filterMap_joined_singletons (es : List Expression) :
    (es.map ([·])).filterMap (Expression.joined .allOf) = es := by
  rw [List.filterMap_map]
  exact List.filterMap_some

/-- At least two operands stand for what joins them. -/
theorem joined_items (c : Connective) (e e' : Expression) (es : List Expression) :
    Item.joined (.condition e :: c.itemsOfOthers (e' :: es)) = some (c.join (e :: e' :: es)) := by
  rw [Item.joined]
  cases c with
  | and =>
    rw [Item.alternatives, alternatives_and]
    rfl
  | or =>
    rw [alternatives_or, filterMap_joined_singletons]
    rfl

end Connective

/-! ## Sentences -/

namespace Sentence

mutual

/-- **A written sentence is read as what it asks for.** -/
theorem asks : ∀ (s : Sentence) {ts : List Token}, ts.map Token.lexeme = s.lexemes →
    Asks ts s.expression
  | note path, ts, h => path.asks h
  | joined c first second others, ts, h => by
    obtain ⟨front, os, rfl, hfront, hos⟩ := List.map_eq_append_iff.1 h
    obtain ⟨fs, rest, rfl, hfs, hrest⟩ := List.map_eq_append_iff.1 hfront
    obtain ⟨cs, ss, rfl, hcs, hss⟩ := List.map_eq_append_iff.1 hrest
    have hadds := ((adds_of_grouped first.asks hfs).append
      ((c.adds hcs).append (adds_of_grouped second.asks hss))).append (adds_others c others hos)
    exact hadds.asks (c.joined_items first.expression second.expression (expressions others))
  | not operand, ts, h => by
    rw [lexemes] at h
    obtain ⟨word, us, rfl, hword, hus⟩ := List.map_eq_cons_iff.1 h
    obtain ⟨opening, vs, closing, rfl, hopening, hvs, hclosing⟩ := exists_of_map_lexeme_grouped hus
    exact ((operand.asks hvs).negated hword hopening hclosing).asks rfl

theorem adds_others (c : Connective) : ∀ (ss : List Sentence) {ts : List Token},
    ts.map Token.lexeme = lexemesOfOthers c ss → Adds ts (c.itemsOfOthers (expressions ss))
  | [], ts, h => by
    obtain rfl := List.map_eq_nil_iff.1 h
    exact .nil
  | s :: ss, ts, h => by
    obtain ⟨front, os, rfl, hfront, hos⟩ := List.map_eq_append_iff.1 h
    obtain ⟨cs, us, rfl, hcs, hus⟩ := List.map_eq_append_iff.1 hfront
    exact ((c.adds hcs).append (adds_of_grouped s.asks hus)).append (adds_others c ss hos)

end

end Sentence

/-! ## Queries -/

/-- A query for words and a condition: the words in quotes and, behind a marker, the sentence. -/
def queryText (words : List String) (s : Sentence) : String :=
  String.ofList (words.flatMap (fun word => quote word ++ [' ']) ++ '#' :: ' ' :: s.text)

/-- The marker in front of the expression changes nothing. -/
theorem Asks.marked {ts : List Token} {e : Expression} {marker : Token} (h : Asks ts e)
    (hmarker : marker.lexeme = ("#", false)) : Asks (marker :: ts) e := by
  obtain ⟨trees, hforms, hfree, hcondition, hfaults⟩ := h
  obtain ⟨htext, hquotes⟩ := Prod.mk.inj hmarker
  have hinner : FormTrees [marker] [.token marker] := by
    refine formTrees_of_isInner fun t ht => ?_
    rw [List.mem_singleton.1 ht, hmarker]
    decide
  have hsequence : sequence {} (.token marker :: trees) = sequence {} trees := by
    have hmeaning : SequenceWord.ofText marker.text = .filler := by
      rw [htext]
      decide
    rw [sequence.eq_def]
    simp only [hmeaning, hquotes, Bool.false_eq_true, if_false]
  refine ⟨_, hinner.append hforms, List.forall_mem_cons.2 ⟨?_, hfree⟩, ?_, ?_⟩
  · have hword : isClauseWord "#" = false := by decide
    simp [Tree.word?, htext, hquotes, hword]
  · rw [List.singleton_append, hsequence, hcondition]
  · rw [List.singleton_append, hsequence, hfaults]

/-- Words that are highlighted are no faults. -/
theorem faults_wordsReport (words : List String) : (wordsReport words).faults = [] := by
  rw [wordsReport, List.foldl_map]
  exact List.foldlRecOn words _ (motive := fun r : Report => r.faults = []) rfl
    fun r hr word _ => by rw [Report.faults_append, hr]; rfl

/-- Without a clause at its end, a query asks for its words and for what its trees ask for, and only
in these something can be wrong. -/
theorem read_of_formTrees (o : ReadOptions) {query : String} {fulltext expression : List Token}
    {trees : List Tree} (hlex : lex query = ⟨fulltext, expression⟩)
    (hforms : FormTrees expression trees) (hfree : IsClauseFree trees) :
    (Query.read o query).expression = Expression.joined .allOf
      ((wordsCondition o (fulltext.map Token.text)).toList ++
        (sequence o trees).condition.toList) ∧
    (Query.read o query).diagnostic? = (sequence o trees).report.diagnostic? := by
  have htake : trees.takeWhile (fun t => !t.word?.any isClauseWord) = trees :=
    List.takeWhile_eq_self_iff.2 fun t ht => by rw [hfree t ht]; rfl
  have hdrop : trees.dropWhile (fun t => !t.word?.any isClauseWord) = [] :=
    List.dropWhile_eq_nil_iff.2 fun t ht => by rw [hfree t ht]; rfl
  rw [read_eq_ofTokensNoting, hlex, hforms.ofTokensNoting_eq]
  simp only [readTrees, htake, hdrop, clauses_nil]
  constructor
  · exact Option.map_id'
  · simp [ReadQuery.diagnostic?, Report.diagnostic?, faults_wordsReport]

/-- Where the tokens of the expression ask for `e`, the query asks for the words and for `e`. -/
theorem read_of_asks {query : String} {fulltext expression : List Token} {e : Expression}
    (hlex : lex query = ⟨fulltext, expression⟩) (h : Asks expression e) :
    (Query.read {} query).expression =
      some (if fulltext = [] then e else .allOf [.fulltext (fulltext.map Token.text), e]) ∧
    (Query.read {} query).diagnostic? = none := by
  obtain ⟨trees, hforms, hfree, hcondition, hfaults⟩ := h
  obtain ⟨hread, hdiagnostic⟩ := read_of_formTrees {} hlex hforms hfree
  refine ⟨?_, ?_⟩
  · rw [hread, hcondition]
    cases fulltext <;> rfl
  · rw [hdiagnostic, Report.diagnostic?, hfaults]
    rfl

/-- **A written query is read as what it asks for**, and nothing is wrong with it. -/
theorem read_queryText (words : List String) (s : Sentence) :
    (Query.read {} (queryText words s)).expression =
      some (if words = [] then s.expression
        else .allOf [.fulltext (words.map smallLetters), s.expression]) ∧
    (Query.read {} (queryText words s)).diagnostic? = none := by
  obtain ⟨fulltext, expression, hlex, hfulltext, hexpression⟩ := exists_lex_eq words s.lexes
  obtain ⟨marker, ts, rfl, hmarker, hts⟩ := List.map_eq_cons_iff.1 hexpression
  have hread := read_of_asks hlex ((s.asks hts).marked hmarker)
  have htexts : fulltext.map Token.text = words.map smallLetters := by
    have hfst := congrArg (List.map Prod.fst) hfulltext
    rwa [List.map_map, List.map_map] at hfst
  have hempty : fulltext = [] ↔ words = [] := by
    rw [← List.map_eq_nil_iff (f := Token.text), htexts, List.map_eq_nil_iff]
  simp only [hempty, htexts] at hread
  exact hread

end Zettel.Query
