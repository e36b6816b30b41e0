import Zettel.Proofs.Query.Clauses
import Zettel.Proofs.Search.Narrowing
import Zettel.Vault

/-!
# The form of what a query asks for

However faulty a query is, what it asks for has a certain form. It is put in order and cut down as a
whole or not at all. Only several conditions are joined. The words in front of the expression make
up the first condition. And where content is looked for in unprotected notes, it is looked for in
protected notes as well.

Main statement: `wellFormed_narrows_of_read`, what a query asks for has this form, and its condition
chooses among the notes that it is evaluated for.
-/

namespace Zettel.Query

namespace Expression

/-! ## Where an expression stands -/

/-- The expressions that an expression is put together from. -/
def parts : Expression → List Expression
  | allOf parts => parts
  | anyOf parts => parts
  | not part => [part]
  | relationWhere _ target => [target]
  | descendantOf ancestor => [ancestor]
  | childOf parent => [parent]
  | parentOf child => [child]
  | orderByAndLimit inner _ _ => [inner]
  | _ => []

/-- The expression `e` stands somewhere in another one, or is the whole of it. -/
inductive StandsIn (e : Expression) : Expression → Prop
  | whole : StandsIn e e
  | part {p whole : Expression} (hp : p ∈ whole.parts) (h : StandsIn e p) : StandsIn e whole

variable {e : Expression}

theorem forall_standsIn_iff {P : Expression → Prop} :
    (∀ e', StandsIn e' e → P e') ↔ P e ∧ ∀ p ∈ e.parts, ∀ e', StandsIn e' p → P e' := by
  constructor
  · exact fun h => ⟨h e .whole, fun p hp e' he' => h e' (.part hp he')⟩
  · rintro ⟨hwhole, hparts⟩ e' (_ | ⟨hp, he'⟩)
    · exact hwhole
    · exact hparts _ hp e' he'

theorem forall_standsIn_of_parts_eq_nil {P : Expression → Prop} (hnone : e.parts = []) :
    (∀ e', StandsIn e' e → P e') ↔ P e := by
  rw [forall_standsIn_iff, hnone]
  simp

/-- What is asked of the notes, before they are put in order and cut down. -/
def condition : Expression → Expression
  | orderByAndLimit inner _ _ => inner
  | e => e

/-- The conditions that all have to hold. -/
def conjuncts : Expression → List Expression
  | allOf parts => parts
  | e => [e]

/-! ## Well-formed expressions -/

/-- The form of an expression, as far as its own kind and its parts show it. -/
structure HasForm (e : Expression) : Prop where
  /-- It puts nothing in order and cuts nothing down. -/
  unordered : ∀ inner order limit, e ≠ .orderByAndLimit inner order limit
  /-- It joins several conditions, not one or none. -/
  joinsSeveral : ∀ parts, e = .allOf parts ∨ e = .anyOf parts → 2 ≤ parts.length
  /-- Where its parts look for content in unprotected notes, they are alternatives, and the next one
  looks for the same in protected notes. -/
  pairsContent : ∀ i op tokens, e.parts[i]? = some (.noteContent op tokens) →
    (∃ parts, e = .anyOf parts) ∧ e.parts[i + 1]? = some (.protectedContent op tokens)

/-- The form of a condition: what stands in it has a form, and it is more than a search for content
in unprotected notes. -/
structure IsRegular (e : Expression) : Prop where
  form : ∀ e', StandsIn e' e → e'.HasForm
  contentInside : ∀ op tokens, e ≠ .noteContent op tokens

/-- The condition asks for no words. -/
def IsWordless (e : Expression) : Prop := ∀ e', StandsIn e' e → ∀ tokens, e' ≠ .fulltext tokens

/-- The form of what a query asks for: a condition, which is perhaps put in order and cut down as a
whole. Words are looked for in its first conjunct only. -/
structure IsWellFormed (e : Expression) : Prop where
  condition : e.condition.IsRegular
  wordsFirst : ∀ e' ∈ e.condition.conjuncts.tail, e'.IsWordless

theorem hasForm_of_parts (hordering : ∀ inner order limit, e ≠ .orderByAndLimit inner order limit)
    (hjoins : ∀ parts, e = .allOf parts ∨ e = .anyOf parts → 2 ≤ parts.length)
    (hparts : ∀ p ∈ e.parts, ∀ op tokens, p ≠ .noteContent op tokens) : e.HasForm where
  unordered := hordering
  joinsSeveral := hjoins
  pairsContent _ op tokens hi := absurd rfl (hparts _ (List.mem_of_getElem? hi) op tokens)

/-- Content is looked for behind other alternatives, in unprotected and protected notes alike. -/
theorem hasForm_contentLast {front : List Expression}
    (hfront : ∀ e ∈ front, ∀ op tokens, e ≠ .noteContent op tokens) (op : Operator)
    (tokens : List String) :
    (anyOf (front ++ [.noteContent op tokens, .protectedContent op tokens])).HasForm where
  unordered := by simp
  joinsSeveral := by
    rintro parts (heq | heq) <;> cases heq
    simp
  pairsContent i op' tokens' hi := by
    refine ⟨⟨_, rfl⟩, ?_⟩
    rw [parts] at hi ⊢
    rcases lt_or_ge i front.length with hlt | hge
    · rw [List.getElem?_append_left hlt] at hi
      exact absurd rfl (hfront _ (List.mem_of_getElem? hi) op' tokens')
    · rw [List.getElem?_append_right hge] at hi
      rw [List.getElem?_append_right (Nat.le_succ_of_le hge), Nat.succ_sub hge]
      generalize i - front.length = k at hi ⊢
      rcases k with _ | _ | k
      · obtain ⟨rfl, rfl⟩ := noteContent.inj (Option.some.inj hi)
        rfl
      · cases hi
      · cases hi

/-- Alternatives of which the last two look for content are regular if the others are. -/
theorem isRegular_contentLast (front : List Expression) (hfront : ∀ e ∈ front, e.IsRegular)
    (op : Operator) (tokens : List String) :
    (anyOf (front ++ [.noteContent op tokens, .protectedContent op tokens])).IsRegular where
  form := by
    rw [forall_standsIn_iff]
    refine ⟨hasForm_contentLast (fun e he => (hfront e he).contentInside) op tokens, fun p hp => ?_⟩
    rcases List.mem_append.1 hp with hp | hp
    · exact (hfront p hp).form
    · simp only [List.mem_cons, List.not_mem_nil, or_false] at hp
      rcases hp with rfl | rfl <;> rw [forall_standsIn_of_parts_eq_nil rfl] <;>
        exact hasForm_of_parts (by simp) (by simp) (by simp [parts])
  contentInside := by simp

/-- Conditions that are regular and ask for no words make up others, if several are joined. -/
theorem isRegular_of_parts (hordering : ∀ inner order limit, e ≠ .orderByAndLimit inner order limit)
    (hjoins : ∀ parts, e = .allOf parts ∨ e = .anyOf parts → 2 ≤ parts.length)
    (hcontent : ∀ op tokens, e ≠ .noteContent op tokens) (hwords : ∀ tokens, e ≠ .fulltext tokens)
    (hparts : ∀ p ∈ e.parts, p.IsRegular ∧ p.IsWordless) : e.IsRegular ∧ e.IsWordless := by
  have hform := hasForm_of_parts hordering hjoins fun p hp => (hparts p hp).1.contentInside
  exact ⟨⟨forall_standsIn_iff.2 ⟨hform, fun p hp => (hparts p hp).1.form⟩, hcontent⟩,
    forall_standsIn_iff.2 ⟨hwords, fun p hp => (hparts p hp).2⟩⟩

/-- Whatever conditions come to stand together, they are regular, and ask for no words. -/
theorem isComposed_isRegular : IsComposed fun e => e.IsRegular ∧ e.IsWordless := by
  constructor
  case allOf | anyOf =>
    intro parts htwo h
    refine isRegular_of_parts (by simp) ?_ (by simp) (by simp) h
    rintro parts' (heq | heq) <;> cases heq
    exact htwo
  case content =>
    intro c
    refine ⟨isRegular_contentLast [] (by simp) _ _, forall_standsIn_iff.2
      ⟨by simp [contentCondition], ?_⟩⟩
    intro p hp
    rw [contentCondition, parts, List.mem_pair] at hp
    rcases hp with rfl | rfl <;> exact (forall_standsIn_of_parts_eq_nil rfl).2 (by simp)
  case attributeExists | attributeCompare | propertyComparison =>
    intros
    refine isRegular_of_parts ?_ ?_ ?_ ?_ ?_ <;> simp [parts]
  case relationWhere =>
    intro name target h
    refine isRegular_of_parts ?_ ?_ ?_ ?_ (by simpa [parts] using h) <;> simp
  case descendantOf | childOf | parentOf =>
    intro part h
    refine isRegular_of_parts ?_ ?_ ?_ ?_ (by simpa [parts] using h) <;> simp

/-- Without its clauses the expression of a query is its condition. -/
theorem condition_withClauses (h : ∀ inner order limit, e ≠ .orderByAndLimit inner order limit)
    (order : List OrderTerm) (limit : Option Nat) : (e.withClauses order limit).condition = e := by
  rw [withClauses]
  split_ifs
  · unfold condition
    split
    · exact absurd rfl (h _ _ _)
    · rfl
  · rfl

theorem IsWordless.of_mem_conjuncts {e' : Expression} (h : e.IsWordless) (he' : e' ∈ e.conjuncts) :
    e'.IsWordless := by
  unfold conjuncts at he'
  split at he'
  · exact (forall_standsIn_iff.1 h).2 e' he'
  · exact List.mem_singleton.1 he' ▸ h

end Expression

open Expression

/-! ## Queries -/

variable {o : ReadOptions} {e : Expression}

/-- The words are one condition, which does not join others that all have to hold. -/
theorem isRegular_wordsCondition {words : List String} (he : wordsCondition o words = some e) :
    e.IsRegular ∧ e.conjuncts = [e] := by
  have hform : (fulltext words).HasForm :=
    hasForm_of_parts (by simp) (by simp) (by simp [parts])
  have hwords : (fulltext words).IsRegular :=
    ⟨(forall_standsIn_of_parts_eq_nil rfl).2 hform, by simp⟩
  unfold wordsCondition at he
  split_ifs at he
  · obtain rfl := Option.some.inj he
    exact ⟨isRegular_contentLast [.fulltext words] (by simpa using hwords) _ _, rfl⟩
  · obtain rfl := Option.some.inj he
    exact ⟨hwords, rfl⟩

/-- The condition of a query is regular, and only its first conjunct asks for words. -/
theorem isRegular_conditionOf {words : List Token} {trees : List Tree}
    (he : conditionOf o words trees = some e) :
    e.IsRegular ∧ ∀ e' ∈ e.conjuncts.tail, e'.IsWordless := by
  have hwords : ∀ w, wordsCondition o (words.map Token.text) = some w →
      w.IsRegular ∧ w.conjuncts = [w] := fun w => isRegular_wordsCondition
  have hsequence := all_condition_sequence isComposed_isRegular o
    (trees.takeWhile fun t => !t.word?.any isClauseWord)
    (Or.inl fun _ h => by
      refine isRegular_of_parts ?_ ?_ ?_ ?_ (by simpa [parts] using h) <;> simp)
  unfold conditionOf at he
  generalize wordsCondition o (words.map Token.text) = asked at he hwords
  generalize (sequence o _).condition = structured at he hsequence
  rcases asked with _ | w <;> rcases structured with _ | c
  case none.none => cases he
  case some.none =>
    obtain rfl := Option.some.inj he
    obtain ⟨hregular, hlone⟩ := hwords _ rfl
    exact ⟨hregular, by simp [hlone]⟩
  case none.some =>
    obtain rfl := Option.some.inj he
    obtain ⟨hregular, hwordless⟩ := hsequence _ rfl
    exact ⟨hregular, fun e' he' => hwordless.of_mem_conjuncts (List.mem_of_mem_tail he')⟩
  case some.some =>
    obtain rfl := Option.some.inj he
    obtain ⟨hregular, -⟩ := hwords _ rfl
    obtain ⟨hregular', hwordless⟩ := hsequence _ rfl
    refine ⟨⟨forall_standsIn_iff.2 ⟨hasForm_of_parts (by simp) ?_ ?_, ?_⟩, by simp⟩, ?_⟩
    · rintro parts (heq | heq) <;> cases heq
      simp
    · simpa [parts] using ⟨hregular.contentInside, hregular'.contentInside⟩
    · simpa [parts] using ⟨hregular.form, hregular'.form⟩
    · simpa [conjuncts] using hwordless

/-- What a query asks for is well formed, whatever the query is. -/
theorem isWellFormed_of_read {query : String} (he : (read o query).expression = some e) :
    e.IsWellFormed := by
  obtain ⟨c, hc, rfl⟩ := Option.map_eq_some_iff.1 ((expression_readTrees ..).symm.trans he)
  obtain ⟨hregular, hwords⟩ := isRegular_conditionOf hc
  have hcondition := condition_withClauses (hregular.form c .whole).unordered
  exact ⟨by rwa [hcondition], by rwa [hcondition]⟩

/-- **What a query asks for is well formed**, whatever the query is, and if the evaluation of its
condition comes through, it finds only notes of the set that it is evaluated for. -/
theorem wellFormed_narrows_of_read {query : String} (he : (read o query).expression = some e) :
    e.IsWellFormed ∧ ∀ scope memo (s found : NoteSet),
      Search.outcome scope memo e.condition s = .ok found → found.ids ⊆ s.ids :=
  ⟨isWellFormed_of_read he, fun _ _ _ _ => Search.subset_of_outcome⟩

/-- Two notes of one title, of which one has the label `a`. -/
def towerScope : Search.Scope where
  graph := (Vault.ofSnapshot
    { notes := [{ id := "n", title := "Tower" }, { id := "m", title := "Tower" }]
      attributes := [{ id := "an", owner := "n", kind := .label, name := "a" }] }).graph

/-- An operator without a second operand and a parenthesis too many do no harm. -/
theorem wellFormed_narrows_towerScope :
    (read {} "tower #a and ) orderby title limit 1").diagnostic?.isSome = true ∧
    ∃ e found, (read {} "tower #a and ) orderby title limit 1").expression = some e ∧
      e.IsWellFormed ∧ Search.outcome towerScope ∅ e.condition (.ofIds ["n", "m"]) = .ok found ∧
      found.ids = ["n"] ∧ found.ids ⊆ (NoteSet.ofIds ["n", "m"]).ids := by
  have hfinds : ((read {} "tower #a and ) orderby title limit 1").expression.map fun e =>
      (Search.outcome towerScope ∅ e.condition (.ofIds ["n", "m"])).map NoteSet.ids) =
        some (.ok ["n"]) := by decide +kernel
  obtain ⟨e, hread, he⟩ := Option.map_eq_some_iff.1 hfinds
  obtain ⟨hwellFormed, hnarrows⟩ := wellFormed_narrows_of_read hread
  cases hfound : Search.outcome towerScope ∅ e.condition (.ofIds ["n", "m"]) with
  | error failure =>
    rw [hfound] at he
    cases he
  | ok found =>
    rw [hfound] at he
    exact ⟨by decide +kernel, e, found, hread, hwellFormed, hfound, Except.ok.inj he,
      hnarrows _ _ _ _ hfound⟩

end Zettel.Query
