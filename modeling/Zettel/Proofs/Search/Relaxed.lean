import Zettel.Proofs.Query.Clauses
import Zettel.Proofs.Query.Escaped
import Zettel.Proofs.Query.Relaxed
import Zettel.Proofs.Search.Results

/-!
# Relaxed matching finds more

An exact and a relaxed expression are evaluated side by side, the relaxed one for at least as many
notes. Without a negation both fail alike, or the relaxed one finds what the other finds. This needs
that relaxed leaves find more: names do, since a name begins with itself, but values only do if they
are compared as texts. The numbers `10` and `010` are equal, but the one does not occur in the
other.

Main statements: `widens_relaxed`, evaluation side by side, and `search_relaxed`, the results of the
two searches.
-/

namespace Zettel

/-! ## Expressions without negation -/

namespace Query

namespace Expression

mutual

/-- The expression and all that it consists of satisfy `P`. -/
def Throughout (P : Expression → Prop) : Expression → Prop
  | allOf parts => P (.allOf parts) ∧ ThroughoutAll P parts
  | anyOf parts => P (.anyOf parts) ∧ ThroughoutAll P parts
  | not part => P (.not part) ∧ part.Throughout P
  | relationWhere name target => P (.relationWhere name target) ∧ target.Throughout P
  | descendantOf ancestor => P (.descendantOf ancestor) ∧ ancestor.Throughout P
  | childOf parent => P (.childOf parent) ∧ parent.Throughout P
  | parentOf child => P (.parentOf child) ∧ child.Throughout P
  | orderByAndLimit inner order limit =>
    P (.orderByAndLimit inner order limit) ∧ inner.Throughout P
  | e => P e

/-- Each of some expressions and all that they consist of satisfy `P`. -/
def ThroughoutAll (P : Expression → Prop) : List Expression → Prop
  | [] => True
  | e :: es => e.Throughout P ∧ ThroughoutAll P es

end

theorem throughoutAll_iff {P : Expression → Prop} {es : List Expression} :
    ThroughoutAll P es ↔ ∀ e ∈ es, e.Throughout P := by
  induction es with
  | nil => simp [ThroughoutAll]
  | cons e es ih => simp [ThroughoutAll, ih]

/-- Nothing is negated. -/
def IsPositive (e : Expression) : Prop := e.Throughout fun e => ∀ part, e ≠ .not part

theorem isClosed_isPositive : IsClosed IsPositive where
  allOf h := ⟨nofun, throughoutAll_iff.2 h⟩
  anyOf h := ⟨nofun, throughoutAll_iff.2 h⟩
  fulltext _ := nofun
  noteContent _ _ := nofun
  protectedContent _ _ := nofun
  attributeExists _ _ _ := nofun
  attributeCompare _ _ _ := nofun
  propertyComparison _ _ := nofun
  relationWhere _ _ h := ⟨nofun, h⟩
  descendantOf h := ⟨nofun, h⟩
  childOf h := ⟨nofun, h⟩
  parentOf h := ⟨nofun, h⟩

end Expression

/-- No token of the expression negates. -/
def NegatesNothing (query : String) : Prop := ∀ t ∈ (lex query).expression, t.negates = false

/-- No token of the expression begins a clause. -/
def HasNoClause (query : String) : Prop :=
  ∀ t ∈ (lex query).expression, t.inQuotes = false → isClauseWord t.text = false

instance : DecidablePred NegatesNothing := fun query =>
  inferInstanceAs (Decidable (∀ t ∈ (lex query).expression, _))

instance : DecidablePred HasNoClause := fun query =>
  inferInstanceAs (Decidable (∀ t ∈ (lex query).expression, _))

open Expression

/-- A query without negations and clauses asks for a condition that negates nothing. -/
theorem read_of_negatesNothing {query : String} (hnot : NegatesNothing query)
    (hclause : HasNoClause query) {o : ReadOptions} {e : Expression}
    (he : (read o query).expression = some e) : e.IsPositive ∧ e.IsCondition := by
  have hcondition : ∃ c,
      conditionOf o (lex query).fulltext (Tree.nest (lex query).expression).trees = some c ∧
      c.withClauses (clausesOf (Tree.nest (lex query).expression).trees).order
        (clausesOf (Tree.nest (lex query).expression).trees).limit = e :=
    Option.map_eq_some_iff.1 he
  obtain ⟨c, hc, rfl⟩ := hcondition
  have hdrop : (Tree.nest (lex query).expression).trees.dropWhile
      (fun t => !t.word?.any isClauseWord) = [] := by
    rw [List.dropWhile_eq_nil_iff]
    intro t ht
    cases t with
    | group g => rfl
    | token t =>
      by_cases hquotes : t.inQuotes = true
      · simp [Tree.word?, hquotes]
      · have hmem := Tree.mem_flattenAll.2 ⟨.token t, ht, List.mem_singleton_self t⟩
        have hword : isClauseWord t.text = false := by
          rcases Tree.exists_lexeme_eq_of_mem_trees hmem with rfl | ⟨u, hu, hlexeme⟩
          · decide
          · obtain ⟨htext, hquotes'⟩ := Prod.mk.inj hlexeme
            rw [htext]
            exact hclause u hu (by simpa [hquotes'] using hquotes)
        simp [Tree.word?, hquotes, hword]
  have hclauses : clausesOf (Tree.nest (lex query).expression).trees = {} := by
    rw [clausesOf, hdrop, clauses_nil]
  rw [hclauses]
  exact ⟨all_conditionOf isClosed_isPositive (Or.inr fun t => Tree.negates_of_mem_trees hnot) hc,
    isCondition_conditionOf hc⟩

/-! ## Comparisons as texts -/

namespace Comparator

/-- The comparison finds no attribute of the kind and name equal that does not contain the value as
a text. -/
def EqualsByText (c : Comparator) (g : Graph) (kind : AttributeKind) (name : String) : Prop :=
  c.operator = .equal → ∀ a ∈ Search.namedAttributes g kind name false, c.admits a.value = true →
    Text.occurs c.value (Text.lowercase a.value) = true

/-- A text that is no number is equal to itself only. -/
theorem equalsByText_of_no_number {c : Comparator} (h : Number.ofText? c.value = none) (g : Graph)
    (kind : AttributeKind) (name : String) : c.EqualsByText g kind name := by
  intro hequal a _ hadmits
  have hcompare : compareText (Text.lowercase a.value) c.value = .eq := by
    simpa [admits, hequal] using hadmits
  have heq : Text.lowercase a.value = c.value := by
    unfold compareText at hcompare
    rw [h] at hcompare
    cases hnumber : Number.ofText? (Text.lowercase a.value) <;>
      exact Std.LawfulEqOrd.eq_of_compare (by simpa [hnumber] using hcompare)
  rw [heq]
  exact Text.occursL_iff.2 (List.infix_refl _)

theorem admits_relaxed {c : Comparator} {g : Graph} {kind : AttributeKind} {name : String}
    (h : c.EqualsByText g kind name) {a : Attribute}
    (ha : a ∈ Search.namedAttributes g kind name false) (hadmits : c.admits a.value = true) :
    c.relaxed.admits a.value = true := by
  by_cases hequal : c.operator = .equal
  · have hoccurs := h hequal a ha hadmits
    simpa [relaxed, admits, hequal] using hoccurs
  · rwa [relaxed_of_ne hequal]

end Comparator

/-- No comparison in the expression finds an attribute equal that does not contain the value as a
text. -/
def Expression.ComparesTexts (g : Graph) (e : Expression) : Prop :=
  e.Throughout fun e => ∀ kind name c, e = .attributeCompare kind name c →
    c.EqualsByText g kind name

end Query

namespace Search

open Query Expression

/-! ## Two evaluations side by side -/

section Related

variable {α β α' β' : Type} {R : α → β → Prop} {S : α' → β' → Prop}

/-- Both evaluations fail alike, or the results are related. -/
inductive Related (R : α → β → Prop) : Except Failure α → Except Failure β → Prop
  | failure (failure : Failure) : Related R (.error failure) (.error failure)
  | results {a : α} {b : β} (h : R a b) : Related R (.ok a) (.ok b)

theorem Related.bind {x : Except Failure α} {y : Except Failure β} {f : α → Except Failure α'}
    {g : β → Except Failure β'} (h : Related R x y) (hfg : ∀ a b, R a b → Related S (f a) (g b)) :
    Related S (x >>= f) (y >>= g) := by
  cases h with
  | failure failure => exact .failure failure
  | results h => exact hfg _ _ h

theorem Related.spec {x : Except Failure α} {y : Except Failure β} (h : Related R x y) :
    (∀ failure, x = .error failure ↔ y = .error failure) ∧
      ∀ a, x = .ok a → ∃ b, y = .ok b ∧ R a b := by
  cases h with
  | failure failure => exact ⟨fun f => by simp, nofun⟩
  | results h =>
    refine ⟨fun failure => ⟨nofun, nofun⟩, fun a ha => ⟨_, rfl, ?_⟩⟩
    obtain rfl := Except.ok.inj ha
    exact h

/-- If a test is passed whenever another one is, then more elements pass it. -/
theorem Related.filterM {b c : α → Except Failure Bool}
    (h : ∀ a, Related (fun p q : Bool => p = true → q = true) (b a) (c a)) (as : List α) :
    Related (· ⊆ ·) (as.filterM b) (as.filterM c) := by
  have hloop : ∀ (as found found' : List α), found ⊆ found' →
      Related (· ⊆ ·) (as.filterAuxM b found) (as.filterAuxM c found') := by
    intro as
    induction as with
    | nil => exact fun found found' hfound => .results hfound
    | cons a as ih =>
      intro found found' hfound
      refine (h a).bind fun p q hpq => ih _ _ ?_
      cases p with
      | false => cases q with
        | false => exact hfound
        | true => exact List.subset_cons_of_subset a hfound
      | true =>
        rw [hpq rfl]
        exact List.cons_subset_cons a hfound
  refine (hloop as [] [] (List.Subset.refl _)).bind fun found found' hfound => .results ?_
  intro a ha
  exact List.mem_reverse.2 (hfound (List.mem_reverse.1 ha))

end Related

/-- The members of one set are members of the other. -/
structure Within (s t : NoteSet) : Prop where
  left : s.InStep
  right : t.InStep
  subset : s.ids ⊆ t.ids

/-- For more notes at least as much is found, or both fail alike. -/
def Widens (f g : NoteSet → Except Failure NoteSet) : Prop :=
  ∀ s t, Within s t → Related Within (f s) (g t)

section Within

variable {s t s' t' : NoteSet} {n : NoteId}

theorem Within.refl (h : s.InStep) : Within s s := ⟨h, h, List.Subset.refl _⟩

theorem Within.ofIds {ns ms : List NoteId} (h : ns ⊆ ms) :
    Within (NoteSet.ofIds ns) (NoteSet.ofIds ms) where
  left := NoteSet.inStep_ofIds ns
  right := NoteSet.inStep_ofIds ms
  subset _ hn := NoteSet.mem_ofIds.2 (h (NoteSet.mem_ofIds.1 hn))

theorem Within.has (h : Within s t) (hn : s.has n = true) : t.has n = true :=
  (h.right.has_iff n).2 (h.subset ((h.left.has_iff n).1 hn))

theorem Within.filter (h : Within s t) {p q : NoteId → Bool} (hpq : ∀ n, p n = true → q n = true) :
    Within (s.filter p) (t.filter q) := by
  refine ⟨NoteSet.inStep_filter s p, NoteSet.inStep_filter t q, fun n hn => ?_⟩
  obtain ⟨hn, hp⟩ := NoteSet.mem_filter.1 hn
  exact NoteSet.mem_filter.2 ⟨h.subset hn, hpq n hp⟩

theorem Within.intersection (h : Within s t) (h' : Within s' t') :
    Within (s.intersection s') (t.intersection t') := h.filter fun _ => h'.has

theorem Within.addAll (h : Within s t) (h' : Within s' t') :
    Within (s.addAll s') (t.addAll t') := by
  refine ⟨h.left.addAll s', h.right.addAll t', fun n hn => h.right.mem_addAll.2 ?_⟩
  exact (h.left.mem_addAll.1 hn).imp (fun hn => h.subset hn) fun hn => h'.subset hn

theorem Within.reachOfAll {as bs : List Attribute} (g : Graph) (h : as ⊆ bs) :
    Within (reachOfAll g as) (reachOfAll g bs) := by
  refine .ofIds fun n hn => ?_
  obtain ⟨a, ha, hn⟩ := List.mem_flatMap.1 hn
  exact List.mem_flatMap.2 ⟨a, h ha, hn⟩

end Within

/-! ## Expressions of each kind -/

section Kinds

variable {scope : Scope} {memo : Memo} {e e' : Expression} {parts : List Expression}

theorem Tests.widens (h : Tests scope memo (evaluate scope e)) :
    Widens (outcome scope memo e) (outcome scope memo e) := by
  obtain ⟨v, hv⟩ := h
  intro s t hst
  rw [outcome_eq (hv s), outcome_eq (hv t)]
  cases v with
  | error failure => exact .failure failure
  | ok test => exact .results (hst.filter fun _ => id)

theorem widens_allOf
    (h : ∀ e ∈ parts, Widens (outcome scope memo e) (outcome scope memo e.relaxed)) :
    Widens (outcome scope memo (.allOf parts))
      (outcome scope memo (.allOf (parts.map Expression.relaxed))) := by
  induction parts with
  | nil =>
    intro s t hst
    rw [List.map_nil, outcome_allOf_nil, outcome_allOf_nil]
    exact .results hst
  | cons e parts ih =>
    rw [List.forall_mem_cons] at h
    rw [List.map_cons, outcome_allOf_cons, outcome_allOf_cons]
    exact fun s t hst => (h.1 s t hst).bind fun s' t' => ih h.2 s' t'

theorem widens_anyOf
    (h : ∀ e ∈ parts, Widens (outcome scope memo e) (outcome scope memo e.relaxed)) :
    Widens (outcome scope memo (.anyOf parts))
      (outcome scope memo (.anyOf (parts.map Expression.relaxed))) := by
  intro s t hst
  have hdelivers := fun (parts : List Expression) s =>
    outcome_eq (delivers_anyOf (fun e (_ : e ∈ parts) => delivers_evaluate scope memo e) s)
  rw [hdelivers, hdelivers]
  -- what was found by then grows with it
  have hloop : ∀ found found', Within found found' → Related Within
      (parts.foldlM (fun found e => return found.addAll (← outcome scope memo e s)) found)
      ((parts.map Expression.relaxed).foldlM
        (fun found e => return found.addAll (← outcome scope memo e t)) found') := by
    induction parts with
    | nil => exact fun found found' hfound => .results hfound
    | cons e parts ih =>
      rw [List.forall_mem_cons] at h
      intro found found' hfound
      rw [List.map_cons, List.foldlM_cons, List.foldlM_cons, bind_assoc, bind_assoc]
      refine (h.1 s t hst).bind fun s' t' hmore => ?_
      rw [pure_bind, pure_bind]
      exact ih h.2 _ _ (hfound.addAll hmore)
  exact hloop .empty .empty (.refl NoteSet.inStep_empty)

theorem namedAttributes_subset (g : Graph) (kind : AttributeKind) (name : String)
    (byBeginning : Bool) :
    namedAttributes g kind name byBeginning ⊆ namedAttributes g kind name true := by
  cases byBeginning with
  | true => exact List.Subset.refl _
  | false =>
    have hids : g.findAttributes kind name ⊆ g.findAttributesBeginning kind name := by
      intro id hid
      rw [Graph.findAttributes] at hid
      cases hentry : g.index.get? (kind, Text.lowercase name) with
      | none => simp [hentry] at hid
      | some ids =>
        rw [hentry, Option.getD_some] at hid
        refine List.mem_flatMap.2 ⟨((kind, Text.lowercase name), ids), ?_, hid⟩
        rw [sortOn, mem_sortBy, List.mem_filter]
        exact ⟨Table.get?_eq_some_iff.1 hentry, by simp [Text.beginsWith]⟩
    exact fun a ha => by
      obtain ⟨id, hid, ha⟩ := List.mem_filterMap.1 ha
      exact List.mem_filterMap.2 ⟨id, hids hid, ha⟩

theorem widens_attributeExists (scope : Scope) (memo : Memo) (kind : AttributeKind) (name : String)
    (byBeginning : Bool) : Widens (outcome scope memo (.attributeExists kind name byBeginning))
      (outcome scope memo (.attributeExists kind name true)) := by
  intro s t hst
  have houtcome : ∀ b s, outcome scope memo (.attributeExists kind name b) s =
      .ok (s.intersection (reachOfAll scope.graph (namedAttributes scope.graph kind name b))) :=
    fun b s => by rw [outcome, evaluate]; rfl
  rw [houtcome, houtcome]
  exact .results (hst.intersection (.reachOfAll scope.graph (namedAttributes_subset _ _ _ _)))

theorem widens_attributeCompare {kind : AttributeKind} {name : String} {c : Comparator}
    (h : c.EqualsByText scope.graph kind name) :
    Widens (outcome scope memo (.attributeCompare kind name c))
      (outcome scope memo (.attributeCompare kind name c.relaxed)) := by
  intro s t hst
  have houtcome : ∀ (c : Comparator) s, outcome scope memo (.attributeCompare kind name c) s =
      .ok (s.intersection (reachOfAll scope.graph
        ((namedAttributes scope.graph kind name false).filter (c.admits ·.value)))) :=
    fun c s => by rw [outcome, evaluate]; rfl
  rw [houtcome, houtcome]
  refine .results (hst.intersection (.reachOfAll scope.graph fun a ha => ?_))
  obtain ⟨ha, hadmits⟩ := List.mem_filter.1 ha
  exact List.mem_filter.2 ⟨ha, Comparator.admits_relaxed h ha hadmits⟩

/-- The relations with a name whose targets satisfy an expression. -/
def relationsTo (scope : Scope) (memo : Memo) (name : String) (target : Expression) :
    Except Failure (List Attribute) :=
  (namedAttributes scope.graph .relation name false).filterM fun a =>
    (a.target?.filter scope.graph.hasNote).elim (.ok false) fun t => do
      return (← outcome scope memo target (NoteSet.ofIds [t])).has t

theorem outcome_relationWhere (name : String) (s : NoteSet) :
    outcome scope memo (.relationWhere name e) s = do
      return s.intersection (reachOfAll scope.graph (← relationsTo scope memo name e)) := by
  have hdelivers : Delivers scope memo (evaluate scope (.relationWhere name e) s)
      (relationsTo scope memo name e >>= fun relations =>
        .ok (s.intersection (reachOfAll scope.graph relations))) := by
    rw [evaluate]
    refine Delivers.bind (Delivers.filterM (fun a => ?_) _) fun _ => .pure _
    cases a.target?.filter scope.graph.hasNote with
    | none => exact .pure _
    | some t => exact (delivers_evaluate scope memo e _).bind fun _ => .pure _
  exact outcome_eq hdelivers

theorem widens_relationWhere (h : Widens (outcome scope memo e) (outcome scope memo e'))
    (name : String) : Widens (outcome scope memo (.relationWhere name e))
      (outcome scope memo (.relationWhere name e')) := by
  intro s t hst
  rw [outcome_relationWhere, outcome_relationWhere]
  have hrelations : Related (· ⊆ ·) (relationsTo scope memo name e)
      (relationsTo scope memo name e') := by
    refine Related.filterM (fun a => ?_) _
    cases a.target?.filter scope.graph.hasNote with
    | none => exact .results id
    | some t =>
      exact (h _ _ (.refl (NoteSet.inStep_ofIds [t]))).bind fun _ _ hfound => .results hfound.has
  exact hrelations.bind fun _ _ hmore =>
    .results (hst.intersection (.reachOfAll scope.graph hmore))

theorem outcome_descendantOf (s : NoteSet) : outcome scope memo (.descendantOf e) s = do
    let matching ← outcome scope memo e (NoteSet.ofIds scope.graph.noteIds)
    return s.intersection (NoteSet.ofIds (matching.ids.flatMap scope.graph.subtree)) := by
  have hdelivers : Delivers scope memo (evaluate scope (.descendantOf e) s)
      (outcome scope memo e (NoteSet.ofIds scope.graph.noteIds) >>= fun matching =>
        .ok (s.intersection (NoteSet.ofIds (matching.ids.flatMap scope.graph.subtree)))) := by
    rw [evaluate]
    exact (delivers_evaluate scope memo e _).bind fun _ => .pure _
  exact outcome_eq hdelivers

theorem widens_descendantOf (h : Widens (outcome scope memo e) (outcome scope memo e')) :
    Widens (outcome scope memo (.descendantOf e)) (outcome scope memo (.descendantOf e')) := by
  intro s t hst
  rw [outcome_descendantOf, outcome_descendantOf]
  refine (h _ _ (.refl (NoteSet.inStep_ofIds _))).bind fun s' t' hmore => ?_
  refine .results (hst.intersection (.ofIds fun n hn => ?_))
  obtain ⟨a, ha, hn⟩ := List.mem_flatMap.1 hn
  exact List.mem_flatMap.2 ⟨a, hmore.subset ha, hn⟩

/-- More relatives are found among those of more notes. -/
theorem widens_related {related : Note → List NoteId} {f f' : NoteSet → Except Failure NoteSet}
    (hf : ∀ s, f s = do
      let found ← outcome scope memo e (pool scope.graph s related)
      return filterNotes scope.graph s fun note => (related note).any found.has)
    (hf' : ∀ s, f' s = do
      let found ← outcome scope memo e' (pool scope.graph s related)
      return filterNotes scope.graph s fun note => (related note).any found.has)
    (h : Widens (outcome scope memo e) (outcome scope memo e')) : Widens f f' := by
  intro s t hst
  rw [hf, hf']
  have hpool : Within (pool scope.graph s related) (pool scope.graph t related) := by
    refine .ofIds fun n hn => ?_
    obtain ⟨note, hnote, hn⟩ := List.mem_flatMap.1 hn
    obtain ⟨m, hm, hnote⟩ := List.mem_filterMap.1 hnote
    exact List.mem_flatMap.2 ⟨note, List.mem_filterMap.2 ⟨m, hst.subset hm, hnote⟩, hn⟩
  refine (h _ _ hpool).bind fun s' t' hmore => .results (hst.filter fun n hn => ?_)
  obtain ⟨note, hnote, hany⟩ := (Option.any_eq_true _ _).1 hn
  obtain ⟨r, hr, hfound⟩ := List.any_eq_true.1 hany
  exact (Option.any_eq_true _ _).2 ⟨note, hnote, List.any_eq_true.2 ⟨r, hr, hmore.has hfound⟩⟩

end Kinds

/-- **A relaxed condition finds more.** Without a negation, and if values are compared as texts,
what an expression finds the relaxed one finds too, and they fail alike. -/
theorem widens_relaxed (scope : Scope) (memo : Memo) {e : Expression} (hpositive : e.IsPositive)
    (hcondition : e.IsCondition) (htexts : e.ComparesTexts scope.graph) :
    Widens (outcome scope memo e) (outcome scope memo e.relaxed) := by
  induction e using Expression.inductionOn with
  | allOf parts ih =>
    rw [relaxed_allOf]
    refine widens_allOf fun e he => ih e he (throughoutAll_iff.1 hpositive.2 e he) ?_
      (throughoutAll_iff.1 htexts.2 e he)
    exact fun test => anyOrderingOf_eq_false.1 (hcondition test) e he
  | anyOf parts ih =>
    rw [relaxed_anyOf]
    refine widens_anyOf fun e he => ih e he (throughoutAll_iff.1 hpositive.2 e he) ?_
      (throughoutAll_iff.1 htexts.2 e he)
    exact fun test => anyOrderingOf_eq_false.1 (hcondition test) e he
  | not part ih => exact absurd rfl (hpositive.1 part)
  | fulltext tokens =>
    rw [Expression.relaxed]
    exact (tests_fulltext scope memo tokens).widens
  | noteContent op tokens =>
    rw [Expression.relaxed]
    exact (tests_noteContent scope memo op tokens).widens
  | protectedContent op tokens =>
    rw [Expression.relaxed]
    exact (tests_protectedContent scope memo op tokens).widens
  | attributeExists kind name byBeginning =>
    rw [Expression.relaxed]
    exact widens_attributeExists scope memo kind name byBeginning
  | attributeCompare kind name c =>
    rw [Expression.relaxed]
    exact widens_attributeCompare (htexts kind name c rfl)
  | relationWhere name target ih =>
    rw [Expression.relaxed]
    exact widens_relationWhere (ih hpositive.2 hcondition htexts.2) name
  | descendantOf ancestor ih =>
    rw [Expression.relaxed]
    exact widens_descendantOf (ih hpositive.2 hcondition htexts.2)
  | childOf parent ih =>
    rw [Expression.relaxed]
    exact widens_related
      (fun s => outcome_eq (delivers_childOf (delivers_evaluate scope memo parent) s))
      (fun s => outcome_eq (delivers_childOf (delivers_evaluate scope memo parent.relaxed) s))
      (ih hpositive.2 hcondition htexts.2)
  | parentOf child ih =>
    rw [Expression.relaxed]
    exact widens_related
      (fun s => outcome_eq (delivers_parentOf (delivers_evaluate scope memo child) s))
      (fun s => outcome_eq (delivers_parentOf (delivers_evaluate scope memo child.relaxed) s))
      (ih hpositive.2 hcondition htexts.2)
  | propertyComparison p c =>
    rw [Expression.relaxed]
    exact (tests_propertyComparison scope memo p c).widens
  | orderByAndLimit inner order limit ih =>
    have hnone := hcondition fun _ _ => true
    rw [anyOrdering, Bool.true_or] at hnone
    cases hnone

/-! ## Two searches -/

section Search

variable {scope : Scope} {memo m m' : Memo} {query : String} {o : Options}

/-- A query that asks for nothing finds nothing. -/
theorem search_of_expression_eq_none (scope : Scope) (hblank : Text.isBlankText query = false)
    (he : (Query.read o.reading query).expression = none) (m : Memo) :
    ((search scope query o).run m).1 = .ok ⟨[], (Query.read o.reading query).diagnostic?⟩ := by
  rw [search, if_neg (by simp [hblank])]
  simp only [findQuery, he]
  rfl

/-- The results for some notes are among those for more notes, unless these are as many as are
asked for. -/
theorem Within.mem_resultsFor {found found' : NoteSet} (h : Within found found') {e e' : Expression}
    (he : e.IsCondition) (he' : e'.IsCondition) (scope : Scope) (o : Options) {r : Result}
    (hr : r ∈ resultsFor scope e o found) : r ∈ resultsFor scope e' o found' ∨
      o.limit = some (resultsFor scope e' o found').length := by
  rw [resultsFor, unorderedLimit?_of_hasLimit (he _)] at hr
  rw [resultsFor, unorderedLimit?_of_hasLimit (he' _)]
  simp only [takeLimit, Option.elim_none] at hr ⊢
  have hmem : ∀ {r}, r ∈ ranked scope.graph (effectiveHoisted scope.graph o.hoisted) found →
      r ∈ ranked scope.graph (effectiveHoisted scope.graph o.hoisted) found' := fun hr => by
    obtain ⟨n, hn, hresult⟩ := mem_ranked.1 hr
    exact mem_ranked.2 ⟨n, h.subset hn, hresult⟩
  cases hlimit : o.limit with
  | none =>
    rw [hlimit] at hr
    exact Or.inl (hmem hr)
  | some k =>
    rw [hlimit] at hr
    have hr := hmem (List.mem_of_mem_take hr)
    rcases Nat.le_total
      (ranked scope.graph (effectiveHoisted scope.graph o.hoisted) found').length k with hle | hle
    · exact Or.inl (by rwa [Option.elim_some, List.take_of_length_le hle])
    · exact Or.inr (by rw [Option.elim_some, List.length_take_of_le hle])

/-- **A search that relaxes attributes finds more**, for every query without negations and clauses
whose comparisons find no attribute equal that does not contain the value as a text; values that are
no numbers never do. The searches fail alike, and what the exact one finds the relaxed one finds
too, unless it has as many results as the options ask for. -/
theorem search_relaxed (hnot : NegatesNothing query) (hclause : HasNoClause query) (o : Options)
    (htexts : ∀ e, (Query.read (.exact o.includeContent) query).expression = some e →
      e.ComparesTexts scope.graph)
    (hm : Remembered scope memo m) (hm' : Remembered scope memo m') :
    let exact := ((search scope query { o with fuzzyAttributes := false }).run m).1
    let fuzzy := ((search scope query { o with fuzzyAttributes := true }).run m').1
    (∀ failure, exact = .error failure ↔ fuzzy = .error failure) ∧
    ∀ x, exact = .ok x → ∃ y, fuzzy = .ok y ∧
      ∀ r ∈ x.results, r ∈ y.results ∨ o.limit = some y.results.length := by
  intro exact fuzzy
  refine Related.spec (R := fun x y : Outcome =>
    ∀ r ∈ x.results, r ∈ y.results ∨ o.limit = some y.results.length) ?_
  by_cases hblank : Text.isBlankText query = true
  · have hempty : ∀ o m, ((search scope query o).run m).1 = .ok {} := fun o m => by
      rw [search, if_pos hblank]
      rfl
    simp only [exact, fuzzy, hempty]
    exact .results (by simp)
  rw [Bool.not_eq_true] at hblank
  have hfuzzy := expression_read_fuzzy o.includeContent query
  cases he : (Query.read (.exact o.includeContent) query).expression with
  | none =>
    rw [he] at hfuzzy
    simp only [exact, fuzzy]
    rw [search_of_expression_eq_none (o := { o with fuzzyAttributes := false }) scope hblank he,
      search_of_expression_eq_none (o := { o with fuzzyAttributes := true }) scope hblank hfuzzy]
    exact .results (by simp)
  | some e =>
    rw [he] at hfuzzy
    obtain ⟨hpositive, hcondition⟩ := read_of_negatesNothing hnot hclause he
    have hcondition' := (read_of_negatesNothing hnot hclause hfuzzy).2
    have houtcome := widens_relaxed scope memo hpositive hcondition (htexts e he) (searched scope o)
      (searched scope o) (.refl (NoteSet.inStep_ofIds _))
    have hexact := hm.search_eq (o := { o with fuzzyAttributes := false }) hblank he
    have hrelaxed := hm'.search_eq (o := { o with fuzzyAttributes := true }) hblank hfuzzy
    simp only [exact, fuzzy, hexact, hrelaxed]
    refine Related.bind houtcome fun found found' hmore => .results fun r hr => ?_
    exact hmore.mem_resultsFor hcondition hcondition' scope o hr

/-- Two notes with the label `a`: its value is the number 10 for one of them, and 100 for the
other. -/
def tensScope : Scope where
  graph := (Vault.ofSnapshot
    { notes := [{ id := "root", title := "root" }, { id := "n", title := "n" },
        { id := "m", title := "m" }]
      branches := [{ id := "rn", child := "n", parent := "root" },
        { id := "rm", child := "m", parent := "root" }]
      attributes := [{ id := "an", owner := "n", kind := .label, name := "a", value := "10" },
        { id := "am", owner := "m", kind := .label, name := "a", value := "100" }] }).graph

/-- Where `10` is written alike everywhere, the relaxed search finds what the exact one finds. -/
theorem search_relaxed_tensScope :
    ((search tensScope "#a = 10" { fuzzyAttributes := false }).run ∅).1 =
      .ok ⟨[{ path := ["root", "n"], title := "n" }], none⟩ ∧
    ∃ y, ((search tensScope "#a = 10" { fuzzyAttributes := true }).run ∅).1 = .ok y ∧
      { path := ["root", "n"], title := "n" } ∈ y.results := by
  have hlex : lex "#a = 10" =
      ⟨[], [⟨"#a", false, 0, 1⟩, ⟨"=", false, 3, 3⟩, ⟨"10", false, 5, 6⟩]⟩ := by decide +kernel
  have hread := fun o => read_value o (by decide +kernel) (by decide) hlex rfl
  have htexts : ∀ e, (Query.read (.exact true) "#a = 10").expression = some e →
      e.ComparesTexts tensScope.graph := by
    intro e he
    rw [(hread (.exact true)).1] at he
    obtain rfl := Option.some.inj he
    intro kind name c hc
    obtain ⟨rfl, rfl, rfl⟩ := Expression.attributeCompare.inj hc
    intro _
    decide +kernel
  have hexact : ((search tensScope "#a = 10" { fuzzyAttributes := false }).run ∅).1 =
      .ok ⟨[{ path := ["root", "n"], title := "n" }], none⟩ := by
    rw [Remembered.start.search_eq (by decide) (hread _).1, (hread _).2]
    decide +kernel
  obtain ⟨-, hmore⟩ :=
    search_relaxed (by decide +kernel) (by decide +kernel) {} htexts .start .start
  obtain ⟨y, hy, hresults⟩ := hmore _ hexact
  exact ⟨hexact, y, hy, (hresults _ List.mem_cons_self).resolve_right nofun⟩

/-- Written as `010` the number occurs in no value. -/
theorem lost_tensScope :
    NegatesNothing "#a = 010" ∧ HasNoClause "#a = 010" ∧
    ((search tensScope "#a = 010" { fuzzyAttributes := false }).run ∅).1.map Outcome.results =
      .ok [{ path := ["root", "n"], title := "n" }] ∧
    ((search tensScope "#a = 010" { fuzzyAttributes := true }).run ∅).1.map Outcome.results =
      .ok [] := by
  have hlex : lex "#a = 010" =
      ⟨[], [⟨"#a", false, 0, 1⟩, ⟨"=", false, 3, 3⟩, ⟨"010", false, 5, 7⟩]⟩ := by decide +kernel
  have hread := fun o => read_value o (by decide +kernel) (by decide) hlex rfl
  refine ⟨by decide +kernel, by decide +kernel, ?_, ?_⟩
  · rw [Remembered.start.results_eq (by decide) (hread _).1]
    decide +kernel
  · rw [Remembered.start.results_eq (by decide) (hread _).1]
    decide +kernel

end Search

end Search

end Zettel
