import Zettel.Proofs.Query.Clauses
import Zettel.Proofs.Search.Results

/-!
# Limits in queries

Without an order a limit in the query takes the first results. With an order it takes the first
notes that were found instead, before paths are looked up for them. A note without a path, or with
none through the note that the search is confined to, has no result but counts for the limit, so
that there may be fewer results than asked for and available.

Main statements: `search_limit`, the results with a limit begin the results without it, and they
are as many as the limit allows, exactly if no place is spent in vain, and `first_strayScope`, a
search in which the only place is spent on a note without a path.
-/

namespace Zettel

namespace Search

open Query

/-! ## The first results and the first notes -/

section Take

variable {α β : Type} {f : α → Option β} {limit : Option Nat} {k : Nat} {xs : List α}

theorem takeLimit_take (limit : Option Nat) (k : Nat) (ys : List β) :
    takeLimit limit (ys.take k) = (takeLimit limit ys).take k := by
  cases limit with
  | none => rfl
  | some m => simp only [takeLimit, Option.elim_some, List.take_take, Nat.min_comm]

/-- No place among the first `k` is spent in vain: all of the first `k` elements have a result, or
no later one does, or the results of the first `k` are as many as asked for. -/
def SpendsWell (f : α → Option β) (limit : Option Nat) (k : Nat) (xs : List α) : Prop :=
  (∀ x ∈ xs.take k, (f x).isSome = true) ∨ (∀ x ∈ xs.drop k, f x = none) ∨
    ∃ m, limit = some m ∧ m ≤ ((xs.take k).filterMap f).length

theorem filterMap_eq_append (f : α → Option β) (k : Nat) (xs : List α) :
    xs.filterMap f = (xs.take k).filterMap f ++ (xs.drop k).filterMap f := by
  rw [← List.filterMap_append, List.take_append_drop]

theorem length_filterMap_take_le (f : α → Option β) (k : Nat) (xs : List α) :
    ((xs.take k).filterMap f).length ≤ k :=
  Nat.le_trans (List.length_filterMap_le f (xs.take k)) (List.length_take_le k xs)

/-- The results of the first `k` elements begin the results, and are at most `k`. -/
theorem exists_take_filterMap (f : α → Option β) (limit : Option Nat) (k : Nat) (xs : List α) :
    ∃ j ≤ k, takeLimit limit ((xs.take k).filterMap f) =
      (takeLimit limit (xs.filterMap f)).take j := by
  refine ⟨_, length_filterMap_take_le f k xs, ?_⟩
  rw [← takeLimit_take, filterMap_eq_append f k xs, List.take_left]

theorem SpendsWell.takeLimit_eq (h : SpendsWell f limit k xs) :
    takeLimit limit ((xs.take k).filterMap f) = (takeLimit limit (xs.filterMap f)).take k := by
  rw [← takeLimit_take, filterMap_eq_append f k xs, List.take_append,
    List.take_of_length_le (length_filterMap_take_le f k xs)]
  rcases h with hall | hnone | ⟨m, rfl, hm⟩
  · rw [← List.filterMap_length_eq_length] at hall
    rcases Nat.lt_or_ge k xs.length with hk | hk
    · rw [hall, List.length_take_of_le (Nat.le_of_lt hk), Nat.sub_self, List.take_zero,
        List.append_nil]
    · rw [List.drop_eq_nil_of_le hk, List.filterMap_nil, List.take_nil, List.append_nil]
  · rw [List.filterMap_eq_nil_iff.2 hnone, List.take_nil, List.append_nil]
  · exact (List.take_append_of_le_length hm).symm

/-- Where a place is spent in vain, the results of the first elements are too few. -/
theorem SpendsWell.of_takeLimit_eq
    (h : takeLimit limit ((xs.take k).filterMap f) = (takeLimit limit (xs.filterMap f)).take k) :
    SpendsWell f limit k xs := by
  by_contra hwaste
  simp only [SpendsWell, not_or] at hwaste
  obtain ⟨hsome, hlater, hfew⟩ := hwaste
  rw [← List.filterMap_length_eq_length] at hsome
  rw [← List.filterMap_eq_nil_iff, ← List.length_eq_zero_iff] at hlater
  have hlt := Nat.lt_of_le_of_ne (List.length_filterMap_le f (xs.take k)) hsome
  have hle := List.length_take_le k xs
  have hlength := congrArg List.length h
  rw [← takeLimit_take, filterMap_eq_append f k xs] at hlength
  cases limit with
  | none =>
    simp only [takeLimit, Option.elim_none, List.length_take, List.length_append] at hlength hlt hle
    omega
  | some m =>
    have hm : ((xs.take k).filterMap f).length < m :=
      Nat.lt_of_not_le fun hm => hfew ⟨m, rfl, hm⟩
    simp only [takeLimit, Option.elim_some, List.length_take, List.length_append] at hlength hlt hle
    omega

end Take

/-! ## Searches with a limit -/

section Outcome

variable {scope : Scope} {memo : Memo} {e : Expression} {order : List OrderTerm} {s : NoteSet}

/-- The members that satisfy an expression, in order. -/
def outcomeInOrder (scope : Scope) (memo : Memo) (e : Expression) (order : List OrderTerm)
    (s : NoteSet) : Except Failure NoteSet := do
  inOrder scope memo (← outcome scope memo e s) order

theorem sorted_of_outcomeInOrder {found : NoteSet}
    (h : outcomeInOrder scope memo e order s = .ok found) : found.sorted = true := by
  rw [outcomeInOrder] at h
  cases hx : outcome scope memo e s with
  | error failure =>
    rw [hx] at h
    cases h
  | ok all =>
    rw [hx] at h
    change inOrder scope memo all order = .ok found at h
    unfold inOrder at h
    split at h
    · cases h
    · obtain rfl := Except.ok.inj h
      rfl

/-- With an order the limit cuts down the notes that were found. -/
theorem outcome_orderByAndLimit (horder : order ≠ []) (limit : Option Nat) :
    outcome scope memo (.orderByAndLimit e order limit) s =
      (outcomeInOrder scope memo e order s).map fun found => limit.elim found found.truncate := by
  rw [outcome_eq (delivers_orderByAndLimit (delivers_evaluate scope memo e) order limit s),
    outcomeInOrder]
  have hsome : order.isEmpty = false := by simp [horder]
  cases outcome scope memo e s with
  | error failure => rfl
  | ok all =>
    change (if order.isEmpty = true then _ else _) = _
    rw [hsome]
    rfl

/-- Without an order it leaves them alone. -/
theorem outcome_orderByAndLimit_nil (limit : Option Nat) :
    outcome scope memo (.orderByAndLimit e [] limit) s = outcome scope memo e s := by
  rw [outcome_eq (delivers_orderByAndLimit (delivers_evaluate scope memo e) [] limit s)]
  cases outcome scope memo e s <;> rfl

end Outcome

section Search

variable {scope : Scope} {memo m m' : Memo} {o : Options} {c e : Expression}
  {order : List OrderTerm} {k : Nat}

/-- The results for the notes that a search found in order. -/
theorem resultsFor_inOrder (horder : order ≠ []) (limit : Option Nat) {found : NoteSet}
    (hsorted : found.sorted = true) : resultsFor scope (.orderByAndLimit e order limit) o found =
      takeLimit o.limit (found.ids.filterMap
        (resultOf? scope.graph (effectiveHoisted scope.graph o.hoisted))) := by
  have hnone : (Expression.orderByAndLimit e order limit).unorderedLimit? = none := by
    obtain ⟨term, terms, rfl⟩ := List.exists_cons_of_ne_nil horder
    rfl
  rw [resultsFor, hnone, ranked, if_pos hsorted]
  rfl

/-- The results for an expression with the condition `c` and clauses at its end, with and without a
limit. -/
theorem results_withClauses (hc : c.IsCondition) (memo : Memo) (order : List OrderTerm) (k : Nat) :
    let all := (outcome scope memo (c.withClauses order none) (searched scope o)).map
      (resultsFor scope (c.withClauses order none) o)
    let first := (outcome scope memo (c.withClauses order (some k)) (searched scope o)).map
      (resultsFor scope (c.withClauses order (some k)) o)
    (∃ j ≤ k, first = all.map (·.take j)) ∧
    (first = all.map (·.take k) ↔ order = [] ∨
      ∀ found, outcome scope memo (c.withClauses order none) (searched scope o) = .ok found →
        SpendsWell (resultOf? scope.graph (effectiveHoisted scope.graph o.hoisted)) o.limit k
          found.ids) := by
  intro all first
  have hlimited : c.withClauses order (some k) = .orderByAndLimit c order (some k) := by
    simp [Expression.withClauses]
  by_cases horder : order = []
  · subst horder
    have hplain : c.withClauses [] none = c := rfl
    have htake : first = all.map (·.take k) := by
      simp only [first, all, hlimited, hplain, outcome_orderByAndLimit_nil]
      cases outcome scope memo c (searched scope o) with
      | error failure => rfl
      | ok found =>
        refine congrArg Except.ok ?_
        rw [resultsFor, resultsFor, Expression.unorderedLimit?_of_hasLimit (hc _)]
        exact takeLimit_take o.limit k _
    exact ⟨⟨k, Nat.le_refl k, htake⟩, iff_of_true htake (Or.inl rfl)⟩
  · have hplain : c.withClauses order none = .orderByAndLimit c order none := by
      simp [Expression.withClauses, horder]
    simp only [first, all, hlimited, hplain, outcome_orderByAndLimit horder, horder, false_or]
    cases hx : outcomeInOrder scope memo c order (searched scope o) with
    | error failure =>
      exact ⟨⟨k, Nat.le_refl k, rfl⟩, iff_of_true rfl fun found h => by cases h⟩
    | ok found =>
      have hsorted := sorted_of_outcomeInOrder hx
      simp only [Except.map, Option.elim, Except.ok.injEq, forall_eq']
      have hcut : (found.truncate k).sorted = true := hsorted
      rw [resultsFor_inOrder horder none hsorted, resultsFor_inOrder horder (some k) hcut]
      obtain ⟨j, hj, htake⟩ := exists_take_filterMap
        (resultOf? scope.graph (effectiveHoisted scope.graph o.hoisted)) o.limit k found.ids
      exact ⟨⟨j, hj, htake⟩, SpendsWell.of_takeLimit_eq, SpendsWell.takeLimit_eq⟩

/-- **The results with a limit begin the results without it**, and are no more than it allows. They
are all that it allows, exactly if there is no order, or no place is spent in vain on a note that
was found but has no result. Failures are the same. -/
theorem search_limit {query digits : String} (hopen : EndsOpen query)
    (hclean : (Query.read o.reading query).diagnostic? = none)
    (he : (Query.read o.reading query).expression = some e) (hlimit : e.hasLimit = false)
    (hk : Number.count? digits = some k) (hm : Remembered scope memo m)
    (hm' : Remembered scope memo m') :
    let all := ((search scope query o).run m).1.map Outcome.results
    let first := ((search scope (query ++ " limit " ++ digits) o).run m').1.map Outcome.results
    (∃ j ≤ k, first = all.map (·.take j)) ∧
    (first = all.map (·.take k) ↔ e.hasOrder = false ∨
      ∀ found, ((evaluate scope e (searched scope o)).run m).1 = .ok found →
        SpendsWell (resultOf? scope.graph (effectiveHoisted scope.graph o.hoisted)) o.limit k
          found.ids) := by
  obtain ⟨condition, order, limit, hcondition, hplain, hlimited⟩ :=
    exists_read_append hopen hclean hk
  rw [hplain] at he
  obtain ⟨c, rfl, rfl⟩ := Option.map_eq_some_iff.1 he
  have hc := hcondition c rfl
  rw [hc.hasLimit_withClauses, Option.isSome_eq_false_iff, Option.isNone_iff_eq_none] at hlimit
  subst hlimit
  have hnot_blank : Text.isBlankText (query ++ " limit " ++ digits) = false := by
    rw [← Bool.not_eq_true, Text.isBlankText, List.all_eq_true]
    exact fun hcs => absurd (hcs 'l' (by simp)) (by decide)
  rw [hm.results_eq hopen.not_blank hplain, hm'.results_eq hnot_blank hlimited, hm.evaluate_eq,
    hc.hasOrder_withClauses, Bool.not_eq_false', List.isEmpty_iff]
  exact results_withClauses hc memo order k

/-- Two notes with the label `x`, of which the first in the order of its value has no path. -/
def strayScope : Scope where
  graph := (Vault.ofSnapshot
    { notes := [{ id := "root", title := "root" }, { id := "a", title := "a" },
        { id := "b", title := "b" }]
      branches := [{ id := "rb", child := "b", parent := "root" }]
      attributes := [{ id := "xa", owner := "a", kind := .label, name := "x", value := "1" },
        { id := "xb", owner := "b", kind := .label, name := "x", value := "2" }] }).graph

/-- The order by the value of the label `x`. -/
def byValue : List OrderTerm := [{ key := .label "x" }]

/-- The notes with the label `x`, in the order of its value. -/
def byLabel : Expression := .orderByAndLimit (.attributeExists .label "x" false) byValue none

theorem read_byLabel : (Query.read ({} : Options).reading "#x orderby #x").expression =
    some byLabel ∧ (Query.read ({} : Options).reading "#x orderby #x").diagnostic? = none := by
  have hlex : lex "#x orderby #x" =
      ⟨[], [⟨"#x", false, 0, 1⟩, ⟨"orderby", false, 3, 9⟩, ⟨"#x", false, 11, 12⟩]⟩ := by
    decide +kernel
  have hnest : Tree.nest [⟨"#x", false, 0, 1⟩, ⟨"orderby", false, 3, 9⟩, ⟨"#x", false, 11, 12⟩] =
      ⟨[.token ⟨"#x", false, 11, 12⟩, .token ⟨"orderby", false, 3, 9⟩, .token ⟨"#x", false, 0, 1⟩],
        [], 0⟩ := rfl
  have hword : SequenceWord.ofText "#x" = .marked ⟨.label, false, "x"⟩ := by decide +kernel
  have hkey : OrderKey.ofName "#x" = .label "x" := by decide +kernel
  have hsequence : Query.sequence ({} : Options).reading [.token ⟨"#x", false, 0, 1⟩] =
      ⟨[.condition (.attributeExists .label "x" false)], .highlight "x" ++ {}⟩ := by
    have hname : ¬ "x".isEmpty = true := by decide
    rw [Query.sequence.eq_def]
    simp only [hword, markedCondition, MarkedName.read, predicate, if_neg hname, Parsed.map,
      sequence_nil]
    rfl
  have hclauses : clauses false [.token ⟨"orderby", false, 3, 9⟩, .token ⟨"#x", false, 11, 12⟩] =
      ⟨[{ key := .label "x" }], none, {} ++ {}⟩ := by
    have hkeyword : ¬ "#x" = "note" := by decide
    rw [clauses_orderby rfl, clauses_key rfl (by decide) (by decide) (by decide)]
    simp only [orderTerm, directed, hkey, if_neg hkeyword, clauses_nil]
    rfl
  have htrees : readTrees ({} : Options).reading [] [.token ⟨"#x", false, 0, 1⟩,
      .token ⟨"orderby", false, 3, 9⟩, .token ⟨"#x", false, 11, 12⟩] =
        ⟨some byLabel, .highlight "x"⟩ := by
    have htake : ([.token ⟨"#x", false, 0, 1⟩, .token ⟨"orderby", false, 3, 9⟩,
        .token ⟨"#x", false, 11, 12⟩] : List Tree).takeWhile (fun t => !t.word?.any isClauseWord) =
          [.token ⟨"#x", false, 0, 1⟩] := rfl
    have hdrop : ([.token ⟨"#x", false, 0, 1⟩, .token ⟨"orderby", false, 3, 9⟩,
        .token ⟨"#x", false, 11, 12⟩] : List Tree).dropWhile (fun t => !t.word?.any isClauseWord) =
          [.token ⟨"orderby", false, 3, 9⟩, .token ⟨"#x", false, 11, 12⟩] := rfl
    simp only [readTrees, htake, hdrop, hsequence, hclauses]
    rfl
  simp only [Query.read, hlex, hnest]
  exact ⟨congrArg ReadQuery.expression htrees, congrArg ReadQuery.diagnostic? htrees⟩

theorem search_limit_strayScope :
    let all := ((search strayScope "#x orderby #x" {}).run ∅).1.map Outcome.results
    let first := ((search strayScope ("#x orderby #x" ++ " limit " ++ "1") {}).run ∅).1.map
      Outcome.results
    (∃ j ≤ 1, first = all.map (·.take j)) ∧
    (first = all.map (·.take 1) ↔ byLabel.hasOrder = false ∨
      ∀ found, ((evaluate strayScope byLabel (searched strayScope {})).run ∅).1 = .ok found →
        SpendsWell (resultOf? strayScope.graph (effectiveHoisted strayScope.graph rootId)) none 1
          found.ids) :=
  search_limit (by decide +kernel) read_byLabel.2 read_byLabel.1 rfl (by decide) .start .start

/-- The first of the two notes takes the place, and then drops out, although the values are in order
and the other note has a result. -/
theorem first_strayScope :
    (∀ x ∈ keyed strayScope ∅ (.ofIds strayScope.graph.noteIds) byValue,
      ∀ y ∈ keyed strayScope ∅ (.ofIds strayScope.graph.noteIds) byValue,
      ∀ z ∈ keyed strayScope ∅ (.ofIds strayScope.graph.noteIds) byValue,
        compareByTerms byValue x.1 y.1 ≠ .gt → compareByTerms byValue y.1 z.1 ≠ .gt →
          compareByTerms byValue x.1 z.1 ≠ .gt) ∧
    ((search strayScope "#x orderby #x" {}).run ∅).1.map Outcome.results =
      .ok [{ path := ["root", "b"], title := "b" }] ∧
    ((search strayScope ("#x orderby #x" ++ " limit " ++ "1") {}).run ∅).1.map Outcome.results =
      .ok [] := by
  obtain ⟨hread, hclean⟩ := read_byLabel
  have hopen : EndsOpen "#x orderby #x" := by decide +kernel
  have hcount : Number.count? "1" = some 1 := by decide
  obtain ⟨condition, order, limit, hcondition, hplain, hlimited⟩ :=
    exists_read_append hopen hclean hcount
  rw [hread] at hplain
  obtain ⟨c, rfl, hc⟩ := Option.map_eq_some_iff.1 hplain.symm
  obtain ⟨rfl, rfl⟩ := (hcondition c rfl).eq_of_withClauses hc
  have hnot_blank : Text.isBlankText ("#x orderby #x" ++ " limit " ++ "1") = false := by decide
  refine ⟨by decide +kernel, ?_, ?_⟩
  · rw [Remembered.start.results_eq hopen.not_blank hread]
    decide +kernel
  · rw [Remembered.start.results_eq hnot_blank hlimited]
    decide +kernel

end Search

end Search

end Zettel
