import Zettel.Proofs.NoteSet
import Zettel.Proofs.Search.Outcome

/-!
# Evaluation is pointwise

An expression either fails, and then for every set with the same error, or it decides for each note
whether it is found, and the set only says which notes are asked for. So the conditions of `allOf`
meet in an intersection, those of `anyOf` in a union, and `not` is the complement; that parts are
evaluated for what others have left, or for the relatives of the notes, does not show.

There is one exception. Values that are ordered may go round in circles, and whether the sort comes
through then depends on all of them. An outcome is pointwise if it is as said for those sets for
which the evaluation is not aborted.

Main statement: `isPointwise_outcome`, the outcome of an expression without a limit is pointwise. A
limit is different: whether a note is among the first ones depends on the others.
-/

namespace Zettel

namespace Query.Expression

mutual

/-- Somewhere in the expression results are ordered or cut down in a way that passes the test. -/
@[simp]
def anyOrdering (test : List OrderTerm → Option Nat → Bool) : Expression → Bool
  | allOf parts => anyOrderingOf test parts
  | anyOf parts => anyOrderingOf test parts
  | not part => part.anyOrdering test
  | relationWhere _ target => target.anyOrdering test
  | descendantOf ancestor => ancestor.anyOrdering test
  | childOf parent => parent.anyOrdering test
  | parentOf child => child.anyOrdering test
  | orderByAndLimit inner order limit => test order limit || inner.anyOrdering test
  | _ => false

/-- The same for one of some expressions. -/
@[simp]
def anyOrderingOf (test : List OrderTerm → Option Nat → Bool) : List Expression → Bool
  | [] => false
  | e :: es => e.anyOrdering test || anyOrderingOf test es

end

/-- No ordering in a list is none in any of its expressions. -/
theorem anyOrderingOf_eq_false {test : List OrderTerm → Option Nat → Bool} {es : List Expression} :
    anyOrderingOf test es = false ↔ ∀ e ∈ es, e.anyOrdering test = false := by
  induction es with
  | nil => simp [anyOrderingOf]
  | cons e es ih => rw [anyOrderingOf, Bool.or_eq_false_iff, ih, List.forall_mem_cons]

/-- Somewhere in the expression results are cut down to a number of them. -/
def hasLimit (e : Expression) : Bool := e.anyOrdering fun _ limit => limit.isSome

/-- Somewhere in the expression results are put in order. -/
def hasOrder (e : Expression) : Bool := e.anyOrdering fun order _ => !order.isEmpty

end Query.Expression

namespace Search

open Query

/-! ## Outcomes as sets -/

section Outcomes

variable {x : Except Failure NoteSet} {P Q p q : NoteId → Prop} {err : EvaluationError}
  {f g : NoteSet → Except Failure NoteSet}

/-- The outcome is a set, whose members are the notes that satisfy `P`, if the evaluation is not
aborted. -/
def IsSetOf (x : Except Failure NoteSet) (P : NoteId → Prop) : Prop :=
  x = .error .abort ∨ ∃ found, x = .ok found ∧ found.InStep ∧ ∀ n, n ∈ found.ids ↔ P n

/-- The outcome is the error, if the evaluation is not aborted. -/
def IsError (x : Except Failure NoteSet) (err : EvaluationError) : Prop :=
  x = .error .abort ∨ x = .error (.error err)

/-- A set that is in step is the set of its members. -/
theorem isSetOf_ok {s : NoteSet} (hs : s.InStep) (h : ∀ n, n ∈ s.ids ↔ P n) : IsSetOf (.ok s) P :=
  Or.inr ⟨s, rfl, hs, h⟩

/-- What is done with a set may use its members only. -/
theorem IsSetOf.bind (h : IsSetOf x P)
    (hf : ∀ t : NoteSet, t.InStep → (∀ n, n ∈ t.ids ↔ P n) → IsSetOf (f t) Q) :
    IsSetOf (x >>= f) Q := by
  rcases h with rfl | ⟨t, rfl, ht, hP⟩
  · exact Or.inl rfl
  · exact hf t ht hP

/-- A set may lead to an error. -/
theorem IsSetOf.bind_isError (h : IsSetOf x P) (hf : ∀ t : NoteSet, t.InStep → IsError (f t) err) :
    IsError (x >>= f) err := by
  rcases h with rfl | ⟨t, rfl, ht, -⟩
  · exact Or.inl rfl
  · exact hf t ht

/-- Nothing comes after an error. -/
theorem IsError.bind (h : IsError x err) (f : NoteSet → Except Failure NoteSet) :
    IsError (x >>= f) err := by
  rcases h with rfl | rfl
  · exact Or.inl rfl
  · exact Or.inr rfl

/-- Of every set the members that satisfy `p` are found. -/
def Keeps (f : NoteSet → Except Failure NoteSet) (p : NoteId → Prop) : Prop :=
  ∀ s, s.InStep → IsSetOf (f s) fun n => n ∈ s.ids ∧ p n

/-- Every set leads to the error. -/
def FailsWith (f : NoteSet → Except Failure NoteSet) (err : EvaluationError) : Prop :=
  ∀ s, s.InStep → IsError (f s) err

/-- The members of every set are judged one by one, or there is nothing but an error. -/
def IsPointwise (f : NoteSet → Except Failure NoteSet) : Prop :=
  (∃ err, FailsWith f err) ∨ ∃ p, Keeps f p

/-- Of what passes one test the next one keeps what passes both. -/
theorem Keeps.andThen (hf : Keeps f p) (hg : Keeps g q) :
    Keeps (fun s => f s >>= g) fun n => p n ∧ q n := by
  intro s hs
  refine (hf s hs).bind fun t ht hmem => ?_
  simpa only [hmem, and_assoc] using hg t ht

/-- What fails fails whatever would come next. -/
theorem FailsWith.andThen (hf : FailsWith f err) : FailsWith (fun s => f s >>= g) err :=
  fun s hs => (hf s hs).bind g

end Outcomes

/-! ## Expressions of each kind -/

section Kinds

variable {scope : Scope} {memo : Memo} {e : Expression} {parts : List Expression}
  {p : NoteId → Prop} {err : EvaluationError}

/-- The outcome is what evaluation comes to, with any memory. -/
theorem outcome_eq {x : Except Failure NoteSet} {s : NoteSet}
    (h : Delivers scope memo (evaluate scope e s) x) : outcome scope memo e s = x := h.fst

theorem Tests.isPointwise (h : Tests scope memo (evaluate scope e)) :
    IsPointwise (outcome scope memo e) := by
  obtain ⟨v, hv⟩ := h
  cases v with
  | ok test =>
    refine Or.inr ⟨fun n => test n = true, fun s _ => ?_⟩
    rw [outcome_eq (hv s)]
    exact isSetOf_ok (NoteSet.inStep_filter s test) fun _ => NoteSet.mem_filter
  | error failure =>
    cases failure with
    | error err => exact Or.inl ⟨err, fun s _ => Or.inr (outcome_eq (hv s))⟩
    | abort => exact Or.inr ⟨fun _ => True, fun s _ => Or.inl (outcome_eq (hv s))⟩

/-- Either all elements are of the second kind, or there is a first one of the first kind. -/
theorem exists_first {α : Type} {P Q : α → Prop} {as : List α} (h : ∀ a ∈ as, P a ∨ Q a) :
    (∀ a ∈ as, Q a) ∨ ∃ front a back, as = front ++ a :: back ∧ (∀ b ∈ front, Q b) ∧ P a := by
  induction as with
  | nil => exact Or.inl (by simp)
  | cons a as ih =>
    rw [List.forall_mem_cons] at h
    rcases h.1 with hP | hQ
    · exact Or.inr ⟨[], a, as, rfl, by simp, hP⟩
    · rcases ih h.2 with hall | ⟨front, b, back, rfl, hfront, hP⟩
      · exact Or.inl (List.forall_mem_cons.2 ⟨hQ, hall⟩)
      · exact Or.inr ⟨a :: front, b, back, rfl, List.forall_mem_cons.2 ⟨hQ, hfront⟩, hP⟩

/-! ### Conditions that all hold -/

/-- No condition at all is satisfied by all. -/
theorem outcome_allOf_nil (s : NoteSet) : outcome scope memo (.allOf []) s = .ok s :=
  outcome_eq (delivers_allOf (fun e _ => delivers_evaluate scope memo e) s)

/-- Conditions are evaluated on what the ones before have left. -/
theorem outcome_allOf_cons : outcome scope memo (.allOf (e :: parts)) =
    fun s => outcome scope memo e s >>= outcome scope memo (.allOf parts) := by
  funext s
  have hdelivers := fun (parts : List Expression) s =>
    outcome_eq (delivers_allOf (fun e (_ : e ∈ parts) => delivers_evaluate scope memo e) s)
  rw [hdelivers, List.foldlM_cons]
  exact congrArg (_ >>= ·) (funext fun t => (hdelivers parts t).symm)

theorem keeps_allOf {q : Expression → NoteId → Prop}
    (h : ∀ e ∈ parts, Keeps (outcome scope memo e) (q e)) :
    Keeps (outcome scope memo (.allOf parts)) fun n => ∀ e ∈ parts, q e n := by
  induction parts with
  | nil =>
    intro s hs
    rw [outcome_allOf_nil]
    exact isSetOf_ok hs (by simp)
  | cons e parts ih =>
    rw [List.forall_mem_cons] at h
    rw [outcome_allOf_cons]
    simpa only [List.forall_mem_cons] using h.1.andThen (ih h.2)

/-- The first part that fails decides. -/
theorem failsWith_allOf {front back : List Expression}
    (hfront : ∀ e ∈ front, ∃ p, Keeps (outcome scope memo e) p)
    (herr : FailsWith (outcome scope memo e) err) :
    FailsWith (outcome scope memo (.allOf (front ++ e :: back))) err := by
  induction front with
  | nil =>
    rw [List.nil_append, outcome_allOf_cons]
    exact herr.andThen
  | cons e' front ih =>
    obtain ⟨⟨p, hp⟩, hfront⟩ := List.forall_mem_cons.1 hfront
    rw [List.cons_append, outcome_allOf_cons]
    exact fun s hs => (hp s hs).bind_isError (ih hfront)

/-! ### Conditions of which one holds -/

theorem isSetOf_foldlM {q : Expression → NoteId → Prop}
    (h : ∀ e ∈ parts, Keeps (outcome scope memo e) (q e)) {s found : NoteSet} (hs : s.InStep)
    (hfound : found.InStep) :
    IsSetOf (parts.foldlM (fun found e => return found.addAll (← outcome scope memo e s)) found)
      fun n => n ∈ found.ids ∨ n ∈ s.ids ∧ ∃ e ∈ parts, q e n := by
  induction parts generalizing found with
  | nil => exact isSetOf_ok hfound (by simp)
  | cons e parts ih =>
    rw [List.forall_mem_cons] at h
    rw [List.foldlM_cons, bind_assoc]
    refine (h.1 s hs).bind fun t _ hmem => ?_
    rw [pure_bind]
    have hall := ih h.2 (hfound.addAll t)
    simp only [hfound.mem_addAll, hmem, or_assoc, ← and_or_left] at hall
    simpa only [List.exists_mem_cons_iff] using hall

/-- Alternatives keep what one of them keeps. -/
theorem keeps_anyOf {q : Expression → NoteId → Prop}
    (h : ∀ e ∈ parts, Keeps (outcome scope memo e) (q e)) :
    Keeps (outcome scope memo (.anyOf parts)) fun n => ∃ e ∈ parts, q e n := by
  intro s hs
  rw [outcome_eq (delivers_anyOf (fun e _ => delivers_evaluate scope memo e) s)]
  simpa using isSetOf_foldlM h hs NoteSet.inStep_empty

/-- The first part that fails decides, whatever has been found by then. -/
theorem isError_foldlM {front back : List Expression}
    (hfront : ∀ e ∈ front, ∃ p, Keeps (outcome scope memo e) p)
    (herr : FailsWith (outcome scope memo e) err) {s : NoteSet} (hs : s.InStep) (found : NoteSet) :
    IsError ((front ++ e :: back).foldlM
      (fun found e => return found.addAll (← outcome scope memo e s)) found) err := by
  induction front generalizing found with
  | nil =>
    rw [List.nil_append, List.foldlM_cons, bind_assoc]
    exact (herr s hs).bind _
  | cons e' front ih =>
    obtain ⟨⟨p, hp⟩, hfront⟩ := List.forall_mem_cons.1 hfront
    rw [List.cons_append, List.foldlM_cons, bind_assoc]
    exact (hp s hs).bind_isError fun t _ => ih hfront (found.addAll t)

/-- Alternatives fail with the first one that fails. -/
theorem failsWith_anyOf {front back : List Expression}
    (hfront : ∀ e ∈ front, ∃ p, Keeps (outcome scope memo e) p)
    (herr : FailsWith (outcome scope memo e) err) :
    FailsWith (outcome scope memo (.anyOf (front ++ e :: back))) err := by
  intro s hs
  rw [outcome_eq (delivers_anyOf (fun e _ => delivers_evaluate scope memo e) s)]
  exact isError_foldlM hfront herr hs .empty

/-! ### Conditions on one part -/

theorem keeps_not (h : Keeps (outcome scope memo e) p) :
    Keeps (outcome scope memo (.not e)) fun n => ¬ p n := by
  intro s hs
  rw [outcome_eq (delivers_not (delivers_evaluate scope memo e) s)]
  refine (h s hs).bind fun t ht hmem => isSetOf_ok (NoteSet.inStep_filter s _) fun n => ?_
  rw [ht.mem_minus, hmem]
  exact ⟨fun ⟨hn, hnot⟩ => ⟨hn, fun hpn => hnot ⟨hn, hpn⟩⟩, fun ⟨hn, hpn⟩ =>
    ⟨hn, fun hboth => hpn hboth.2⟩⟩

/-- A negation fails as its condition does. -/
theorem failsWith_not (h : FailsWith (outcome scope memo e) err) :
    FailsWith (outcome scope memo (.not e)) err := by
  intro s hs
  rw [outcome_eq (delivers_not (delivers_evaluate scope memo e) s)]
  exact (h s hs).bind _

/-- The relatives of the members are all among the notes that the part is evaluated for. -/
theorem isPointwise_related {related : Note → List NoteId} {f : NoteSet → Except Failure NoteSet}
    (hf : ∀ s, f s = do
      let found ← outcome scope memo e (pool scope.graph s related)
      return filterNotes scope.graph s fun note => (related note).any found.has)
    (h : IsPointwise (outcome scope memo e)) : IsPointwise f := by
  rcases h with ⟨err, herr⟩ | ⟨p, hp⟩
  · refine Or.inl ⟨err, fun s _ => ?_⟩
    rw [hf]
    exact (herr _ (NoteSet.inStep_ofIds _)).bind _
  · refine Or.inr ⟨fun n => ∃ note, scope.graph.notes.get? n = some note ∧
      ∃ r ∈ related note, p r, fun s _ => ?_⟩
    rw [hf]
    refine (hp _ (NoteSet.inStep_ofIds _)).bind fun found hfound hmem =>
      isSetOf_ok (NoteSet.inStep_filter s _) fun n => ?_
    rw [filterNotes, NoteSet.mem_filter]
    refine and_congr_right fun hn => ?_
    cases hnote : scope.graph.notes.get? n with
    | none => simp [hnote]
    | some note =>
      -- narrowing to the pool drops no relative, so membership in it can be left out
      have hpool : ∀ r ∈ related note, r ∈ (pool scope.graph s related).ids := fun r hr =>
        NoteSet.mem_ofIds.2 (List.mem_flatMap.2 ⟨note, List.mem_filterMap.2 ⟨n, hn, hnote⟩, hr⟩)
      simp only [hnote, Option.any_some, List.any_eq_true, Option.some.injEq, exists_eq_left']
      refine exists_congr fun r => and_congr_right fun hr => ?_
      rw [hfound.has_iff, hmem]
      exact and_iff_right (hpool r hr)

/-- Sorting finds all members again, if it finds an order. -/
theorem isSetOf_inOrder (s : NoteSet) (order : List OrderTerm) :
    IsSetOf (inOrder scope memo s order) fun n => n ∈ s.ids := by
  rw [inOrder]
  split
  · exact Or.inl rfl
  · next sorted hsorted =>
    refine isSetOf_ok ((NoteSet.inStep_ofIds _).withSorted true) fun n => ?_
    have hkeyed : (keyed scope memo s order).map Prod.snd = s.ids := by
      simp [keyed, Function.comp_def]
    rw [NoteSet.mem_ofIds, ((sortByRuns_perm hsorted).map Prod.snd).mem_iff, hkeyed]

/-- Without a limit, all members that the part finds are there in the end. -/
theorem keeps_ordered (h : Keeps (outcome scope memo e) p) (order : List OrderTerm) :
    Keeps (outcome scope memo (.orderByAndLimit e order none)) p := by
  intro s hs
  rw [outcome_eq (delivers_orderByAndLimit (delivers_evaluate scope memo e) order none s)]
  refine (h s hs).bind fun found hfound hmem => ?_
  split_ifs
  · exact isSetOf_ok hfound hmem
  · exact (isSetOf_inOrder found order).bind fun sorted hsorted hmem' =>
      isSetOf_ok hsorted fun n => (hmem' n).trans (hmem n)

/-- So does an ordered result. -/
theorem failsWith_ordered (h : FailsWith (outcome scope memo e) err) (order : List OrderTerm) :
    FailsWith (outcome scope memo (.orderByAndLimit e order none)) err := by
  intro s hs
  rw [outcome_eq (delivers_orderByAndLimit (delivers_evaluate scope memo e) order none s)]
  exact (h s hs).bind _

end Kinds

/-- **The outcome of an expression without a limit is pointwise.** -/
theorem isPointwise_outcome (scope : Scope) (memo : Memo) (e : Expression)
    (h : e.hasLimit = false) : IsPointwise (outcome scope memo e) := by
  rw [Expression.hasLimit] at h
  induction e using Expression.inductionOn with
  | allOf parts ih =>
    rw [Expression.anyOrdering, Expression.anyOrderingOf_eq_false] at h
    have hparts := fun e he => ih e he (h e he)
    rcases exists_first hparts with hkeeps | ⟨front, e, back, rfl, hfront, err, herr⟩
    · choose! q hq using hkeeps
      exact Or.inr ⟨_, keeps_allOf hq⟩
    · exact Or.inl ⟨err, failsWith_allOf hfront herr⟩
  | anyOf parts ih =>
    rw [Expression.anyOrdering, Expression.anyOrderingOf_eq_false] at h
    have hparts := fun e he => ih e he (h e he)
    rcases exists_first hparts with hkeeps | ⟨front, e, back, rfl, hfront, err, herr⟩
    · choose! q hq using hkeeps
      exact Or.inr ⟨_, keeps_anyOf hq⟩
    · exact Or.inl ⟨err, failsWith_anyOf hfront herr⟩
  | not part ih =>
    rw [Expression.anyOrdering] at h
    rcases ih h with ⟨err, herr⟩ | ⟨p, hp⟩
    · exact Or.inl ⟨err, failsWith_not herr⟩
    · exact Or.inr ⟨_, keeps_not hp⟩
  | fulltext tokens => exact (tests_fulltext scope memo tokens).isPointwise
  | noteContent op tokens => exact (tests_noteContent scope memo op tokens).isPointwise
  | protectedContent op tokens => exact (tests_protectedContent scope memo op tokens).isPointwise
  | attributeExists kind name byBeginning =>
    exact (tests_attributeExists scope memo kind name byBeginning).isPointwise
  | attributeCompare kind name c =>
    exact (tests_attributeCompare scope memo kind name c).isPointwise
  | relationWhere name target =>
    exact (tests_relationWhere (delivers_evaluate scope memo target) name).isPointwise
  | descendantOf ancestor =>
    exact (tests_descendantOf (delivers_evaluate scope memo ancestor)).isPointwise
  | childOf parent ih =>
    rw [Expression.anyOrdering] at h
    exact isPointwise_related (fun s => outcome_eq
      (delivers_childOf (delivers_evaluate scope memo parent) s)) (ih h)
  | parentOf child ih =>
    rw [Expression.anyOrdering] at h
    exact isPointwise_related (fun s => outcome_eq
      (delivers_parentOf (delivers_evaluate scope memo child) s)) (ih h)
  | propertyComparison p c => exact (tests_propertyComparison scope memo p c).isPointwise
  | orderByAndLimit inner order limit ih =>
    rw [Expression.anyOrdering, Bool.or_eq_false_iff, Option.isSome_eq_false_iff,
      Option.isNone_iff_eq_none] at h
    obtain ⟨rfl, h⟩ := h
    rcases ih h with ⟨err, herr⟩ | ⟨p, hp⟩
    · exact Or.inl ⟨err, failsWith_ordered herr order⟩
    · exact Or.inr ⟨p, keeps_ordered hp order⟩

end Search

end Zettel
