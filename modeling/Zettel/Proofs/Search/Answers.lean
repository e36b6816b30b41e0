import Zettel.Proofs.Search.Pointwise
import Zettel.Vault

/-!
# Answers

An evaluation answers with a set or an error, unless it is aborted. What was read of the graph before
makes no difference to the answer. Without a limit all answers of an expression are pointwise; there
always is one unless values are ordered, and then there may be none.

Main statements: `lasts_evaluate`, an expression that orders nothing is never aborted,
`answers_isPointwise`, and `not_decidesEach_circlingScope`, an order by which one note is found but
not twenty-one.
-/

namespace Zettel

namespace Search

open Query

/-! ## What can be answered -/

/-- The answer of an evaluation, a set or an error, unless it is aborted. -/
def answer? : Except Failure NoteSet → Option (Except EvaluationError NoteSet)
  | .ok found => some (.ok found)
  | .error (.error err) => some (.error err)
  | .error .abort => none

/-- The memories that readings of the unchanged graph leave behind, from `memo` on. -/
inductive Remembered (scope : Scope) (memo : Memo) : Memo → Prop
  | start : Remembered scope memo memo
  | attributes {m : Memo} (h : Remembered scope memo m) (n : NoteId) :
    Remembered scope memo (scope.graph.attributesOf n m).2
  | flatText {m : Memo} (h : Remembered scope memo m) (n : NoteId) :
    Remembered scope memo (scope.graph.flatText n m).2
  | evaluation {m : Memo} (h : Remembered scope memo m) (e : Expression) (s : NoteSet) :
    Remembered scope memo ((evaluate scope e s).run m).2

/-- There is an answer for every set, whatever was read before. -/
def Answers (scope : Scope) (memo : Memo) (e : Expression) : Prop :=
  ∀ m, Remembered scope memo m → ∀ s : NoteSet, s.InStep →
    (answer? ((evaluate scope e s).run m).1).isSome

/-- Every answer is this error. -/
def Fails (scope : Scope) (memo : Memo) (e : Expression) (err : EvaluationError) : Prop :=
  ∀ m, Remembered scope memo m → ∀ s : NoteSet, s.InStep →
    ∀ a ∈ answer? ((evaluate scope e s).run m).1, a = .error err

/-- Every answer for a set consists of those members that satisfy `p`. -/
def Selects (scope : Scope) (memo : Memo) (e : Expression) (p : NoteId → Prop) : Prop :=
  ∀ m, Remembered scope memo m → ∀ s : NoteSet, s.InStep →
    ∀ a ∈ answer? ((evaluate scope e s).run m).1,
      ∃ found, a = .ok found ∧ found.InStep ∧ ∀ n, n ∈ found.ids ↔ n ∈ s.ids ∧ p n

/-- Either every set leads to the same error, or there is a condition on notes such that of every
set the members that satisfy it are found. -/
def DecidesEach (scope : Scope) (memo : Memo) (e : Expression) : Prop :=
  (∃ err : EvaluationError, ∀ m, Remembered scope memo m → ∀ s : NoteSet, s.InStep →
    ((evaluate scope e s).run m).1 = .error (.error err)) ∨
  ∃ p : NoteId → Prop, ∀ m, Remembered scope memo m → ∀ s : NoteSet, s.InStep →
    ∃ found, ((evaluate scope e s).run m).1 = .ok found ∧ found.InStep ∧
      ∀ n, n ∈ found.ids ↔ n ∈ s.ids ∧ p n

section Answers

variable {scope : Scope} {memo m : Memo} {e : Expression} {p : NoteId → Prop}
  {err : EvaluationError} {x : Except Failure NoteSet} {P : NoteId → Prop}

/-- An outcome is the error exactly if every answer is. -/
theorem isError_iff : IsError x err ↔ ∀ a ∈ answer? x, a = .error err := by
  match x with
  | .ok found => simp [IsError, answer?]
  | .error (.error err') => simp [IsError, answer?]
  | .error .abort => simp [IsError, answer?]

/-- An outcome is the set of certain notes exactly if every answer is. -/
theorem isSetOf_iff : IsSetOf x P ↔
    ∀ a ∈ answer? x, ∃ found, a = .ok found ∧ found.InStep ∧ ∀ n, n ∈ found.ids ↔ P n := by
  match x with
  | .ok found => simp [IsSetOf, answer?]
  | .error (.error err') => simp [IsSetOf, answer?]
  | .error .abort => simp [IsSetOf, answer?]

theorem Remembered.grown (h : Remembered scope memo m) : scope.graph.Grown memo m := by
  induction h with
  | start => exact .refl _ _
  | attributes _ n ih =>
    obtain ⟨a, ha⟩ := scope.graph.steady_attributesOf memo n
    exact (ha _ ih).2
  | flatText _ n ih =>
    obtain ⟨text, htext⟩ := scope.graph.steady_flatText memo n
    exact (htext _ ih).2
  | evaluation _ e s ih => exact (delivers_evaluate scope memo e s _ ih).2

/-- What was read before makes no difference. -/
theorem Remembered.evaluate_eq (h : Remembered scope memo m) (e : Expression) (s : NoteSet) :
    ((evaluate scope e s).run m).1 = outcome scope memo e s :=
  (delivers_evaluate scope memo e s m h.grown).1

/-- That every answer is an error is seen from the outcomes with one memory. -/
theorem fails_iff : Fails scope memo e err ↔ FailsWith (outcome scope memo e) err := by
  constructor
  · exact fun h s hs => isError_iff.2 (h memo .start s hs)
  · intro h m hm s hs
    rw [hm.evaluate_eq]
    exact isError_iff.1 (h s hs)

/-- So is what every answer selects. -/
theorem selects_iff : Selects scope memo e p ↔ Keeps (outcome scope memo e) p := by
  constructor
  · exact fun h s hs => isSetOf_iff.2 (h memo .start s hs)
  · intro h m hm s hs
    rw [hm.evaluate_eq]
    exact isSetOf_iff.1 (h s hs)

end Answers

/-! ## Expressions without an order -/

/-- Whatever has been remembered, the evaluation is not aborted. -/
def Lasts {α : Type} (r : Evaluation α) : Prop := ∀ m, (r.run m).1 ≠ .error .abort

section Lasts

variable {α β : Type} {scope : Scope} {r : Evaluation α} {f : α → Evaluation β}

theorem Lasts.pure (a : α) : Lasts (pure a : Evaluation α) := fun _ h => by cases h

theorem Lasts.throw (err : EvaluationError) : Lasts (throw (.error err) : Evaluation α) :=
  fun _ h => by cases h

/-- A reading is never aborted. -/
theorem Lasts.lift (r : Reading α) : Lasts (liftM r : Evaluation α) := fun _ h => by cases h

theorem Lasts.bind (hr : Lasts r) (hf : ∀ a, Lasts (f a)) : Lasts (r >>= f) := by
  intro m
  have h := hr m
  rw [ExceptT.run_bind]
  have hbind : ∀ g : Except Failure α → Reading (Except Failure β),
      (r.run >>= g) m = g (r.run m).1 (r.run m).2 := fun _ => rfl
  rw [hbind]
  cases hx : (r.run m).1 with
  | ok a => exact hf a _
  | error failure =>
    rw [hx] at h
    exact fun habort => h (by cases habort; rfl)

theorem Lasts.filterM {test : α → Evaluation Bool} (h : ∀ a, Lasts (test a)) (as : List α) :
    Lasts (as.filterM test) := by
  have hloop : ∀ as found : List α, Lasts (as.filterAuxM test found) := by
    intro as
    induction as with
    | nil => exact fun found => .pure found
    | cons a as ih => exact fun found => (h a).bind fun _ => ih _
  exact (hloop as []).bind fun _ => .pure _

theorem lasts_requireContentOperator (op : Operator) : Lasts (requireContentOperator op) := by
  rw [requireContentOperator]
  split_ifs
  · exact .pure ()
  · exact .throw _

theorem lasts_requirePropertyOperator (p : Property) (op : Operator) :
    Lasts (requirePropertyOperator p op) := by
  rw [requirePropertyOperator]
  split_ifs
  · exact .throw _
  · exact .pure ()

/-- Carrying conditions over to relatives is not aborted if the conditions never are. -/
theorem lasts_filterRelated {matching : NoteSet → Evaluation NoteSet} (h : ∀ s, Lasts (matching s))
    (g : Graph) (s : NoteSet) (related : Note → List NoteId) :
    Lasts (filterRelated g s related matching) := (h _).bind fun _ => .pure _

/-- **An expression that orders nothing is never aborted.** -/
theorem lasts_evaluate (scope : Scope) (e : Expression) (h : e.hasOrder = false) (s : NoteSet) :
    Lasts (evaluate scope e s) := by
  rw [Expression.hasOrder] at h
  induction e using Expression.inductionOn generalizing s with
  | allOf parts ih =>
    rw [Expression.anyOrdering, Expression.anyOrderingOf_eq_false] at h
    rw [evaluate]
    induction parts generalizing s with
    | nil =>
      rw [evaluateAll]
      exact .pure s
    | cons e parts ihs =>
      rw [List.forall_mem_cons] at h ih
      rw [evaluateAll]
      exact (ih.1 h.1 s).bind fun t => ihs ih.2 h.2 t
  | anyOf parts ih =>
    rw [Expression.anyOrdering, Expression.anyOrderingOf_eq_false] at h
    rw [evaluate]
    generalize NoteSet.empty = found
    induction parts generalizing found with
    | nil =>
      rw [evaluateAny]
      exact .pure found
    | cons e parts ihs =>
      rw [List.forall_mem_cons] at h ih
      rw [evaluateAny]
      exact (ih.1 h.1 s).bind fun t => ihs ih.2 h.2 (found.addAll t)
  | not part ih =>
    rw [Expression.anyOrdering] at h
    rw [evaluate]
    exact (ih h s).bind fun _ => .pure _
  | fulltext tokens =>
    rw [evaluate]
    exact .lift _
  | noteContent op tokens =>
    rw [evaluate]
    exact (lasts_requireContentOperator op).bind fun _ => .pure _
  | protectedContent op tokens =>
    rw [evaluate]
    exact (lasts_requireContentOperator op).bind fun _ => .pure _
  | attributeExists kind name byBeginning =>
    rw [evaluate]
    exact .pure _
  | attributeCompare kind name c =>
    rw [evaluate]
    exact .pure _
  | relationWhere name target ih =>
    rw [Expression.anyOrdering] at h
    rw [evaluate]
    refine (Lasts.filterM (fun a => ?_) _).bind fun _ => .pure _
    cases a.target?.filter scope.graph.hasNote with
    | none => exact .pure _
    | some t => exact (ih h _).bind fun _ => .pure _
  | descendantOf ancestor ih =>
    rw [Expression.anyOrdering] at h
    rw [evaluate]
    exact (ih h _).bind fun _ => .pure _
  | childOf parent ih =>
    rw [Expression.anyOrdering] at h
    rw [evaluate]
    exact lasts_filterRelated (ih h) scope.graph s _
  | parentOf child ih =>
    rw [Expression.anyOrdering] at h
    rw [evaluate]
    exact lasts_filterRelated (ih h) scope.graph s _
  | propertyComparison p c =>
    rw [evaluate]
    exact (lasts_requirePropertyOperator p c.operator).bind fun _ => .lift _
  | orderByAndLimit inner order limit ih =>
    rw [Expression.anyOrdering, Bool.or_eq_false_iff, Bool.not_eq_false'] at h
    rw [evaluate]
    refine (ih h.2 s).bind fun found => ?_
    rw [if_pos h.1]
    exact .pure found

end Lasts

theorem answers_of_lasts {scope : Scope} {memo : Memo} {e : Expression}
    (h : ∀ s, Lasts (evaluate scope e s)) : Answers scope memo e := by
  intro m _ s _
  have hs := h s m
  match hx : ((evaluate scope e s).run m).1 with
  | .ok found => rfl
  | .error (.error err) => rfl
  | .error .abort => exact absurd hx hs

/-! ## All expressions -/

section All

variable {scope : Scope} {memo : Memo} {e : Expression}

theorem DecidesEach.answers (h : DecidesEach scope memo e) : Answers scope memo e := by
  intro m hm s hs
  rcases h with ⟨err, herr⟩ | ⟨p, hp⟩
  · rw [herr m hm s hs]
    rfl
  · obtain ⟨found, hfound, -⟩ := hp m hm s hs
    rw [hfound]
    rfl

/-- If there is always an answer, nothing is left open. -/
theorem Answers.decidesEach (h : Answers scope memo e)
    (hpointwise : IsPointwise (outcome scope memo e)) : DecidesEach scope memo e := by
  have hlasts : ∀ s : NoteSet, s.InStep → outcome scope memo e s ≠ .error .abort := by
    intro s hs habort
    have hanswer := h memo .start s hs
    rw [show ((evaluate scope e s).run memo).1 = .error .abort from habort] at hanswer
    exact absurd hanswer (by simp [answer?])
  rcases hpointwise with ⟨err, herr⟩ | ⟨p, hp⟩
  · refine Or.inl ⟨err, fun m hm s hs => ?_⟩
    rw [hm.evaluate_eq]
    exact (herr s hs).resolve_left (hlasts s hs)
  · refine Or.inr ⟨p, fun m hm s hs => ?_⟩
    rw [hm.evaluate_eq]
    exact (hp s hs).resolve_left (hlasts s hs)

end All

/-- **The answers of an expression without a limit are pointwise**, and the expression decides for
each note alone exactly if there always is an answer, which is so if it orders nothing. Conditions
that all hold meet in the intersection, those of which one holds in the union, in every order, and
`not` is the complement. -/
theorem answers_isPointwise (scope : Scope) (memo : Memo) :
    (∀ e : Expression, e.hasLimit = false →
      ((∃ err, Fails scope memo e err) ∨ ∃ p, Selects scope memo e p) ∧
      (DecidesEach scope memo e ↔ Answers scope memo e)) ∧
    (∀ e : Expression, e.hasOrder = false → Answers scope memo e) ∧
    (∀ (parts parts' : List Expression) (q : Expression → NoteId → Prop), parts.Perm parts' →
      (∀ e ∈ parts, Selects scope memo e (q e)) →
      Selects scope memo (.allOf parts') (fun n => ∀ e ∈ parts, q e n) ∧
      Selects scope memo (.anyOf parts') fun n => ∃ e ∈ parts, q e n) ∧
    ∀ (e : Expression) (p : NoteId → Prop), Selects scope memo e p →
      Selects scope memo (.not e) fun n => ¬ p n := by
  refine ⟨fun e he => ?_, fun e he => answers_of_lasts fun s => lasts_evaluate scope e he s,
    fun parts parts' q hperm hq => ?_, fun e p hp => ?_⟩
  · have hpointwise := isPointwise_outcome scope memo e he
    refine ⟨?_, DecidesEach.answers, fun h => h.decidesEach hpointwise⟩
    simp only [fails_iff, selects_iff]
    exact hpointwise
  · simp only [hperm.mem_iff] at hq ⊢
    exact ⟨selects_iff.2 (keeps_allOf fun e he => selects_iff.1 (hq e he)),
      selects_iff.2 (keeps_anyOf fun e he => selects_iff.1 (hq e he))⟩
  · exact selects_iff.2 (keeps_not (selects_iff.1 hp))

/-- Twenty-one notes. By their titles, 9 comes before 10 and 10 before 1a, but 1a before 9. -/
def circlingScope : Scope where
  graph := (Vault.ofSnapshot { notes :=
    [{ id := "a", title := "10" }, { id := "b", title := "0" }, { id := "c", title := "10" },
      { id := "d", title := "10" }, { id := "e", title := "10" }, { id := "f", title := "10" },
      { id := "g", title := "10" }, { id := "h", title := "10" }, { id := "i", title := "10" },
      { id := "j", title := "10" }, { id := "k", title := "1a" }, { id := "l", title := "1a" },
      { id := "m", title := "1a" }, { id := "n", title := "1a" }, { id := "o", title := "1a" },
      { id := "p", title := "1a" }, { id := "q", title := "1a" }, { id := "r", title := "1a" },
      { id := "s", title := "1a" }, { id := "t", title := "1a" }, { id := "u", title := "9" }] }).graph

/-- All notes, in the order of their titles. -/
def byTitle : Expression := .orderByAndLimit (.allOf []) [{ key := .property .title }] none

/-- The content of notes is not compared for equality. -/
def contentEqual : Expression := .noteContent .equal ["10"]

theorem answers_isPointwise_circlingScope :
    (∃ err, Fails circlingScope ∅ contentEqual err) ∧ DecidesEach circlingScope ∅ contentEqual ∧
    ∃ p, Selects circlingScope ∅ byTitle p ∧
      Selects circlingScope ∅ (.not byTitle) fun n => ¬ p n := by
  obtain ⟨hall, hanswers, -, hnot⟩ := answers_isPointwise circlingScope ∅
  have hcontent := hall contentEqual rfl
  have hselects : ¬ ∃ p, Selects circlingScope ∅ contentEqual p := by
    rintro ⟨p, hp⟩
    obtain ⟨_, hfound, -⟩ := hp ∅ .start .empty NoteSet.inStep_empty _ rfl
    cases hfound
  have hfails : ¬ ∃ err, Fails circlingScope ∅ byTitle err := by
    rintro ⟨err, herr⟩
    have hok : ((evaluate circlingScope byTitle (.ofIds ["a"])).run ∅).1.isOk = true := by
      decide +kernel
    have hanswer := herr ∅ .start (.ofIds ["a"]) (NoteSet.inStep_ofIds _)
    cases hx : ((evaluate circlingScope byTitle (.ofIds ["a"])).run ∅).1 with
    | ok found =>
      rw [hx] at hanswer
      exact absurd (hanswer _ rfl) (by simp)
    | error failure =>
      rw [hx] at hok
      cases hok
  obtain ⟨p, hp⟩ := (hall byTitle rfl).1.resolve_left hfails
  exact ⟨hcontent.1.resolve_right hselects, hcontent.2.2 (hanswers contentEqual rfl), p, hp,
    hnot byTitle p hp⟩

/-- A single note is found, but the sort of all of them gives up. -/
theorem not_decidesEach_circlingScope :
    byTitle.hasLimit = false ∧ ¬ DecidesEach circlingScope ∅ byTitle := by
  refine ⟨rfl, fun h => ?_⟩
  have hanswer := h.answers ∅ .start (.ofIds circlingScope.graph.noteIds) (NoteSet.inStep_ofIds _)
  exact absurd hanswer (by decide +kernel)

end Search

end Zettel
