import Zettel.Proofs.Growth
import Zettel.Search.Evaluation

/-!
# The outcome of an evaluation

Evaluations read the graph and fill its memory. What an evaluation comes to is settled by the memory
that there was to begin with: later ones that have grown from it make no difference. So the outcome
of an expression is put together from the outcomes of its parts, with no memory passed on.

Main statement: `delivers_evaluate`, with every memory that has grown from the first one, an
expression has the same outcome.
-/

namespace Zettel

/-! ## Induction on expressions -/

/-- What holds of an expression if it holds of its parts holds of every expression. -/
@[elab_as_elim]
theorem Query.Expression.inductionOn {motive : Query.Expression → Prop} (e : Query.Expression)
    (allOf : ∀ parts, (∀ e ∈ parts, motive e) → motive (.allOf parts))
    (anyOf : ∀ parts, (∀ e ∈ parts, motive e) → motive (.anyOf parts))
    (not : ∀ part, motive part → motive (.not part))
    (fulltext : ∀ tokens, motive (.fulltext tokens))
    (noteContent : ∀ op tokens, motive (.noteContent op tokens))
    (protectedContent : ∀ op tokens, motive (.protectedContent op tokens))
    (attributeExists : ∀ kind name byBeginning, motive (.attributeExists kind name byBeginning))
    (attributeCompare : ∀ kind name c, motive (.attributeCompare kind name c))
    (relationWhere : ∀ name target, motive target → motive (.relationWhere name target))
    (descendantOf : ∀ ancestor, motive ancestor → motive (.descendantOf ancestor))
    (childOf : ∀ parent, motive parent → motive (.childOf parent))
    (parentOf : ∀ child, motive child → motive (.parentOf child))
    (propertyComparison : ∀ p c, motive (.propertyComparison p c))
    (orderByAndLimit : ∀ inner order limit, motive inner →
      motive (.orderByAndLimit inner order limit)) : motive e :=
  @Query.Expression.rec motive (fun parts => ∀ e ∈ parts, motive e) allOf anyOf not fulltext
    noteContent protectedContent attributeExists attributeCompare relationWhere descendantOf childOf
    parentOf propertyComparison orderByAndLimit (by simp)
    (fun _ _ hhead htail => List.forall_mem_cons.2 ⟨hhead, htail⟩) e

namespace Search

open Query

variable {scope : Scope} {memo : Memo} {α β : Type}

/-! ## What evaluations deliver -/

/-- With every memory that has grown from `memo` the evaluation delivers `x`, and the memory has
grown from `memo` afterwards. -/
def Delivers (scope : Scope) (memo : Memo) (r : Evaluation α) (x : Except Failure α) :
    Prop :=
  Yields (scope.graph.Grown memo) r.run x

section Delivers

variable {r : Evaluation α} {x : Except Failure α} {f : α → Evaluation β}
  {y : α → Except Failure β}

/-- What is delivered is what the evaluation comes to. -/
theorem Delivers.fst (h : Delivers scope memo r x) : (r.run memo).1 = x :=
  (h memo (.refl scope.graph memo)).1

theorem Delivers.pure (a : α) : Delivers scope memo (pure a) (.ok a) := Yields.pure _

theorem Delivers.throw (e : Failure) :
    Delivers scope memo (throw e : Evaluation α) (.error e) := Yields.pure _

/-- Evaluations that deliver, one after the other, deliver. -/
theorem Delivers.bind (hr : Delivers scope memo r x) (hf : ∀ a, Delivers scope memo (f a) (y a)) :
    Delivers scope memo (r >>= f) (x >>= y) := by
  rw [Delivers, ExceptT.run_bind]
  refine Yields.bind hr ?_
  cases x with
  | ok a => exact hf a
  | error e => exact .pure _

/-- A reading never fails. -/
theorem Delivers.lift {r : Reading α} {a : α} (h : Yields (scope.graph.Grown memo) r a) :
    Delivers scope memo (liftM r : Evaluation α) (.ok a) :=
  Yields.bind (f := fun a => Pure.pure (Except.ok a)) h (.pure (Except.ok a))

theorem Delivers.filterM {test : α → Evaluation Bool} {b : α → Except Failure Bool}
    (h : ∀ a, Delivers scope memo (test a) (b a)) (as : List α) :
    Delivers scope memo (as.filterM test) (as.filterM b) := by
  have hloop : ∀ (as found : List α),
      Delivers scope memo (as.filterAuxM test found) (as.filterAuxM b found) := by
    intro as
    induction as with
    | nil => exact fun found => .pure found
    | cons a as ih => exact fun found => (h a).bind fun _ => ih _
  exact (hloop as []).bind fun _ => .pure _

end Delivers

/-! ## Values and order -/

theorem steady_propertyValue (scope : Scope) (memo : Memo) (note : Note) (p : Property) :
    Steady (scope.graph.Grown memo) (propertyValue scope.graph note p) := by
  have hcount := fun q => (scope.graph.steady_countAttributes memo note.id q).bind fun count =>
    Steady.pure (I := scope.graph.Grown memo) (some (toString count))
  cases p with
  | isArchived => exact (scope.graph.steady_isArchived memo note.id).bind fun _ => .pure _
  | attributeCount => exact hcount _
  | labelCount => exact hcount _
  | relationCount => exact hcount _
  | _ => exact .pure _

/-- What has been remembered makes no difference to a value that notes are ordered by. -/
theorem steady_orderValue (scope : Scope) (memo : Memo) (note : Note) (key : OrderKey) :
    Steady (scope.graph.Grown memo) (orderValue scope.graph note key) := by
  cases key with
  | property p => exact steady_propertyValue scope memo note p
  | label name => exact scope.graph.steady_valueOf? memo note.id .label name

/-- The value of a note under a key; an unknown note has none. -/
def keyValue (scope : Scope) (memo : Memo) (key : OrderKey) (n : NoteId) : Option String :=
  (scope.graph.notes.get? n).bind fun note => (orderValue scope.graph note key memo).1

theorem yields_orderValues (scope : Scope) (memo : Memo) (order : List OrderTerm) (n : NoteId) :
    Yields (scope.graph.Grown memo) (orderValues scope.graph order n)
      (order.map fun term => keyValue scope memo term.key n) := by
  unfold orderValues keyValue
  cases scope.graph.notes.get? n with
  | none => exact .pure _
  | some note =>
    exact Yields.mapM (fun term => (steady_orderValue scope memo note term.key).yields
      (.refl scope.graph memo)) order

/-- What has been remembered makes no difference to the values that notes are ordered by. -/
theorem steady_orderValues (scope : Scope) (memo : Memo) (order : List OrderTerm) (n : NoteId) :
    Steady (scope.graph.Grown memo) (orderValues scope.graph order n) :=
  (yields_orderValues scope memo order n).steady

/-- The members with the values that they are ordered by. -/
def keyed (scope : Scope) (memo : Memo) (s : NoteSet) (order : List OrderTerm) :
    List (List (Option String) × NoteId) :=
  s.ids.map fun n => ((orderValues scope.graph order n memo).1, n)

/-- What has been remembered makes no difference to the members with their values. -/
theorem yields_keyedMembers (scope : Scope) (memo : Memo) (s : NoteSet) (order : List OrderTerm) :
    Yields (scope.graph.Grown memo) (keyedMembers scope.graph s order) (keyed scope memo s order) :=
  Yields.mapM (fun n => ((steady_orderValues scope memo order n).yields
    (.refl scope.graph memo)).bind (.pure (_, n))) s.ids

/-- The members in the order of their values, if the sort finds one. -/
def inOrder (scope : Scope) (memo : Memo) (s : NoteSet) (order : List OrderTerm) :
    Except Failure NoteSet :=
  match sortByRuns (fun x y => compareByTerms order x.1 y.1 = .lt) (keyed scope memo s order) with
  | none => .error .abort
  | some sorted => .ok { NoteSet.ofIds (sorted.map Prod.snd) with sorted := true }

theorem delivers_sortNotes (scope : Scope) (memo : Memo) (s : NoteSet) (order : List OrderTerm) :
    Delivers scope memo (sortNotes scope.graph s order) (inOrder scope memo s order) := by
  have hsorted : ∀ keyed : List (List (Option String) × NoteId), Delivers scope memo
      (match sortByRuns (fun x y => compareByTerms order x.1 y.1 = .lt) keyed with
      | none => throw .abort
      | some sorted => return { NoteSet.ofIds (sorted.map Prod.snd) with sorted := true })
      (match sortByRuns (fun x y => compareByTerms order x.1 y.1 = .lt) keyed with
      | none => .error .abort
      | some sorted => .ok { NoteSet.ofIds (sorted.map Prod.snd) with sorted := true }) := by
    intro keyed
    split
    · exact .throw .abort
    · exact .pure _
  exact (Delivers.lift (yields_keyedMembers scope memo s order)).bind hsorted

/-! ## Conditions on single notes -/

/-- The evaluation fails, or else tests each member for itself, and neither depends on the set. -/
def Tests (scope : Scope) (memo : Memo) (f : NoteSet → Evaluation NoteSet) : Prop :=
  ∃ v : Except Failure (NoteId → Bool), ∀ s, Delivers scope memo (f s) (v.map s.filter)

/-- The empty set is what no member passes into. -/
theorem tests_nothing : Tests scope memo fun _ => return .empty := by
  refine ⟨.ok fun _ => false, fun s => ?_⟩
  have hempty : s.filter (fun _ => false) = .empty := by
    rw [NoteSet.filter, List.filter_false]
    rfl
  rw [Except.map, hempty]
  exact .pure _

/-- A test of the fields of notes is made of each member for itself. -/
theorem tests_filterNotes (test : Note → Bool) :
    Tests scope memo fun s => return filterNotes scope.graph s test :=
  ⟨.ok fun n => (scope.graph.notes.get? n).any test, fun _ => .pure _⟩

/-- So is a test that reads views, if these do not depend on what was read before. -/
theorem tests_filterReading {test : NoteId → Reading Bool}
    (h : ∀ n, Steady (scope.graph.Grown memo) (test n)) :
    Tests scope memo fun s => liftM (filterReading s test) :=
  ⟨.ok fun n => (test n memo).1, fun s => .lift ((Yields.filterM (fun n =>
    (h n).yields (.refl scope.graph memo)) s.ids).bind (.pure _))⟩

/-- To be a member of a set is such a test, too. -/
theorem tests_members (t : NoteSet) : Tests scope memo fun s => return s.intersection t :=
  ⟨.ok t.has, fun _ => .pure _⟩

/-- What the members are compared with may be the outcome of another evaluation. -/
theorem tests_intersection {r : Evaluation α} {x : Except Failure α}
    (hr : Delivers scope memo r x) (t : α → NoteSet) :
    Tests scope memo fun s => return s.intersection (t (← r)) := by
  cases x with
  | ok a => exact ⟨.ok (t a).has, fun s => hr.bind (y := fun a => .ok (s.intersection (t a)))
      fun _ => .pure _⟩
  | error e => exact ⟨.error e, fun s => hr.bind (y := fun a => .ok (s.intersection (t a)))
      fun _ => .pure _⟩

/-- What is required of the operator does not depend on the set. -/
theorem Tests.of_requirement {f : NoteSet → Evaluation NoteSet} (h : Tests scope memo f)
    {r : Evaluation Unit} (hr : r = pure () ∨ ∃ e, r = throw e) :
    Tests scope memo fun s => r >>= fun _ => f s := by
  rcases hr with rfl | ⟨e, rfl⟩
  · exact h
  · exact ⟨.error e, fun _ => .throw e⟩

/-- An operator is one for content, or there is an error. -/
theorem requireContentOperator_cases (op : Operator) :
    requireContentOperator op = pure () ∨ ∃ e, requireContentOperator op = throw e := by
  rw [requireContentOperator]
  split_ifs
  · exact Or.inl rfl
  · exact Or.inr ⟨_, rfl⟩

/-- An operator is one for the property, or there is an error. -/
theorem requirePropertyOperator_cases (p : Property) (op : Operator) :
    requirePropertyOperator p op = pure () ∨ ∃ e, requirePropertyOperator p op = throw e := by
  rw [requirePropertyOperator]
  split_ifs
  · exact Or.inr ⟨_, rfl⟩
  · exact Or.inl rfl

theorem tests_filterContent (scope : Scope) (memo : Memo) (tokens : List String) :
    Tests scope memo fun s => return filterContent scope s tokens := by
  unfold filterContent
  cases scope.sources.plain with
  | none => exact tests_nothing
  | some content => exact tests_filterNotes _

theorem tests_filterProtected (scope : Scope) (memo : Memo) (tokens : List String) :
    Tests scope memo fun s => return filterProtected scope s tokens := by
  unfold filterProtected
  cases scope.sources.decryptor.filter Decryptor.isAvailable with
  | none => exact tests_nothing
  | some decryptor => exact tests_filterNotes _

theorem tests_filterFulltext (scope : Scope) (memo : Memo) (tokens : List String) :
    Tests scope memo fun s => liftM (filterFulltext scope.graph s tokens) :=
  tests_filterReading fun n => (scope.graph.steady_flatText memo n).bind fun _ => .pure _

theorem tests_filterProperty (scope : Scope) (memo : Memo) (p : Property) (c : Comparator) :
    Tests scope memo fun s => liftM (filterProperty scope.graph s p c) := by
  refine tests_filterReading fun n => ?_
  cases scope.graph.notes.get? n with
  | none => exact .pure _
  | some note => exact (steady_propertyValue scope memo note p).bind fun _ => .pure _

/-! ## The outcome of an expression -/

/-- The outcome of an expression for a set, with the memory `memo` to begin with. -/
def outcome (scope : Scope) (memo : Memo) (e : Expression) (s : NoteSet) :
    Except Failure NoteSet :=
  ((evaluate scope e s).run memo).1

/-- The expression has one outcome for a set with every grown memory. -/
def IsSettled (scope : Scope) (memo : Memo) (e : Expression) : Prop :=
  ∀ s, Delivers scope memo (evaluate scope e s) (outcome scope memo e s)

/-- An expression is settled if it delivers something for every set. -/
theorem isSettled_of_delivers {e : Expression} {out : NoteSet → Except Failure NoteSet}
    (h : ∀ s, Delivers scope memo (evaluate scope e s) (out s)) : IsSettled scope memo e := by
  intro s
  have hs := h s
  rwa [← (h s).fst] at hs

/-- An expression that tests each member is settled. -/
theorem Tests.isSettled {e : Expression} (h : Tests scope memo (evaluate scope e)) :
    IsSettled scope memo e := by
  obtain ⟨v, hv⟩ := h
  exact isSettled_of_delivers hv

theorem tests_fulltext (scope : Scope) (memo : Memo) (tokens : List String) :
    Tests scope memo (evaluate scope (.fulltext tokens)) := by
  simp only [evaluate]
  exact tests_filterFulltext scope memo tokens

theorem tests_noteContent (scope : Scope) (memo : Memo) (op : Operator) (tokens : List String) :
    Tests scope memo (evaluate scope (.noteContent op tokens)) := by
  simp only [evaluate]
  exact (tests_filterContent scope memo tokens).of_requirement (requireContentOperator_cases op)

theorem tests_protectedContent (scope : Scope) (memo : Memo) (op : Operator)
    (tokens : List String) : Tests scope memo (evaluate scope (.protectedContent op tokens)) := by
  simp only [evaluate]
  exact (tests_filterProtected scope memo tokens).of_requirement (requireContentOperator_cases op)

theorem tests_propertyComparison (scope : Scope) (memo : Memo) (p : Property) (c : Comparator) :
    Tests scope memo (evaluate scope (.propertyComparison p c)) := by
  simp only [evaluate]
  exact (tests_filterProperty scope memo p c).of_requirement
    (requirePropertyOperator_cases p c.operator)

theorem tests_attributeExists (scope : Scope) (memo : Memo) (kind : AttributeKind) (name : String)
    (byBeginning : Bool) :
    Tests scope memo (evaluate scope (.attributeExists kind name byBeginning)) := by
  simp only [evaluate]
  exact tests_members _

theorem tests_attributeCompare (scope : Scope) (memo : Memo) (kind : AttributeKind) (name : String)
    (c : Comparator) : Tests scope memo (evaluate scope (.attributeCompare kind name c)) := by
  simp only [evaluate]
  exact tests_members _

/-- The targets of relations are tested one by one, whatever the set is. -/
theorem tests_relationWhere {target : Expression} (h : IsSettled scope memo target)
    (name : String) : Tests scope memo (evaluate scope (.relationWhere name target)) := by
  simp only [evaluate]
  refine tests_intersection (Delivers.filterM (b := fun a =>
    (a.target?.filter scope.graph.hasNote).elim (.ok false) fun t =>
      return (← outcome scope memo target (NoteSet.ofIds [t])).has t)
    (fun a => ?_) _) (reachOfAll scope.graph)
  cases a.target?.filter scope.graph.hasNote with
  | none => exact .pure _
  | some t => exact (h _).bind fun _ => .pure _

/-- To be below a note that is found is tested of each member for itself. -/
theorem tests_descendantOf {ancestor : Expression} (h : IsSettled scope memo ancestor) :
    Tests scope memo (evaluate scope (.descendantOf ancestor)) := by
  have htests := tests_intersection (h (NoteSet.ofIds scope.graph.noteIds)) fun matching =>
    NoteSet.ofIds (matching.ids.flatMap scope.graph.subtree)
  simpa only [evaluate] using htests

/-! ## Expressions with parts -/

section Parts

variable {parts : List Expression} {e : Expression}

/-- Each part is evaluated for what the parts before it found. -/
theorem delivers_allOf (h : ∀ e ∈ parts, IsSettled scope memo e) (s : NoteSet) :
    Delivers scope memo (evaluate scope (.allOf parts) s)
      (parts.foldlM (fun s e => outcome scope memo e s) s) := by
  rw [evaluate]
  induction parts generalizing s with
  | nil =>
    rw [evaluateAll]
    exact .pure s
  | cons e parts ih =>
    rw [List.forall_mem_cons] at h
    rw [evaluateAll, List.foldlM_cons]
    exact (h.1 s).bind fun t => ih h.2 t

/-- Each part is evaluated for the whole set. -/
theorem delivers_anyOf (h : ∀ e ∈ parts, IsSettled scope memo e) (s : NoteSet) :
    Delivers scope memo (evaluate scope (.anyOf parts) s)
      (parts.foldlM (fun found e => return found.addAll (← outcome scope memo e s)) .empty) := by
  rw [evaluate]
  -- the loop is followed from any set of notes that were found so far
  generalize NoteSet.empty = found
  induction parts generalizing found with
  | nil =>
    rw [evaluateAny]
    exact .pure found
  | cons e parts ih =>
    rw [List.forall_mem_cons] at h
    rw [evaluateAny, List.foldlM_cons, bind_assoc]
    simp only [pure_bind]
    exact (h.1 s).bind fun t => ih h.2 (found.addAll t)

/-- The negation delivers the members that are not found. -/
theorem delivers_not (h : IsSettled scope memo e) (s : NoteSet) :
    Delivers scope memo (evaluate scope (.not e) s)
      (return s.minus (← outcome scope memo e s)) := by
  rw [evaluate]
  exact (h s).bind fun _ => .pure _

/-- All notes that are related to the members of a set. -/
def pool (g : Graph) (s : NoteSet) (related : Note → List NoteId) : NoteSet :=
  NoteSet.ofIds ((s.ids.filterMap g.notes.get?).flatMap related)

/-- The notes related to the members are searched, and the members are kept that have a related note
among those found. -/
theorem delivers_filterRelated (h : IsSettled scope memo e) (related : Note → List NoteId)
    (s : NoteSet) : Delivers scope memo (filterRelated scope.graph s related (evaluate scope e))
      (do
        let found ← outcome scope memo e (pool scope.graph s related)
        return filterNotes scope.graph s fun note => (related note).any found.has) :=
  (h (pool scope.graph s related)).bind fun _ => .pure _

theorem delivers_childOf (h : IsSettled scope memo e) (s : NoteSet) :
    Delivers scope memo (evaluate scope (.childOf e) s) (do
      let found ← outcome scope memo e (pool scope.graph s (·.edges.parents))
      return filterNotes scope.graph s fun note => note.edges.parents.any found.has) := by
  rw [evaluate]
  exact delivers_filterRelated h _ s

theorem delivers_parentOf (h : IsSettled scope memo e) (s : NoteSet) :
    Delivers scope memo (evaluate scope (.parentOf e) s) (do
      let found ← outcome scope memo e (pool scope.graph s (·.edges.children))
      return filterNotes scope.graph s fun note => note.edges.children.any found.has) := by
  rw [evaluate]
  exact delivers_filterRelated h _ s

theorem delivers_orderByAndLimit (h : IsSettled scope memo e) (order : List OrderTerm)
    (limit : Option Nat) (s : NoteSet) :
    Delivers scope memo (evaluate scope (.orderByAndLimit e order limit) s)
      (do
        let found ← outcome scope memo e s
        if order.isEmpty then return found
        else
          let sorted ← inOrder scope memo found order
          return limit.elim sorted sorted.truncate) := by
  rw [evaluate]
  refine (h s).bind fun found => ?_
  split_ifs
  · exact .pure found
  · exact (delivers_sortNotes scope memo found order).bind fun _ => .pure _

end Parts

/-! ## Every expression -/

/-- **With every memory that has grown from the first one, an expression has the same outcome.** -/
theorem delivers_evaluate (scope : Scope) (memo : Memo) (e : Expression) :
    IsSettled scope memo e := by
  induction e using Expression.inductionOn with
  | allOf parts ih => exact isSettled_of_delivers (delivers_allOf ih)
  | anyOf parts ih => exact isSettled_of_delivers (delivers_anyOf ih)
  | not part ih => exact isSettled_of_delivers (delivers_not ih)
  | fulltext tokens => exact (tests_fulltext scope memo tokens).isSettled
  | noteContent op tokens => exact (tests_noteContent scope memo op tokens).isSettled
  | protectedContent op tokens => exact (tests_protectedContent scope memo op tokens).isSettled
  | attributeExists kind name byBeginning =>
    exact (tests_attributeExists scope memo kind name byBeginning).isSettled
  | attributeCompare kind name c => exact (tests_attributeCompare scope memo kind name c).isSettled
  | relationWhere name target ih => exact (tests_relationWhere ih name).isSettled
  | descendantOf ancestor ih => exact (tests_descendantOf ih).isSettled
  | childOf parent ih => exact isSettled_of_delivers (delivers_childOf ih)
  | parentOf child ih => exact isSettled_of_delivers (delivers_parentOf ih)
  | propertyComparison p c => exact (tests_propertyComparison scope memo p c).isSettled
  | orderByAndLimit inner order limit ih =>
    exact isSettled_of_delivers (delivers_orderByAndLimit ih order limit)

end Search

end Zettel
