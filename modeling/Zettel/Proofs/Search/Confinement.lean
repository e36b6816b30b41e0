import Zettel.Proofs.Search.Answers

/-!
# Protected content

The content of an unprotected note is asked of one source and that of a protected note of another
one, and of this one only while it is available. So nothing that the first source says of protected
notes, or the second one of unprotected notes, makes a difference to an evaluation, wherever in the
expression content is searched. Why a note cannot be decrypted makes no difference either.

A note that cannot be decrypted is passed over. If the expression looks at no relatives and has no
limit, this shows for no other note, whenever there is an answer. But whether a sort comes through
may depend on it.

Main statements: `evaluate_eq_of_sameAnswers`, what is not asked makes no difference,
`agreeOn_outcome`, what is asked of one note makes no difference to the others, and
`lost_lockedGraph`, one note that cannot be decrypted makes a sort give up.
-/

namespace Zettel

namespace Query.Expression

mutual

/-- Somewhere in the expression a note is judged by the notes that it is joined to. -/
@[simp]
def asksRelatives : Expression → Bool
  | allOf parts => asksRelativesAny parts
  | anyOf parts => asksRelativesAny parts
  | not part => part.asksRelatives
  | relationWhere _ _ => true
  | descendantOf _ => true
  | childOf _ => true
  | parentOf _ => true
  | orderByAndLimit inner _ _ => inner.asksRelatives
  | _ => false

/-- The same for one of some expressions. -/
@[simp]
def asksRelativesAny : List Expression → Bool
  | [] => false
  | e :: es => e.asksRelatives || asksRelativesAny es

end

theorem asksRelativesAny_eq_false {es : List Expression} :
    asksRelativesAny es = false ↔ ∀ e ∈ es, e.asksRelatives = false := by
  induction es with
  | nil => simp [asksRelativesAny]
  | cons e es ih => rw [asksRelativesAny, Bool.or_eq_false_iff, ih, List.forall_mem_cons]

end Query.Expression

namespace Search

open Query

/-! ## What is asked of the sources -/

/-- The sources say the same of those notes that satisfy `on`, as far as they are asked: the first
one of unprotected notes, and the second one, if it is available, of protected notes. -/
structure SameAnswers (g : Graph) (on : Note → Prop) (a b : ContentSources) : Prop where
  plain : Option.Rel (fun content content' => ∀ note ∈ g.notes.values, on note →
    note.isProtected = false → content note.id = content' note.id) a.plain b.plain
  decryptor : Option.Rel (fun d d' => d.isAvailable = d'.isAvailable ∧ (d.isAvailable = true →
    ∀ note ∈ g.notes.values, on note → note.isProtected = true →
      (d.decrypt note.id).toOption = (d'.decrypt note.id).toOption)) a.decryptor b.decryptor

/-- The note is unprotected, and all tokens occur in its content. -/
def contentHas (sources : ContentSources) (tokens : List String) (note : Note) : Bool :=
  sources.plain.any fun content => !note.isProtected && isScannable note.noteType &&
    (content note.id).any fun text => containsAll (searchable note.noteType note.mime text) tokens

/-- The note is protected, and all tokens occur in its decrypted content. -/
def protectedHas (sources : ContentSources) (tokens : List String) (note : Note) : Bool :=
  (sources.decryptor.filter Decryptor.isAvailable).any fun d =>
    note.isProtected && isScannable note.noteType && (d.decrypt note.id).toOption.any fun text =>
      containsAll (searchable note.noteType note.mime text) tokens

section Sources

variable {g : Graph} {on : Note → Prop} {a b : ContentSources} {tokens : List String} {note : Note}

theorem filterNotes_false (g : Graph) (s : NoteSet) :
    filterNotes g s (fun _ => false) = .empty := by
  have hnone : ∀ n, (g.notes.get? n).any (fun _ => false) = false := fun n => by
    cases g.notes.get? n <;> rfl
  simp only [filterNotes, NoteSet.filter, hnone, List.filter_false]
  rfl

theorem filterContent_eq (scope : Scope) (s : NoteSet) (tokens : List String) :
    filterContent scope s tokens =
      filterNotes scope.graph s (contentHas scope.sources tokens) := by
  rw [filterContent]
  cases hplain : scope.sources.plain with
  | none =>
    rw [show contentHas scope.sources tokens = fun _ => false by
      funext note; rw [contentHas, hplain, Option.any_none]]
    exact (filterNotes_false _ _).symm
  | some content =>
    refine congrArg (filterNotes scope.graph s) (funext fun note => ?_)
    rw [contentHas, hplain, Option.any_some]

theorem filterProtected_eq (scope : Scope) (s : NoteSet) (tokens : List String) :
    filterProtected scope s tokens =
      filterNotes scope.graph s (protectedHas scope.sources tokens) := by
  rw [filterProtected]
  cases hdecryptor : scope.sources.decryptor.filter Decryptor.isAvailable with
  | none =>
    rw [show protectedHas scope.sources tokens = fun _ => false by
      funext note; rw [protectedHas, hdecryptor, Option.any_none]]
    exact (filterNotes_false _ _).symm
  | some d =>
    refine congrArg (filterNotes scope.graph s) (funext fun note => ?_)
    rw [protectedHas, hdecryptor, Option.any_some]
    cases d.decrypt note.id <;> rfl

theorem SameAnswers.contentHas_eq (h : SameAnswers g on a b) (hnote : note ∈ g.notes.values)
    (hon : on note) : contentHas a tokens note = contentHas b tokens note := by
  obtain ⟨plain, _⟩ := a
  obtain ⟨plain', _⟩ := b
  obtain ⟨hplain, -⟩ := h
  cases hplain with
  | none => rfl
  | some hsame =>
    rw [contentHas, contentHas, Option.any_some, Option.any_some]
    cases hprotected : note.isProtected with
    | true => rfl
    | false => rw [hsame note hnote hon hprotected]

theorem SameAnswers.protectedHas_eq (h : SameAnswers g on a b)
    (hnote : note ∈ g.notes.values) (hon : on note) :
    protectedHas a tokens note = protectedHas b tokens note := by
  obtain ⟨_, decryptor⟩ := a
  obtain ⟨_, decryptor'⟩ := b
  obtain ⟨-, hdecryptor⟩ := h
  cases hdecryptor with
  | none => rfl
  | @some d d' hsame =>
    obtain ⟨hsession, hsame⟩ := hsame
    rw [protectedHas, protectedHas]
    cases hopen : d.isAvailable with
    | false => simp [Option.filter, hopen, ← hsession]
    | true =>
      simp only [Option.filter, hopen, ← hsession, if_true, Option.any_some]
      cases hprotected : note.isProtected with
      | true => rw [hsame hopen note hnote hon hprotected]
      | false => rfl

end Sources

/-! ## What is not asked makes no difference -/

section Evaluation

variable {g : Graph} {a b : ContentSources}

theorem filterNotes_congr {s : NoteSet} {test test' : Note → Bool}
    (h : ∀ note ∈ g.notes.values, test note = test' note) :
    filterNotes g s test = filterNotes g s test' := by
  rw [filterNotes, filterNotes]
  refine congrArg s.filter (funext fun n => ?_)
  cases hnote : g.notes.get? n with
  | none => rfl
  | some note => exact h note (Table.mem_values_iff.2 ⟨n, hnote⟩)

/-- **What the sources need not be asked makes no difference to an evaluation.** -/
theorem evaluate_eq_of_sameAnswers (h : SameAnswers g (fun _ => True) a b) (e : Expression)
    (s : NoteSet) : evaluate ⟨g, a⟩ e s = evaluate ⟨g, b⟩ e s := by
  induction e using Expression.inductionOn generalizing s with
  | allOf parts ih =>
    rw [evaluate, evaluate]
    induction parts generalizing s with
    | nil => rw [evaluateAll, evaluateAll]
    | cons e parts ihs =>
      rw [List.forall_mem_cons] at ih
      rw [evaluateAll, evaluateAll, ih.1]
      exact congrArg (_ >>= ·) (funext fun t => ihs ih.2 t)
  | anyOf parts ih =>
    rw [evaluate, evaluate]
    generalize NoteSet.empty = found
    induction parts generalizing found with
    | nil => rw [evaluateAny, evaluateAny]
    | cons e parts ihs =>
      rw [List.forall_mem_cons] at ih
      rw [evaluateAny, evaluateAny, ih.1]
      exact congrArg (_ >>= ·) (funext fun t => ihs ih.2 (found.addAll t))
  | not part ih => rw [evaluate, evaluate, ih]
  | noteContent op tokens =>
    rw [evaluate, evaluate, filterContent_eq, filterContent_eq,
      filterNotes_congr fun note hnote => h.contentHas_eq hnote trivial]
  | protectedContent op tokens =>
    rw [evaluate, evaluate, filterProtected_eq, filterProtected_eq,
      filterNotes_congr fun note hnote => h.protectedHas_eq hnote trivial]
  | relationWhere name target ih => simp only [evaluate, ih]
  | descendantOf ancestor ih => simp only [evaluate, ih]
  | childOf parent ih => simp only [evaluate, ih]
  | parentOf child ih => simp only [evaluate, ih]
  | orderByAndLimit inner order limit ih => simp only [evaluate, ih]
  | _ => simp only [evaluate]

end Evaluation

/-! ## One note makes no difference to the others -/

/-- Both outcomes are the same error, or each consists of the members that satisfy a condition, and
the two conditions agree on the notes that satisfy `on`. -/
def AgreeOn (on : NoteId → Prop) (f f' : NoteSet → Except Failure NoteSet) : Prop :=
  (∃ err, FailsWith f err ∧ FailsWith f' err) ∨
    ∃ p p' : NoteId → Prop, Keeps f p ∧ Keeps f' p' ∧ ∀ n, on n → (p n ↔ p' n)

/-- The notes with an id are all among those that satisfy `on`. -/
def OnlyOn (g : Graph) (on : Note → Prop) (n : NoteId) : Prop :=
  ∀ note, g.notes.get? n = some note → on note

section Agreement

variable {g : Graph} {on : Note → Prop} {a b : ContentSources} {memo : Memo}
  {f f' : NoteSet → Except Failure NoteSet} {e : Expression}

theorem AgreeOn.of_eq {on : NoteId → Prop} (hf : IsPointwise f) (h : f = f') : AgreeOn on f f' := by
  subst h
  rcases hf with ⟨err, herr⟩ | ⟨p, hp⟩
  · exact Or.inl ⟨err, herr, herr⟩
  · exact Or.inr ⟨p, p, hp, hp, fun _ _ => Iff.rfl⟩

theorem agreeOn_error (on : NoteId → Prop) (err : EvaluationError) :
    AgreeOn on (fun _ => .error (.error err)) fun _ => .error (.error err) :=
  Or.inl ⟨err, fun _ _ => Or.inr rfl, fun _ _ => Or.inr rfl⟩

theorem keeps_filterNotes (g : Graph) (test : Note → Bool) :
    Keeps (fun s => .ok (filterNotes g s test)) fun n => (g.notes.get? n).any test = true :=
  fun s _ => isSetOf_ok (NoteSet.inStep_filter s _) fun _ => NoteSet.mem_filter

theorem agreeOn_filterNotes {test test' : Note → Bool}
    (h : ∀ note ∈ g.notes.values, on note → test note = test' note) :
    AgreeOn (OnlyOn g on) (fun s => .ok (filterNotes g s test))
      fun s => .ok (filterNotes g s test') := by
  refine Or.inr ⟨_, _, keeps_filterNotes g test, keeps_filterNotes g test', fun n hon => ?_⟩
  cases hnote : g.notes.get? n with
  | none => exact Iff.rfl
  | some note =>
    rw [Option.any_some, Option.any_some,
      h note (Table.mem_values_iff.2 ⟨n, hnote⟩) (hon note hnote)]

theorem outcome_noteContent (scope : Scope) (memo : Memo) (op : Operator) (tokens : List String) :
    outcome scope memo (.noteContent op tokens) =
      if op = .contains then fun s =>
        .ok (filterNotes scope.graph s (contentHas scope.sources tokens))
      else fun _ => .error (.error (.unsupportedContentOperator op)) := by
  funext s
  rw [outcome, evaluate, requireContentOperator, filterContent_eq]
  split_ifs <;> rfl

theorem outcome_protectedContent (scope : Scope) (memo : Memo) (op : Operator)
    (tokens : List String) : outcome scope memo (.protectedContent op tokens) =
      if op = .contains then fun s =>
        .ok (filterNotes scope.graph s (protectedHas scope.sources tokens))
      else fun _ => .error (.error (.unsupportedContentOperator op)) := by
  funext s
  rw [outcome, evaluate, requireContentOperator, filterProtected_eq]
  split_ifs <;> rfl

section Parts

variable {on : NoteId → Prop} {scope scope' : Scope} {parts : List Expression}

/-- If the parts agree, either each of them keeps some notes in both evaluations, or the first one
that fails is the same. -/
theorem keeps_or_failsWith_of_agreeOn
    (h : ∀ e ∈ parts, AgreeOn on (outcome scope memo e) (outcome scope' memo e)) :
    (∃ q q' : Expression → NoteId → Prop, (∀ e ∈ parts, Keeps (outcome scope memo e) (q e)) ∧
      (∀ e ∈ parts, Keeps (outcome scope' memo e) (q' e)) ∧
      ∀ e ∈ parts, ∀ n, on n → (q e n ↔ q' e n)) ∨
    ∃ front e back err, parts = front ++ e :: back ∧
      ((∀ e ∈ front, ∃ p, Keeps (outcome scope memo e) p) ∧
        FailsWith (outcome scope memo e) err) ∧
      (∀ e ∈ front, ∃ p, Keeps (outcome scope' memo e) p) ∧
        FailsWith (outcome scope' memo e) err := by
  rcases exists_first h with hkeeps | ⟨front, e, back, rfl, hfront, err, herr, herr'⟩
  · choose! q q' hq hq' hagree using hkeeps
    exact Or.inl ⟨q, q', hq, hq', hagree⟩
  · refine Or.inr ⟨front, e, back, err, rfl, ⟨fun e he => ?_, herr⟩, fun e he => ?_, herr'⟩
    · obtain ⟨p, -, hp, -⟩ := hfront e he
      exact ⟨p, hp⟩
    · obtain ⟨-, p', -, hp', -⟩ := hfront e he
      exact ⟨p', hp'⟩

theorem agreeOn_allOf
    (h : ∀ e ∈ parts, AgreeOn on (outcome scope memo e) (outcome scope' memo e)) :
    AgreeOn on (outcome scope memo (.allOf parts)) (outcome scope' memo (.allOf parts)) := by
  rcases keeps_or_failsWith_of_agreeOn h with
    ⟨q, q', hq, hq', hagree⟩ | ⟨front, e, back, err, rfl, ⟨hfront, herr⟩, hfront', herr'⟩
  · exact Or.inr ⟨_, _, keeps_allOf hq, keeps_allOf hq', fun n hn =>
      forall₂_congr fun e he => hagree e he n hn⟩
  · exact Or.inl ⟨err, failsWith_allOf hfront herr, failsWith_allOf hfront' herr'⟩

theorem agreeOn_anyOf
    (h : ∀ e ∈ parts, AgreeOn on (outcome scope memo e) (outcome scope' memo e)) :
    AgreeOn on (outcome scope memo (.anyOf parts)) (outcome scope' memo (.anyOf parts)) := by
  rcases keeps_or_failsWith_of_agreeOn h with
    ⟨q, q', hq, hq', hagree⟩ | ⟨front, e, back, err, rfl, ⟨hfront, herr⟩, hfront', herr'⟩
  · exact Or.inr ⟨_, _, keeps_anyOf hq, keeps_anyOf hq', fun n hn =>
      exists_congr fun e => and_congr_right fun he => hagree e he n hn⟩
  · exact Or.inl ⟨err, failsWith_anyOf hfront herr, failsWith_anyOf hfront' herr'⟩

end Parts

/-- **What is asked of some notes makes no difference to the others**, if no note is judged by
its relatives. -/
theorem agreeOn_outcome (h : SameAnswers g on a b) (memo : Memo) (e : Expression)
    (hrelatives : e.asksRelatives = false) (hlimit : e.hasLimit = false) :
    AgreeOn (OnlyOn g on) (outcome ⟨g, a⟩ memo e) (outcome ⟨g, b⟩ memo e) := by
  have hpointwise := isPointwise_outcome ⟨g, a⟩ memo e hlimit
  rw [Expression.hasLimit] at hlimit
  induction e using Expression.inductionOn with
  | allOf parts ih =>
    rw [Expression.asksRelatives, Expression.asksRelativesAny_eq_false] at hrelatives
    rw [Expression.anyOrdering, Expression.anyOrderingOf_eq_false] at hlimit
    exact agreeOn_allOf fun e he => ih e he (hrelatives e he) (hlimit e he)
      (isPointwise_outcome _ _ e (hlimit e he))
  | anyOf parts ih =>
    rw [Expression.asksRelatives, Expression.asksRelativesAny_eq_false] at hrelatives
    rw [Expression.anyOrdering, Expression.anyOrderingOf_eq_false] at hlimit
    exact agreeOn_anyOf fun e he => ih e he (hrelatives e he) (hlimit e he)
      (isPointwise_outcome _ _ e (hlimit e he))
  | not part ih =>
    rw [Expression.asksRelatives] at hrelatives
    rw [Expression.anyOrdering] at hlimit
    rcases ih hrelatives hlimit (isPointwise_outcome _ _ part hlimit) with
      ⟨err, herr, herr'⟩ | ⟨p, p', hp, hp', hagree⟩
    · exact Or.inl ⟨err, failsWith_not herr, failsWith_not herr'⟩
    · exact Or.inr ⟨_, _, keeps_not hp, keeps_not hp', fun n hn => not_congr (hagree n hn)⟩
  | noteContent op tokens =>
    rw [outcome_noteContent, outcome_noteContent]
    split_ifs
    · exact agreeOn_filterNotes fun note hnote hon => h.contentHas_eq hnote hon
    · exact agreeOn_error _ _
  | protectedContent op tokens =>
    rw [outcome_protectedContent, outcome_protectedContent]
    split_ifs
    · exact agreeOn_filterNotes fun note hnote hon => h.protectedHas_eq hnote hon
    · exact agreeOn_error _ _
  | relationWhere name target => cases hrelatives
  | descendantOf ancestor => cases hrelatives
  | childOf parent => cases hrelatives
  | parentOf child => cases hrelatives
  | orderByAndLimit inner order limit ih =>
    rw [Expression.asksRelatives] at hrelatives
    rw [Expression.anyOrdering, Bool.or_eq_false_iff, Option.isSome_eq_false_iff,
      Option.isNone_iff_eq_none] at hlimit
    obtain ⟨rfl, hlimit⟩ := hlimit
    rcases ih hrelatives hlimit (isPointwise_outcome _ _ inner hlimit) with
      ⟨err, herr, herr'⟩ | ⟨p, p', hp, hp', hagree⟩
    · exact Or.inl ⟨err, failsWith_ordered herr order, failsWith_ordered herr' order⟩
    · exact Or.inr ⟨p, p', keeps_ordered hp order, keeps_ordered hp' order, hagree⟩
  | _ =>
    -- the sources are not asked
    refine AgreeOn.of_eq hpointwise (funext fun s => ?_)
    simp only [outcome, evaluate]

end Agreement

/-! ## A note that cannot be decrypted -/

/-- The same sources, except that the note `id` cannot be decrypted. -/
def ContentSources.failingAt (sources : ContentSources) (id : NoteId) : ContentSources :=
  { sources with
    decryptor := sources.decryptor.map fun d =>
      { d with decrypt := fun n => if n = id then .error ⟨id, "wrong key"⟩ else d.decrypt n } }

theorem sameAnswers_failingAt (g : Graph) (sources : ContentSources) (id : NoteId) :
    SameAnswers g (fun note => note.id ≠ id) sources (sources.failingAt id) := by
  obtain ⟨plain, decryptor⟩ := sources
  constructor
  · cases plain with
    | none => exact .none
    | some content => exact .some fun _ _ _ _ => rfl
  · cases decryptor with
    | none => exact .none
    | some d =>
      refine .some ⟨rfl, fun _ note _ hne _ => ?_⟩
      exact congrArg Except.toOption (if_neg hne).symm

/-! ## Answers -/

section Answers

/-- Both answers are the same error, or sets with the same members among the notes that satisfy
`on`. -/
def AgreeFor (on : NoteId → Prop) (x y : Except EvaluationError NoteSet) : Prop :=
  (∃ err, x = .error err ∧ y = .error err) ∨
    ∃ found found', x = .ok found ∧ y = .ok found' ∧
      ∀ n, on n → (n ∈ found.ids ↔ n ∈ found'.ids)

variable {g : Graph} {a b : ContentSources} {memo m m' : Memo} {on : NoteId → Prop}
  {e : Expression} {s : NoteSet}

theorem AgreeOn.agreeFor (h : AgreeOn on (outcome ⟨g, a⟩ memo e) (outcome ⟨g, b⟩ memo e))
    (hs : s.InStep) {x y : Except EvaluationError NoteSet}
    (hx : x ∈ answer? (outcome ⟨g, a⟩ memo e s)) (hy : y ∈ answer? (outcome ⟨g, b⟩ memo e s)) :
    AgreeFor on x y := by
  rcases h with ⟨err, herr, herr'⟩ | ⟨p, p', hp, hp', hagree⟩
  · exact Or.inl ⟨err, isError_iff.1 (herr s hs) x hx, isError_iff.1 (herr' s hs) y hy⟩
  · obtain ⟨found, rfl, -, hmem⟩ := isSetOf_iff.1 (hp s hs) x hx
    obtain ⟨found', rfl, -, hmem'⟩ := isSetOf_iff.1 (hp' s hs) y hy
    refine Or.inr ⟨found, found', rfl, rfl, fun n hn => ?_⟩
    rw [hmem, hmem', hagree n hn]

/-- The content of protected notes is **confined**. Nothing that the sources say where they need not
be asked makes a difference to an evaluation. What the sources say of the note `id`, be it that it
cannot be decrypted, makes no difference to the answers for other notes, if no note is judged by its
relatives and there is no limit; and if nothing is ordered, there always are answers. -/
theorem content_confined (g : Graph) (a b : ContentSources) :
    (SameAnswers g (fun _ => True) a b → ∀ e s, evaluate ⟨g, a⟩ e s = evaluate ⟨g, b⟩ e s) ∧
    ∀ id, SameAnswers g (fun note => note.id ≠ id) a b → ∀ e : Expression,
      e.asksRelatives = false → e.hasLimit = false → ∀ memo,
      (∀ m m', Remembered ⟨g, a⟩ memo m → Remembered ⟨g, b⟩ memo m' → ∀ s : NoteSet, s.InStep →
        ∀ x ∈ answer? ((evaluate ⟨g, a⟩ e s).run m).1,
        ∀ y ∈ answer? ((evaluate ⟨g, b⟩ e s).run m').1,
          AgreeFor (fun n => ∀ note, g.notes.get? n = some note → note.id ≠ id) x y) ∧
      (e.hasOrder = false → Answers ⟨g, a⟩ memo e ∧ Answers ⟨g, b⟩ memo e) := by
  refine ⟨evaluate_eq_of_sameAnswers, fun id h e hrelatives hlimit memo => ⟨?_, fun horder => ?_⟩⟩
  · intro m m' hm hm' s hs x hx y hy
    rw [hm.evaluate_eq] at hx
    rw [hm'.evaluate_eq] at hy
    exact (agreeOn_outcome h memo e hrelatives hlimit).agreeFor hs hx hy
  · exact ⟨answers_of_lasts fun s => lasts_evaluate ⟨g, a⟩ e horder s,
      answers_of_lasts fun s => lasts_evaluate ⟨g, b⟩ e horder s⟩

end Answers

/-- The protected notes with a word in their content. -/
def lockedContent : Expression := .protectedContent .contains ["x"]

/-- All notes have the same content, and the protected ones can be decrypted. -/
def openSources : ContentSources :=
  { plain := some fun _ => some "x"
    decryptor := some { isAvailable := true, decrypt := fun _ => .ok "x" } }

/-- A protected note and an unprotected one. -/
def mixedGraph : Graph := (Vault.ofSnapshot
  { notes := [{ id := "p", title := "p", mime := "text/plain", isProtected := true },
      { id := "u", title := "u", mime := "text/plain" }] }).graph

/-- Each of the two notes has its content from one source only. -/
def neededSources : ContentSources :=
  { plain := some fun n => if n = "u" then some "x" else none
    decryptor := some { isAvailable := true
                        decrypt := fun n => if n = "p" then .ok "x" else .error ⟨n, "no key"⟩ } }

theorem content_confined_mixedGraph :
    (∀ e s, evaluate ⟨mixedGraph, openSources⟩ e s = evaluate ⟨mixedGraph, neededSources⟩ e s) ∧
    (∀ s : NoteSet, s.InStep →
      ∀ x ∈ answer? ((evaluate ⟨mixedGraph, openSources⟩ (.not lockedContent) s).run ∅).1,
      ∀ y ∈ answer? ((evaluate ⟨mixedGraph, openSources.failingAt "p"⟩
        (.not lockedContent) s).run ∅).1,
        AgreeFor (fun n => ∀ note, mixedGraph.notes.get? n = some note → note.id ≠ "p") x y) ∧
    Answers ⟨mixedGraph, openSources.failingAt "p"⟩ ∅ (.not lockedContent) := by
  have hsame : SameAnswers mixedGraph (fun _ => True) openSources neededSources := by
    constructor
    · refine .some fun note hnote _ => ?_
      revert note
      decide +kernel
    · refine .some ⟨rfl, fun _ note hnote _ => ?_⟩
      revert note
      decide +kernel
  obtain ⟨hagree, hanswers⟩ := (content_confined mixedGraph openSources
    (openSources.failingAt "p")).2 "p" (sameAnswers_failingAt _ _ _) (.not lockedContent) rfl rfl ∅
  exact ⟨(content_confined mixedGraph openSources neededSources).1 hsame,
    hagree ∅ ∅ .start .start, (hanswers rfl).2⟩

/-- Twenty-two protected notes, of which the last two have the same title. By their titles, 9 comes
before 10 and 10 before 1a, but 1a before 9. -/
def lockedGraph : Graph := (Vault.ofSnapshot
  { notes :=
      [("a", "10"), ("b", "0"), ("c", "10"), ("d", "10"), ("e", "10"), ("f", "10"), ("g", "10"),
        ("h", "10"), ("i", "10"), ("j", "10"), ("k", "1a"), ("l", "1a"), ("m", "1a"),
        ("n", "1a"), ("o", "1a"), ("p", "1a"), ("q", "1a"), ("r", "1a"), ("s", "1a"),
        ("t", "1a"), ("u", "9"), ("v", "9")].map fun (id, title) =>
        { id := id, title := title, mime := "text/plain", isProtected := true } }).graph

/-- The protected notes with a word in their content, in the order of their titles. -/
def lockedByTitle : Expression := .orderByAndLimit lockedContent [{ key := .property .title }] none

/-- With all notes the sort comes through, with all but the last one it gives up. -/
theorem lost_lockedGraph :
    SameAnswers lockedGraph (fun note => note.id ≠ "v") openSources (openSources.failingAt "v") ∧
    lockedByTitle.asksRelatives = false ∧ lockedByTitle.hasLimit = false ∧
    (((evaluate ⟨lockedGraph, openSources⟩ lockedByTitle
      (.ofIds lockedGraph.noteIds)).run ∅).1.map NoteSet.ids = .ok
        ["b", "a", "c", "d", "e", "f", "g", "h", "i", "j", "k", "l", "m", "n", "o", "p", "q", "r",
          "s", "t", "u", "v"]) ∧
    ((evaluate ⟨lockedGraph, openSources.failingAt "v"⟩ lockedByTitle
      (.ofIds lockedGraph.noteIds)).run ∅).1.map NoteSet.ids = .error .abort := by
  refine ⟨sameAnswers_failingAt _ _ _, rfl, rfl, ?_, ?_⟩
  · decide +kernel
  · decide +kernel

end Search

end Zettel
