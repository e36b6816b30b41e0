import Mathlib.Data.List.Induction
import Zettel.Logging

/-!
# Logging is started once

A process makes calls to start logging, one after the other, and each may fail: its level has no
meaning, its directory will not do, or starting does not end well. The first call that succeeds
settles the level and the destination. From then on a call only tells whether it asks for the same.

Main statements: `ok_init_some_iff`, when a call agrees with active logging, and
`started_once`, what is active after any run of calls.
-/

namespace Zettel.Logging

/-! ## What calls ask for -/

/-- The text, without blanks around it and in small letters, is a name of the level. -/
def Level.IsNamed (s : String) (l : Level) : Prop :=
  plainName s = l.name ∨ plainName s = "warning" ∧ l = warn

/-- The directory can be logged to: there is none, or its path begins at the root of the file
system. -/
def IsAcceptable (dir : Option String) : Prop := ∀ p ∈ dir, isAbsolute p = true

theorem Level.ofPlainName?_eq_some_iff {s : String} {l : Level} :
    ofPlainName? (plainName s) = some l ↔ IsNamed s l := by
  constructor
  · intro h
    unfold ofPlainName? at h
    split at h
    · next hs => cases h; exact Or.inl hs
    · next hs => cases h; exact Or.inl hs
    · next hs => cases h; exact Or.inl hs
    · next hs => cases h; exact Or.inl hs
    · next hs => cases h; exact Or.inr ⟨hs, rfl⟩
    · next hs => cases h; exact Or.inl hs
    · cases h
  · rintro (h | ⟨h, rfl⟩)
    · rw [h]
      cases l <;> rfl
    · rw [h]
      rfl

theorem checkDir_eq_ok_iff {dir : Option String} : checkDir dir = .ok () ↔ IsAcceptable dir := by
  cases dir with
  | none => exact iff_of_true rfl (by simp [IsAcceptable])
  | some p =>
    rw [checkDir]
    split_ifs with hempty habsolute
    · have hp : p = "" := String.isEmpty_iff.1 hempty
      exact iff_of_false (by simp) (by simp [IsAcceptable, isAbsolute, hp])
    · exact iff_of_true rfl (by simpa [IsAcceptable] using habsolute)
    · exact iff_of_false (by simp) (by simpa [IsAcceptable] using habsolute)

/-- A call asks for something if its level has a name and its directory will do. -/
theorem wanted_eq_ok_iff {level : String} {dir : Option String} {c : Config} :
    wanted level dir = .ok c ↔ Level.IsNamed level c.level ∧ IsAcceptable dir ∧ c.dir = dir := by
  rw [← Level.ofPlainName?_eq_some_iff, ← checkDir_eq_ok_iff, wanted]
  cases hlevel : Level.ofPlainName? (Level.plainName level) with
  | none => exact iff_of_false (by rintro ⟨⟩) (by simp)
  | some l =>
    cases hdir : checkDir dir with
    | error e => exact iff_of_false (by rintro ⟨⟩) (by simp)
    | ok u =>
      have hmk : (⟨l, dir⟩ : Config) = c ↔ l = c.level ∧ c.dir = dir := by
        rw [Config.mk.injEq, eq_comm (a := dir)]
      change Except.ok ⟨l, dir⟩ = Except.ok c ↔ _
      simp [hmk]

/-- Destinations are the same if they are directories with the same parts, or none. -/
theorem sameDestination_iff {p q : Option String} :
    sameDestination p q = true ↔ p.map pathParts = q.map pathParts := by
  cases p <;> cases q <;> simp [sameDestination, samePath_iff]

/-! ## One call -/

section Init

variable {active : Option Config} {a c : Config} {level : String} {dir : Option String}
  {start : Config → Except StartError Unit}

/-- Active logging is what is asked for if the destination and the level are. -/
theorem checkActive_eq_ok_iff :
    checkActive a c = .ok () ↔ a.dir.map pathParts = c.dir.map pathParts ∧ a.level = c.level := by
  rw [← sameDestination_iff, checkActive]
  split_ifs with hdir hlevel
  · exact iff_of_false (by simp) fun h => by simp [h.1] at hdir
  · exact iff_of_false (by simp) fun h => hlevel h.2
  · exact iff_of_true rfl ⟨by simpa using hdir, not_not.1 hlevel⟩

/-- Everything that a call can do: it fails and changes nothing, or it agrees with what is active,
or it is the first to succeed. -/
theorem init_cases (active : Option Config) (level : String) (dir : Option String)
    (start : Config → Except StartError Unit) :
    (∃ e, init active level dir start = (.error e, active)) ∨
      (∃ a c, active = some a ∧ wanted level dir = .ok c ∧ checkActive a c = .ok () ∧
        init active level dir start = (.ok (), active)) ∨
      (∃ c, active = none ∧ wanted level dir = .ok c ∧ start c = .ok () ∧
        init active level dir start = (.ok (), some c)) := by
  unfold init
  cases hwanted : wanted level dir with
  | error e => exact Or.inl ⟨e, rfl⟩
  | ok c =>
    cases active with
    | some a =>
      cases hcheck : checkActive a c with
      | error e => exact Or.inl ⟨e, by simp [hcheck]⟩
      | ok u => exact Or.inr (Or.inl ⟨a, c, rfl, rfl, hcheck, by simp [hcheck]⟩)
    | none =>
      cases hstart : start c with
      | error e => exact Or.inl ⟨.start e, by simp [hstart]⟩
      | ok u => exact Or.inr (Or.inr ⟨c, rfl, rfl, hstart, by simp [hstart]⟩)

/-- **A call that fails changes nothing.** -/
theorem snd_init_of_not_ok (h : (init active level dir start).1 ≠ .ok ()) :
    (init active level dir start).2 = active := by
  rcases init_cases active level dir start with ⟨e, he⟩ | ⟨_, _, _, _, _, hok⟩ | ⟨_, _, _, _, hok⟩
  · rw [he]
  · exact absurd (congrArg Prod.fst hok) h
  · exact absurd (congrArg Prod.fst hok) h

/-- **While logging is active, a call succeeds if it asks for the same.** -/
theorem ok_init_some_iff : (init (some a) level dir start).1 = .ok () ↔
    Level.IsNamed level a.level ∧ IsAcceptable dir ∧ a.dir.map pathParts = dir.map pathParts := by
  have hinit : (init (some a) level dir start).1 = .ok () ↔
      ∃ c, wanted level dir = .ok c ∧ checkActive a c = .ok () := by
    rw [init]
    cases wanted level dir <;> simp
  simp only [hinit, wanted_eq_ok_iff, checkActive_eq_ok_iff]
  constructor
  · rintro ⟨c, ⟨hnamed, hdir, rfl⟩, hparts, hlevel⟩
    exact ⟨hlevel ▸ hnamed, hdir, hparts⟩
  · rintro ⟨hnamed, hdir, hparts⟩
    exact ⟨⟨a.level, dir⟩, ⟨hnamed, hdir, rfl⟩, hparts, rfl⟩

/-- Before that, a call succeeds if starting what it asks for does, and this is active then. -/
theorem init_none_eq_iff : init none level dir start = (.ok (), some c) ↔
    (Level.IsNamed level c.level ∧ IsAcceptable dir ∧ c.dir = dir) ∧ start c = .ok () := by
  rw [← wanted_eq_ok_iff]
  constructor
  · intro h
    rcases init_cases none level dir start with ⟨e, he⟩ | ⟨_, _, hnone, _⟩ | ⟨d, _, hd, hstart, hok⟩
    · cases he.symm.trans h
    · cases hnone
    · cases hok.symm.trans h
      exact ⟨hd, hstart⟩
  · rintro ⟨hwanted, hstart⟩
    simp only [init, hwanted, hstart]

theorem snd_init_none_eq_some_iff : (init none level dir start).2 = some c ↔
    init none level dir start = (.ok (), some c) := by
  rcases init_cases none level dir start with ⟨e, he⟩ | ⟨_, _, hnone, _⟩ | ⟨_, _, _, _, hok⟩
  · simp [he]
  · cases hnone
  · simp [hok]

end Init

/-! ## Runs of calls -/

/-- A call to start logging. How starting ends is a matter of the machine. -/
structure Call where
  level : String
  dir : Option String
  start : Config → Except StartError Unit

/-- What the call answers, and what is active afterwards. -/
def Call.outcome (k : Call) (active : Option Config) : Except Error Unit × Option Config :=
  init active k.level k.dir k.start

/-- What is active after some calls. -/
def status (calls : List Call) : Option Config :=
  calls.foldl (fun active k => (k.outcome active).2) none

/-- The call succeeds after others. -/
def Call.SucceedsAfter (k : Call) (calls : List Call) : Prop :=
  (k.outcome (status calls)).1 = .ok ()

theorem status_concat (calls : List Call) (k : Call) :
    status (calls ++ [k]) = (k.outcome (status calls)).2 := by
  rw [status, List.foldl_append]
  rfl

/-- Active logging stays as it is. -/
theorem status_append {calls : List Call} {a : Config} (h : status calls = some a)
    (more : List Call) : status (calls ++ more) = some a := by
  induction more using List.reverseRecOn with
  | nil => rwa [List.append_nil]
  | append_singleton more k ih =>
    rw [← List.append_assoc, status_concat, ih]
    exact init_of_some a k.level k.dir k.start

/-- What is active was settled by a call before which nothing was. -/
theorem status_eq_some_iff {calls : List Call} {a : Config} : status calls = some a ↔
    ∃ before k, before ++ [k] <+: calls ∧ status before = none ∧
      k.outcome none = (.ok (), some a) := by
  constructor
  · intro h
    induction calls using List.reverseRecOn with
    | nil => cases h
    | append_singleton calls k ih =>
      cases hbefore : status calls with
      | some b =>
        obtain rfl : b = a := Option.some.inj ((status_append hbefore [k]).symm.trans h)
        obtain ⟨before, l, hprefix, hl⟩ := ih hbefore
        exact ⟨before, l, hprefix.trans (List.prefix_append calls [k]), hl⟩
      | none =>
        rw [status_concat, hbefore] at h
        exact ⟨calls, k, List.prefix_refl _, hbefore, snd_init_none_eq_some_iff.1 h⟩
  · rintro ⟨before, k, ⟨more, rfl⟩, hbefore, hk⟩
    refine status_append ?_ more
    rw [status_concat, hbefore, hk]

theorem isSome_status_of_succeedsAfter {k : Call} {calls : List Call}
    (h : k.SucceedsAfter calls) : (status (calls ++ [k])).isSome = true := by
  rw [status_concat]
  rcases init_cases (status calls) k.level k.dir k.start with
    ⟨e, he⟩ | ⟨_, _, hactive, _, _, hok⟩ | ⟨_, _, _, _, hok⟩
  · exact absurd (h.symm.trans (congrArg Prod.fst he)) (by simp)
  · rw [Call.outcome, hok, hactive]
    rfl
  · rw [Call.outcome, hok]
    rfl

/-- Nothing is active as long as no call has succeeded. -/
theorem status_eq_none_iff {calls : List Call} :
    status calls = none ↔ ∀ before k, before ++ [k] <+: calls → ¬k.SucceedsAfter before := by
  constructor
  · rintro h before k ⟨more, rfl⟩ hk
    obtain ⟨a, ha⟩ := Option.isSome_iff_exists.1 (isSome_status_of_succeedsAfter hk)
    exact absurd ((status_append ha more).symm.trans h) (by simp)
  · intro h
    rw [Option.eq_none_iff_forall_ne_some]
    intro a ha
    obtain ⟨before, k, hprefix, hbefore, hk⟩ := status_eq_some_iff.1 ha
    refine h before k hprefix ?_
    rw [Call.SucceedsAfter, hbefore, hk]

/-- **Logging is started once**: nothing is active until a call succeeds, what this call asks for is
active from then on, a later call succeeds exactly if it asks for the same, and a call that fails
changes nothing. -/
theorem started_once (calls : List Call) :
    (status calls = none ↔ ∀ before k, before ++ [k] <+: calls → ¬k.SucceedsAfter before) ∧
    (∀ a, status calls = some a ↔ ∃ before k, before ++ [k] <+: calls ∧ status before = none ∧
      (Level.IsNamed k.level a.level ∧ IsAcceptable k.dir ∧ a.dir = k.dir) ∧ k.start a = .ok ()) ∧
    (∀ a more, status calls = some a → status (calls ++ more) = some a) ∧
    (∀ a (k : Call), status calls = some a → (k.SucceedsAfter calls ↔
      Level.IsNamed k.level a.level ∧ IsAcceptable k.dir ∧
        a.dir.map pathParts = k.dir.map pathParts)) ∧
    ∀ k : Call, ¬k.SucceedsAfter calls → status (calls ++ [k]) = status calls := by
  refine ⟨status_eq_none_iff, fun a => ?_, fun a more h => status_append h more, fun a k h => ?_,
    fun k hk => ?_⟩
  · rw [status_eq_some_iff]
    simp only [Call.outcome, init_none_eq_iff]
  · rw [Call.SucceedsAfter, h]
    exact ok_init_some_iff
  · rw [status_concat]
    exact snd_init_of_not_ok hk

/-- A call without a level, one whose start fails, and one that succeeds before another does not. -/
example : status [⟨"loud", none, fun _ => .ok ()⟩,
    ⟨"info", some "/log", fun _ => .error (.backend "busy")⟩, ⟨" Warning", none, fun _ => .ok ()⟩,
    ⟨"warn", some "/log", fun _ => .ok ()⟩] = some ⟨.warn, none⟩ := by decide +kernel

end Zettel.Logging
