import Zettel.Proofs.Memory
import Zettel.Vault

/-!
# The path of a collection

The collection of attributes hands each of its calls the path that it came by. Here all calls share
one path, which is changed in place: a note is put on it before the recursion goes on to the parents
and the templates, and taken off before the call returns. The calls also share what is remembered.
There are two kinds of them. The call for all attributes of a note asks each parent for what the
notes below take over, and that call asks the parent for all of its attributes in turn; of a
template all attributes are asked for at once. Nothing stops the recursion but the path, and it has
no result where more calls would be open at once than was said. Which templates there are comes out
only when the parents have been collected, but wherever the recursion goes on from, the note was not
on the path yet, so that fewer notes are left.

Main statements: `collections_end`, every collection comes to an end, whatever is remembered. It
finds what the bounded collection finds, no note is on the path twice, every call leaves the path as
it was, and no more calls are open at once than twice the number of notes, or one more if the first
of them asks for what the notes below take over. `deep_lineGraph`: one call more than there are
notes is not always enough.
-/

namespace Zettel.Graph

/-! ## The recursion on one path -/

/-- What the calls of a collection share, with a record of what became of the path. -/
structure Course where
  /-- The notes whose attributes are being collected, the last one first. -/
  path : List NoteId := []
  memo : Memo := ∅
  /-- The path after each change of it. -/
  paths : List (List NoteId) := []
  /-- The path before and after each call that has returned. -/
  returns : List (List NoteId × List NoteId) := []

namespace Course

/-- Puts a note on the path. -/
def enter (c : Course) (n : NoteId) : Course :=
  { c with path := n :: c.path, paths := (n :: c.path) :: c.paths }

/-- Takes the last note off the path. -/
def leave (c : Course) : Course := { c with path := c.path.tail, paths := c.path.tail :: c.paths }

/-- Remembers what was found at a note if it is complete. -/
def keep (c : Course) (n : NoteId) (found : Collected) : Course :=
  { c with memo :=
      if found.isComplete then
        c.memo.remember n fun e => { e with attributes := some found.attributes }
      else c.memo }

/-- Notes that a call returns that began with the path `before`. -/
def returned (c : Course) (before : List NoteId) : Course :=
  { c with returns := (before, c.path) :: c.returns }

end Course

/-- A call that reads and changes the course. It has no result if more calls would have to be open
at once than may be. -/
abbrev Call := StateT Course Option

/-- Adds to the ids so far those that `pick` chooses from what was found. -/
def addFound (g : Graph) (pick : Attributes → List AttributeId) (s : List AttributeId × Bool)
    (found : Collected) : List AttributeId × Bool :=
  (addNew s.1 ((pick found.attributes).filter g.attributes.contains), s.2 && found.isComplete)

/-- Calls for what each of some sources has, one after the other, and adds it to the ids so far.
Sources that do not exist are passed over. -/
abbrev callEach (g : Graph) (call : NoteId → Call Collected) (pick : Attributes → List AttributeId)
    (sources : List NoteId) (s : List AttributeId × Bool) : Call (List AttributeId × Bool) :=
  sources.foldlM (fun s n => do
    if g.hasNote n then
      let found ← call n
      return g.addFound pick s found
    else return s) s

mutual

/-- The call for all attributes of a note, where `depth` calls may be open at once, this one
included. -/
def collectAll (g : Graph) : (depth : Nat) → NoteId → Call Collected
  | 0, _ => failure
  | depth + 1, n => do
    let before ← get
    let found ←
      if before.path.contains n then pure .cut
      else match (before.memo.of n).attributes with
        | some attributes => pure ⟨attributes, true⟩
        | none => do
          modify (·.enter n)
          let base ← g.callEach (fun p => collectInheritable g depth p) Attributes.inheritable
            (g.inheritsFrom n) (addNew [] (g.owned n), true)
          let s ← g.callEach (fun t => collectAll g depth t) Attributes.all
            (g.templateTargets base.1) base
          modify Course.leave
          modify (·.keep n (g.collectedOf s))
          pure (g.collectedOf s)
    modify (·.returned before.path)
    return found

/-- The call for what the notes below take over, where `depth` calls may be open at once, this one
included. It looks at the path itself and then calls for all attributes. -/
def collectInheritable (g : Graph) : (depth : Nat) → NoteId → Call Collected
  | 0, _ => failure
  | depth + 1, n => do
    let before ← get
    let found ← if before.path.contains n then pure .cut else collectAll g depth n
    modify (·.returned before.path)
    return found

end

/-! ## What a call comes to -/

section Steps

variable {α β : Type} {call : Call α} {next : α → Call β} {a : α} {c c' : Course}

theorem get_bind (next : Course → Call β) (c : Course) : (get >>= next) c = next c c := rfl

theorem modify_bind (f : Course → Course) (next : PUnit → Call β) (c : Course) :
    (modify f >>= next) c = next ⟨⟩ (f c) := rfl

theorem bind_of_eq_some (h : call c = some (a, c')) : (call >>= next) c = next a c' := by
  change (call c).bind _ = _
  rw [h]
  rfl

end Steps

variable {g : Graph} {memo : Memo} {c c' c₁ c₂ : Course} {d depth : Nat} {n : NoteId}
  {path : List NoteId} {base s : List AttributeId × Bool} {found : Collected}

/-- At a note on the path the call returns at once. -/
theorem collectAll_of_mem (hp : n ∈ c.path) :
    g.collectAll (depth + 1) n c = some (.cut, c.returned c.path) := by
  rw [collectAll, get_bind]
  simp only [List.contains_iff_mem, hp, if_true]
  rfl

/-- What is remembered of a note is returned at once. -/
theorem collectAll_of_known {attributes : Attributes} (hp : n ∉ c.path)
    (hknown : (c.memo.of n).attributes = some attributes) :
    g.collectAll (depth + 1) n c = some (⟨attributes, true⟩, c.returned c.path) := by
  rw [collectAll, get_bind]
  simp only [List.contains_iff_mem, hp, if_false, hknown]
  rfl

/-- Where the collection is neither cut nor remembered, the parents and then the templates are added
to what the note owns, with the note on the path. -/
theorem collectAll_of_open (hp : n ∉ c.path) (hknown : (c.memo.of n).attributes = none)
    (hparents : g.callEach (g.collectInheritable depth) Attributes.inheritable (g.inheritsFrom n)
      (addNew [] (g.owned n), true) (c.enter n) = some (base, c₁))
    (htemplates : g.callEach (g.collectAll depth) Attributes.all (g.templateTargets base.1) base
      c₁ = some (s, c₂)) :
    g.collectAll (depth + 1) n c = some (g.collectedOf s,
      (c₂.leave.keep n (g.collectedOf s)).returned c.path) := by
  rw [collectAll, get_bind]
  simp only [List.contains_iff_mem, hp, if_false, hknown, modify_bind]
  rw [bind_of_eq_some hparents, bind_of_eq_some htemplates]
  rfl

theorem collectInheritable_of_mem (hp : n ∈ c.path) :
    g.collectInheritable (depth + 1) n c = some (.cut, c.returned c.path) := by
  rw [collectInheritable, get_bind]
  simp only [List.contains_iff_mem, hp, if_true]
  rfl

theorem collectInheritable_of_not_mem (hp : n ∉ c.path)
    (h : g.collectAll depth n c = some (found, c')) :
    g.collectInheritable (depth + 1) n c = some (found, c'.returned c.path) := by
  rw [collectInheritable, get_bind]
  simp only [List.contains_iff_mem, hp, if_false]
  rw [bind_of_eq_some h]
  rfl

/-! ## Order on the path -/

/-- Between its calls the course is at the path `path`. As far as the record goes no note was on the
path twice, and every call left the path as it was. -/
structure Course.At (path : List NoteId) (c : Course) : Prop where
  path_eq : c.path = path
  nodup : ∀ path ∈ c.paths, path.Nodup
  restored : ∀ r ∈ c.returns, r.2 = r.1

namespace Course.At

theorem start (memo : Memo) : ({ memo := memo } : Course).At [] where
  path_eq := rfl
  nodup := by simp
  restored := by simp

theorem returned (h : c.At path) : (c.returned path).At path :=
  { h with restored := List.forall_mem_cons.2 ⟨h.path_eq, h.restored⟩ }

/-- A call puts its note on the path and goes on from there. -/
theorem enter (h : c.At path) (hpath : (n :: path).Nodup) : (c.enter n).At (n :: path) where
  path_eq := congrArg (n :: ·) h.path_eq
  nodup := List.forall_mem_cons.2 ⟨h.path_eq.symm ▸ hpath, h.nodup⟩
  restored := h.restored

/-- It takes its note off the path again and is done. -/
theorem exit (h : c.At (n :: path)) (hpath : path.Nodup) (found : Collected) :
    (c.leave.keep n found).At path where
  path_eq := congrArg List.tail h.path_eq
  nodup := by
    refine List.forall_mem_cons.2 ⟨?_, h.nodup⟩
    rw [h.path_eq]
    exact hpath
  restored := h.restored

end Course.At

/-! ## Every call ends -/

/-- The call ends with the result and the memory `found`, and is back at the path `path`. -/
def EndsWith {α : Type} (path : List NoteId) (result : Option (α × Course))
    (found : α × Memo) : Prop :=
  ∃ c, result = some (found.1, c) ∧ c.memo = found.2 ∧ c.At path

/-- A source that does not exist adds nothing to a collection. -/
theorem addAll_cons_of_not_hasNote {pick : Attributes → List AttributeId}
    (hpick : pick Collected.nothing.attributes = []) (hn : g.hasNote n = false) (s : Gathering)
    (sources : List NoteId) :
    s.addAll g (g.collect (d + 1) path) pick (n :: sources) =
      s.addAll g (g.collect (d + 1) path) pick sources := by
  have hsame : ({ ids := addNew s.ids
                    ((pick Collected.nothing.attributes).filter g.attributes.contains)
                  isComplete := s.isComplete && Collected.nothing.isComplete
                  memo := s.memo } : Gathering) = s := by
    rw [hpick, Collected.nothing, Bool.and_true]
    rfl
  rw [Gathering.addAll, List.foldl_cons, collect_of_not_hasNote hn]
  exact congrArg (Gathering.addAll · g (g.collect (d + 1) path) pick sources) hsame

/-- The calls for what some sources have end, one after the other, if those at the sources that
exist do. -/
theorem endsWith_callEach {call : NoteId → Call Collected} (pick : Attributes → List AttributeId)
    (hpick : pick Collected.nothing.attributes = []) (sources : List NoteId)
    (h : ∀ n, g.hasNote n = true → ∀ c : Course, c.At path →
      EndsWith path (call n c) (g.collect (d + 1) path n c.memo))
    (s : Gathering) (hc : c.At path) (hmemo : c.memo = s.memo) :
    let all := s.addAll g (g.collect (d + 1) path) pick sources
    EndsWith path (g.callEach call pick sources (s.ids, s.isComplete) c)
      ((all.ids, all.isComplete), all.memo) := by
  induction sources generalizing s c with
  | nil => exact ⟨c, rfl, hmemo, hc⟩
  | cons n sources ih =>
    rw [callEach, List.foldlM_cons]
    cases hn : g.hasNote n with
    | false =>
      rw [if_neg (by simp), addAll_cons_of_not_hasNote hpick hn, bind_of_eq_some rfl]
      exact ih s hc hmemo
    | true =>
      obtain ⟨c₁, hcall, hmemo₁, hc₁⟩ := h n hn c hc
      rw [hmemo] at hcall hmemo₁
      rw [if_pos rfl, bind_of_eq_some (bind_of_eq_some hcall)]
      exact ih
        { ids := addNew s.ids ((pick (g.collect (d + 1) path n s.memo).1.attributes).filter
            g.attributes.contains)
          isComplete := s.isComplete && (g.collect (d + 1) path n s.memo).1.isComplete
          memo := (g.collect (d + 1) path n s.memo).2 } hc₁ hmemo₁

/-- The call for what the notes below take over ends if, off the path, the call for all attributes
does. -/
theorem endsWith_collectInheritable (hn : g.hasNote n = true) (hc : c.At path)
    (h : n ∉ path → EndsWith path (g.collectAll depth n c) (g.collect (d + 1) path n c.memo)) :
    EndsWith path (g.collectInheritable (depth + 1) n c) (g.collect (d + 1) path n c.memo) := by
  by_cases hp : n ∈ path
  · rw [collectInheritable_of_mem (hc.path_eq.symm ▸ hp), hc.path_eq, collect_of_mem hn hp]
    exact ⟨_, rfl, rfl, hc.returned⟩
  · obtain ⟨c', hcall, hmemo, hc'⟩ := h hp
    rw [collectInheritable_of_not_mem (hc.path_eq.symm ▸ hp) hcall, hc.path_eq]
    exact ⟨_, rfl, hmemo, hc'.returned⟩

/-- At a note on the path a call for all attributes ends at once, with a cut. -/
theorem endsWith_collectAll_of_mem (hn : g.hasNote n = true) (hc : c.At path) (hp : n ∈ path) :
    EndsWith path (g.collectAll (depth + 1) n c) (g.collect (d + 1) path n c.memo) := by
  rw [collectAll_of_mem (hc.path_eq.symm ▸ hp), collect_of_mem hn hp, hc.path_eq]
  exact ⟨_, rfl, rfl, hc.returned⟩

/-- Off the path, a call for all attributes ends if those that it makes do. -/
theorem endsWith_collectAll_of_not_mem (hroom : g.Roomy (d + 2) path) (hc : c.At path)
    (hn : g.hasNote n = true) (hp : n ∉ path)
    (hparent : ∀ m, g.hasNote m = true → ∀ c : Course, c.At (n :: path) →
      EndsWith (n :: path) (g.collectInheritable depth m c)
        (g.collect (d + 1) (n :: path) m c.memo))
    (htemplate : ∀ m, g.hasNote m = true → ∀ c : Course, c.At (n :: path) →
      EndsWith (n :: path) (g.collectAll depth m c) (g.collect (d + 1) (n :: path) m c.memo)) :
    EndsWith path (g.collectAll (depth + 1) n c) (g.collect (d + 2) path n c.memo) := by
  have hp' : n ∉ c.path := hc.path_eq.symm ▸ hp
  cases hknown : (c.memo.of n).attributes with
  | some attributes =>
    rw [collectAll_of_known hp' hknown, collect_of_known hn hp hknown, hc.path_eq]
    exact ⟨_, rfl, rfl, hc.returned⟩
  | none =>
    obtain ⟨c₁, hparents, hmemo₁, hc₁⟩ := endsWith_callEach Attributes.inheritable rfl
      (g.inheritsFrom n) hparent ⟨addNew [] (g.owned n), true, c.memo⟩
      (hc.enter (hroom.cons hn hp).nodup) rfl
    obtain ⟨c₂, htemplates, hmemo₂, hc₂⟩ := endsWith_callEach Attributes.all rfl _ htemplate _ hc₁
      hmemo₁
    rw [collectAll_of_open hp' hknown hparents htemplates, hc.path_eq,
      collect_of_not_mem hn hp hknown]
    refine ⟨_, rfl, ?_, (hc₂.exit hroom.nodup _).returned⟩
    change (if _ then c₂.memo.remember n _ else c₂.memo) = _
    rw [hmemo₂]
    rfl

/-- **Off the path the recursion comes to an end**, if two calls may be opened for each note that is
left, and finds what the bounded one finds. The induction is on the number of notes that are left: a
call that goes on has put a note on the path that was not there. -/
theorem endsWith_collectAll : ∀ (d depth : Nat) (path : List NoteId) (n : NoteId) (c : Course),
    g.Roomy (d + 1) path → c.At path → g.hasNote n = true → n ∉ path → 2 * d ≤ depth →
      EndsWith path (g.collectAll depth n c) (g.collect (d + 1) path n c.memo) := by
  intro d
  induction d with
  | zero =>
    intro depth path n c hroom _ hn hp
    exact absurd (hroom.cons hn hp).ne_zero (by simp)
  | succ d ih =>
    intro depth path n c hroom hc hn hp hdepth
    obtain ⟨depth, rfl⟩ : ∃ k, depth = k + 2 := ⟨depth - 2, by omega⟩
    have hroom' := hroom.cons hn hp
    refine endsWith_collectAll_of_not_mem hroom hc hn hp (fun p hpn c hc => ?_)
      fun t htn c hc => ?_
    · exact endsWith_collectInheritable hpn hc fun hpp =>
        ih depth _ p c hroom' hc hpn hpp (by omega)
    · by_cases htp : t ∈ n :: path
      · exact endsWith_collectAll_of_mem htn hc htp
      · exact ih (depth + 1) _ t c hroom' hc htn htp (by omega)

/-- **Every collection comes to an end**, whatever is remembered and however parents and templates
lead back to notes, with the result of the bounded collection. On the way no note is on the path
twice, every call leaves the path as it was, and no more calls of the two kinds are open at once
than twice the number of notes, or one more if the first one asks for what the notes below take
over. -/
theorem collections_end (memo : Memo) (hn : g.hasNote n = true)
    (hdepth : 2 * g.noteCount ≤ depth) :
    EndsWith [] (g.collectAll depth n { memo := memo })
      (g.collect (g.noteCount + 1) [] n memo) ∧
    EndsWith [] (g.collectInheritable (depth + 1) n { memo := memo })
      (g.collect (g.noteCount + 1) [] n memo) := by
  have hall : EndsWith [] (g.collectAll depth n { memo := memo }) _ :=
    endsWith_collectAll _ _ [] n _ (.start g) (.start memo) hn List.not_mem_nil hdepth
  exact ⟨hall, endsWith_collectInheritable hn (.start memo) fun _ => hall⟩

/-! ## How many calls are open -/

/-- Three notes, each below the next one, and the last one below the first. -/
def circuitGraph : Graph :=
  (Vault.ofSnapshot {
    notes := [{ id := "a", title := "A" }, { id := "b", title := "B" }, { id := "c", title := "C" }]
    branches := [{ id := "ba", child := "a", parent := "b" },
      { id := "cb", child := "b", parent := "c" }, { id := "ac", child := "c", parent := "a" }]
    attributes := [(AttributeRow.label "l" "c" "tag" "").inheritable] }).graph

/-- In a circuit of three notes six calls are open when the last one finds its note on the path. -/
theorem collections_end_circuitGraph : circuitGraph.hasNote "a" = true ∧
    2 * circuitGraph.noteCount ≤ 6 ∧
    EndsWith [] (circuitGraph.collectAll 6 "a" { memo := ∅ })
      (circuitGraph.collect (circuitGraph.noteCount + 1) [] "a" ∅) ∧
    (circuitGraph.collectAll 5 "a" {}).isSome = false := by
  have hn : circuitGraph.hasNote "a" = true := by decide +kernel
  have hdepth : 2 * circuitGraph.noteCount ≤ 6 := by decide +kernel
  exact ⟨hn, hdepth, (collections_end ∅ hn hdepth).1, by decide +kernel⟩

/-- Three notes, each below the next one. -/
def lineGraph : Graph :=
  (Vault.ofSnapshot {
    notes := [{ id := "a", title := "A" }, { id := "b", title := "B" }, { id := "c", title := "C" }]
    branches := [{ id := "ba", child := "a", parent := "b" },
      { id := "cb", child := "b", parent := "c" }]
    attributes := [(AttributeRow.label "l" "c" "tag" "").inheritable] }).graph

/-- Along a line of three notes five calls are open at once, which is more than one call more than
there are notes. -/
theorem deep_lineGraph : lineGraph.hasNote "a" = true ∧ lineGraph.noteCount = 3 ∧
    (lineGraph.collectAll (lineGraph.noteCount + 1) "a" {}).isSome = false ∧
    (lineGraph.collectAll 5 "a" {}).isSome = true := by
  decide +kernel

end Zettel.Graph
