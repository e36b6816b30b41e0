import Zettel.Graph.Views
import Zettel.Proofs.Inheritance.Settled

/-!
# What is remembered does not show

Each view of a note has a value that is computed with nothing remembered: `attributesAt`,
`ancestorsAt`, `flatTextAt`. A memory is *right* if it holds such values, and attributes of settled
notes only. The memory is right to begin with, every reading keeps it right, and with a right memory
every reading gives the value that it gives with nothing remembered.

Main statement: `answers_eq_map`, each of a list of queries is answered as if it were the only one.
-/

namespace Zettel

/-! ## What readings yield -/

/-- With every memory that satisfies `I` the reading gives `a`, and the memory satisfies `I`
afterwards. -/
def Yields (I : Memo → Prop) {α : Type} (r : Reading α) (a : α) : Prop :=
  ∀ memo, I memo → (r memo).1 = a ∧ I (r memo).2

section Yields

variable {I : Memo → Prop} {α β : Type} {r : Reading α} {f : α → Reading β} {a : α} {b : β}

theorem Yields.pure (a : α) : Yields I (pure a) a := fun _ h => ⟨rfl, h⟩

/-- One reading after the other: what the first one gives is handed to the second. -/
theorem Yields.bind (hr : Yields I r a) (hf : Yields I (f a) b) : Yields I (r >>= f) b := by
  intro memo h
  obtain ⟨hfst, hsnd⟩ := hr memo h
  change (f (r memo).1 (r memo).2).1 = b ∧ I (f (r memo).1 (r memo).2).2
  rw [hfst]
  exact hf _ hsnd

end Yields

namespace Graph

/-! ## Values of the views -/

/-- The attributes of a note, with nothing remembered. -/
def effectiveAt (g : Graph) (n : NoteId) : List Attribute :=
  (g.attributesAt n).all.filterMap g.attributes.get?

/-- The ancestors of a note, with nothing remembered. -/
def ancestorsAt (g : Graph) (n : NoteId) : List NoteId :=
  if g.hasNote n then (g.climb g.noteCount n [n]).tail else []

/-- The note is left out of fulltext search, with nothing remembered. -/
def isHiddenAt (g : Graph) (n : NoteId) : Bool :=
  (g.effectiveAt n).any fun a =>
    a.isLabel && (a.name = Attribute.archivedName || a.name = Attribute.hiddenName)

/-- The flat text of a note, with nothing remembered. -/
def flatTextAt (g : Graph) (n : NoteId) : String :=
  match g.notes.get? n with
  | none => ""
  | some note => if g.isHiddenAt n then " " else g.fullText note (g.effectiveAt n)

end Graph

/-! ## Right memories -/

namespace Memo

/-- To remember something of one note changes nothing that is remembered of others. -/
theorem of_remember (memo : Memo) (n m : NoteId) (f : NoteMemo → NoteMemo) :
    (memo.remember n f).of m = if m = n then f (memo.of n) else memo.of m := by
  rw [remember, of, Table.get?_insert]
  split
  · rfl
  · rfl

/-- Nothing is remembered at first. -/
@[simp]
theorem of_empty (n : NoteId) : Memo.of ∅ n = {} := rfl

end Memo

namespace Graph

/-- What is remembered of the note `n` are the values of its views. -/
structure Fits (g : Graph) (n : NoteId) (c : NoteMemo) : Prop where
  attributes : ∀ a, c.attributes = some a → a = g.attributesAt n
  ancestors : ∀ ns, c.ancestors = some ns → ns = g.ancestorsAt n
  flatText : ∀ text, c.flatText = some text → text = g.flatTextAt n

/-- What is not remembered cannot be wrong. -/
theorem Fits.nothing (g : Graph) (n : NoteId) : g.Fits n {} := by
  constructor <;> simp

/-- The memory holds the values of views, and attributes of settled notes only. -/
structure Remembers (g : Graph) (memo : Memo) : Prop where
  fits : ∀ n, g.Fits n (memo.of n)
  settled : ∀ n a, (memo.of n).attributes = some a → g.Settled n

variable {g : Graph} {memo : Memo} {n : NoteId}

/-- A memory that holds nothing is right. -/
theorem Remembers.empty (g : Graph) : g.Remembers ∅ where
  fits := Fits.nothing g
  settled := by simp

theorem Remembers.remember (h : g.Remembers memo) {f : NoteMemo → NoteMemo}
    (hfits : g.Fits n (f (memo.of n)))
    (hsettled : ∀ a, (f (memo.of n)).attributes = some a → g.Settled n) :
    g.Remembers (memo.remember n f) where
  fits m := by
    rw [Memo.of_remember]
    split
    · rename_i hm
      exact hm ▸ hfits
    · exact h.fits m
  settled m a ha := by
    rw [Memo.of_remember] at ha
    split at ha
    · rename_i hm
      exact hm ▸ hsettled a ha
    · exact h.settled m a ha

/-! ## Collecting with a memory -/

section Collect

variable {I : Memo → Prop} {c : NoteId → Collected} {d : Nat} {path : List NoteId}

/-- Adding up collections with a memory is adding them up without one, if each single collection
is, and keeps what they keep of the memory. -/
theorem addAll_eq_gatherFrom {collect : NoteId → Memo → Collected × Memo}
    (pick : Attributes → List AttributeId) {sources : List NoteId}
    (h : ∀ n ∈ sources, ∀ memo, I memo → (collect n memo).1 = c n ∧ I (collect n memo).2)
    {s : Gathering} (hs : I s.memo) :
    ((s.addAll g collect pick sources).ids, (s.addAll g collect pick sources).isComplete) =
        g.gatherFrom c pick sources (s.ids, s.isComplete) ∧
      I (s.addAll g collect pick sources).memo := by
  induction sources generalizing s with
  | nil => exact ⟨rfl, hs⟩
  | cons n sources ih =>
    obtain ⟨hfst, hsnd⟩ := h n List.mem_cons_self s.memo hs
    rw [Gathering.addAll, List.foldl_cons, ← Gathering.addAll, gatherFrom, List.foldl_cons,
      ← gatherFrom]
    obtain ⟨heq, hmemo⟩ := ih (fun m hm => h m (List.mem_cons_of_mem _ hm))
      (s := { ids := addNew s.ids ((pick (collect n s.memo).1.attributes).filter
                g.attributes.contains)
              isComplete := s.isComplete && (collect n s.memo).1.isComplete
              memo := (collect n s.memo).2 }) hsnd
    refine ⟨heq.trans ?_, hmemo⟩
    rw [hfst]

/-- Nothing is collected for an id without a note, and nothing is remembered. -/
theorem collect_of_not_hasNote (hn : g.hasNote n = false) :
    g.collect (d + 1) path n memo = (.nothing, memo) := by
  have hnone : g.notes.get? n = none := Option.not_isSome_iff_eq_none.1 (by simpa [hasNote,
    Table.contains] using hn)
  simp only [collect, hnone]

/-- At a note on the path the collection is cut. -/
theorem collect_of_mem (hn : g.hasNote n = true) (hp : n ∈ path) :
    g.collect (d + 1) path n memo = (.cut, memo) := by
  obtain ⟨note, hnote⟩ := Option.isSome_iff_exists.1 hn
  simp only [collect, hnote, List.contains_iff_mem, hp, if_true]

/-- What is remembered of a note is not collected again. -/
theorem collect_of_known {attributes : Attributes} (hn : g.hasNote n = true) (hp : n ∉ path)
    (hknown : (memo.of n).attributes = some attributes) :
    g.collect (d + 1) path n memo = (⟨attributes, true⟩, memo) := by
  obtain ⟨note, hnote⟩ := Option.isSome_iff_exists.1 hn
  simp only [collect, hnote, List.contains_iff_mem, hp, if_false, hknown]

/-- Where the collection is neither cut nor remembered, the parents and then the templates are added
to what the note owns. -/
theorem collect_of_not_mem (hn : g.hasNote n = true) (hp : n ∉ path)
    (hknown : (memo.of n).attributes = none) : g.collect (d + 1) path n memo =
      let s := Gathering.addAll ⟨addNew [] (g.owned n), true, memo⟩ g (g.collect d (n :: path))
        Attributes.inheritable (g.inheritsFrom n)
      let s := s.addAll g (g.collect d (n :: path)) Attributes.all (g.templateTargets s.ids)
      (g.collectedOf (s.ids, s.isComplete),
        if s.isComplete then
          s.memo.remember n fun c =>
            { c with attributes := some ⟨s.ids, g.inheritableAmong s.ids⟩ }
        else s.memo) := by
  obtain ⟨note, hnote⟩ := Option.isSome_iff_exists.1 hn
  have howned : note.edges.owned = g.owned n := by rw [owned, edges, hnote]
  have hparents : note.edges.parents = g.parents n := by rw [parents, edges, hnote]
  simp only [collect, hnote, List.contains_iff_mem, hp, if_false, hknown, howned, hparents]
  by_cases hroot : n = rootId
  · simp only [inheritsFrom, hroot, if_true]
    rfl
  · simp only [inheritsFrom, hroot, if_false]
    rfl

/-- What the collection gathers there, if it is known what it finds at the parents and at the
templates. A complete collection is remembered. -/
theorem collect_eq_gatherAll (hn : g.hasNote n = true) (hp : n ∉ path)
    (hknown : (memo.of n).attributes = none) (hmemo : I memo)
    (hparents : ∀ p ∈ g.inheritsFrom n, ∀ memo, I memo →
      (g.collect d (n :: path) p memo).1 = c p ∧ I (g.collect d (n :: path) p memo).2)
    (htemplates : ∀ t ∈ g.templateTargets (g.gatherBase c n).1, ∀ memo, I memo →
      (g.collect d (n :: path) t memo).1 = c t ∧ I (g.collect d (n :: path) t memo).2) :
    ∃ memo', I memo' ∧ g.collect (d + 1) path n memo =
      (g.collectedOf (g.gatherAll c n),
        if (g.gatherAll c n).2 then
          memo'.remember n fun e =>
            { e with attributes := some (g.collectedOf (g.gatherAll c n)).attributes }
        else memo') := by
  obtain ⟨hbase, hmemo₁⟩ := addAll_eq_gatherFrom Attributes.inheritable hparents
    (s := ⟨addNew [] (g.owned n), true, memo⟩) hmemo
  rw [collect_of_not_mem hn hp hknown]
  generalize Gathering.addAll ⟨addNew [] (g.owned n), true, memo⟩ g (g.collect d (n :: path))
    Attributes.inheritable (g.inheritsFrom n) = s₁ at hbase hmemo₁
  change _ = g.gatherBase c n at hbase
  obtain ⟨hall, hmemo₂⟩ := addAll_eq_gatherFrom Attributes.all
    (fun t ht => htemplates t (by rw [← hbase]; exact ht)) hmemo₁
  dsimp only
  generalize s₁.addAll g (g.collect d (n :: path)) Attributes.all
    (g.templateTargets s₁.ids) = s₂ at hall hmemo₂
  have hgather : g.gatherAll c n = (s₂.ids, s₂.isComplete) := by
    rw [gatherAll, ← hbase]
    exact hall.symm
  exact ⟨s₂.memo, hmemo₂, by rw [hgather]; rfl⟩

end Collect

/-- **The collection with a right memory is the one without**, and the memory is right
afterwards. -/
theorem collect_eq_gather : ∀ (d : Nat) (path : List NoteId) (n : NoteId) (memo : Memo),
    g.Roomy d path → (∀ q ∈ path, Relation.TransGen g.Draws q n) → g.Remembers memo →
    (g.collect d path n memo).1 = g.gather d path n ∧
      g.Remembers (g.collect d path n memo).2 := by
  intro d
  induction d with
  | zero => intro path n memo hroom; exact absurd hroom.ne_zero (by simp)
  | succ d ih =>
    intro path n memo hroom hpath hmemo
    cases hn : g.hasNote n with
    | false =>
      rw [gather_of_not_hasNote hn, collect_of_not_hasNote hn]
      exact ⟨rfl, hmemo⟩
    | true =>
      by_cases hp : n ∈ path
      · rw [gather_of_mem hn hp, collect_of_mem hn hp]
        exact ⟨rfl, hmemo⟩
      · cases hknown : (memo.of n).attributes with
        | some a =>
          obtain rfl := (hmemo.fits n).attributes a hknown
          rw [gather_eq_attributesAt (hmemo.settled n _ hknown) hroom hpath,
            collect_of_known hn hp hknown]
          exact ⟨rfl, hmemo⟩
        | none =>
          have hbelow : ∀ m, Relation.TransGen g.Draws n m → ∀ memo,
              g.Remembers memo →
                (g.collect d (n :: path) m memo).1 = g.gather d (n :: path) m ∧
                  g.Remembers (g.collect d (n :: path) m memo).2 := by
            intro m hnm memo
            refine ih (n :: path) m memo (hroom.cons hn hp) fun q hq => ?_
            rcases List.mem_cons.1 hq with rfl | hq
            · exact hnm
            · exact (hpath q hq).trans hnm
          obtain ⟨memo', hmemo', heq⟩ := collect_eq_gatherAll hn hp hknown hmemo
            (fun p hp => hbelow p (.single (Or.inl hp))) fun t ht => hbelow t
              (drawsOn_of_templateTarget (fun _ hid => owner_of_mem_gatherBase_gather hid) ht)
          rw [heq, gather_of_not_mem hn hp]
          refine ⟨rfl, ?_⟩
          dsimp only
          split_ifs with hcomplete
          · have hsettled : g.Settled n :=
              settled_of_isComplete (d + 1) path n (by rwa [gather_of_not_mem hn hp])
            have hcollected := gather_eq_attributesAt hsettled hroom hpath
            rw [gather_of_not_mem hn hp] at hcollected
            rw [hcollected]
            exact hmemo'.remember
              { hmemo'.fits n with attributes := fun a ha => (Option.some.inj ha).symm }
              fun _ _ => hsettled
          · exact hmemo'

/-! ## Readings -/

/-- With every right memory the reading gives `a`, and the memory is right afterwards. -/
def Gives (g : Graph) {α : Type} (r : Reading α) (a : α) : Prop :=
  ∀ memo, g.Remembers memo → (r memo).1 = a ∧ g.Remembers (r memo).2

variable {α β : Type}

theorem Gives.pure (a : α) : g.Gives (pure a) a := Yields.pure a

/-- One reading after the other, with a memory that stays right. -/
theorem Gives.bind {r : Reading α} {f : α → Reading β} {a : α} {b : β} (hr : g.Gives r a)
    (hf : g.Gives (f a) b) : g.Gives (r >>= f) b :=
  Yields.bind hr hf

/-- What a reading gives is what it gives with nothing remembered. -/
theorem Gives.fst_empty {r : Reading α} {a : α} (h : g.Gives r a) : (r ∅).1 = a :=
  (h ∅ (.empty g)).1

theorem gives_attributesOf (g : Graph) (n : NoteId) :
    g.Gives (g.attributesOf n) (g.attributesAt n) := by
  intro memo h
  obtain ⟨hfst, hsnd⟩ := collect_eq_gather (g.noteCount + 1) [] n memo (.start g) (by simp) h
  exact ⟨congrArg Collected.attributes hfst, hsnd⟩

theorem gives_attributeIds (g : Graph) (n : NoteId) :
    g.Gives (g.attributeIds n) (g.attributesAt n).all :=
  (gives_attributesOf g n).bind (.pure _)

theorem gives_inheritableIds (g : Graph) (n : NoteId) :
    g.Gives (g.inheritableIds n) (g.attributesAt n).inheritable :=
  (gives_attributesOf g n).bind (.pure _)

theorem gives_effective (g : Graph) (n : NoteId) : g.Gives (g.effective n) (g.effectiveAt n) :=
  (gives_attributeIds g n).bind (.pure _)

theorem gives_isHidden (g : Graph) (n : NoteId) : g.Gives (g.isHidden n) (g.isHiddenAt n) :=
  (gives_effective g n).bind (.pure _)

/-- The ancestors of an existing note are looked up, or found by a climb and remembered. -/
theorem ancestors_of_known (hn : g.hasNote n = true) (memo : Memo) : g.ancestors n memo =
    match (memo.of n).ancestors with
    | some ns => (ns, memo)
    | none => (g.ancestorsAt n,
        memo.remember n fun c => { c with ancestors := some (g.ancestorsAt n) }) := by
  have hvalue : g.ancestorsAt n = (g.climb g.noteCount n [n]).tail := by
    rw [ancestorsAt, if_pos hn]
  rw [hvalue]
  exact if_pos hn

theorem gives_ancestors (g : Graph) (n : NoteId) : g.Gives (g.ancestors n) (g.ancestorsAt n) := by
  intro memo h
  by_cases hn : g.hasNote n = true
  · rw [ancestors_of_known hn]
    cases hknown : (memo.of n).ancestors with
    | some ns => exact ⟨(h.fits n).ancestors ns hknown, h⟩
    | none =>
      dsimp only
      refine ⟨rfl, h.remember ?_ (h.settled n)⟩
      exact { h.fits n with ancestors := fun _ hns => (Option.some.inj hns).symm }
  · simp only [ancestors, hn, ancestorsAt]
    exact ⟨rfl, h⟩

/-- The flat text that is put together with a right memory is the one that is put together with
none. -/
theorem gives_buildText {note : Note} (hnote : g.notes.get? n = some note) :
    g.Gives (g.buildText n note) (g.flatTextAt n) := by
  rw [flatTextAt, hnote]
  refine (gives_isHidden g n).bind ?_
  cases g.isHiddenAt n with
  | true => exact .pure _
  | false => exact (gives_effective g n).bind (.pure _)

/-- The flat text of a note is looked up, or put together and remembered. -/
theorem flatText_of_note {note : Note} (hnote : g.notes.get? n = some note) (memo : Memo) :
    g.flatText n memo =
      match (memo.of n).flatText with
      | some text => (text, memo)
      | none => ((g.buildText n note memo).1, (g.buildText n note memo).2.remember n fun c =>
          { c with flatText := some (g.buildText n note memo).1 }) := by
  rw [flatText, hnote]
  show (match (memo.of n).flatText with
    | some text => (pure text : Reading String)
    | none => do
      let text ← g.buildText n note
      modify fun (memo : Memo) => memo.remember n fun c => { c with flatText := some text }
      return text) memo = _
  cases (memo.of n).flatText with
  | some text => rfl
  | none => rfl

theorem gives_flatText (g : Graph) (n : NoteId) : g.Gives (g.flatText n) (g.flatTextAt n) := by
  cases hnote : g.notes.get? n with
  | none =>
    rw [flatText, flatTextAt, hnote]
    exact .pure _
  | some note =>
    intro memo h
    rw [flatText_of_note hnote]
    cases hknown : (memo.of n).flatText with
    | some text => exact ⟨(h.fits n).flatText text hknown, h⟩
    | none =>
      obtain ⟨hfst, hsnd⟩ := gives_buildText hnote memo h
      dsimp only
      refine ⟨hfst, hsnd.remember ?_ (hsnd.settled n)⟩
      exact { hsnd.fits n with flatText := fun _ ht => Option.some.inj ht ▸ hfst }

theorem gives_valueOf? (g : Graph) (n : NoteId) (kind : AttributeKind) (name : String) :
    ∃ v, g.Gives (g.valueOf? n kind name) v :=
  ⟨_, (gives_effective g n).bind (.pure _)⟩

theorem gives_hasAttribute (g : Graph) (n : NoteId) (kind : AttributeKind) (name : String) :
    ∃ b, g.Gives (g.hasAttribute n kind name) b := by
  obtain ⟨v, hv⟩ := gives_valueOf? g n kind name
  exact ⟨_, hv.bind (.pure _)⟩

theorem gives_relationTarget? (g : Graph) (n : NoteId) (name : String) :
    ∃ v, g.Gives (g.relationTarget? n name) v := by
  obtain ⟨v, hv⟩ := gives_valueOf? g n .relation name
  exact ⟨_, hv.bind (.pure _)⟩

theorem gives_isInAncestor (g : Graph) (n a : NoteId) : ∃ b, g.Gives (g.isInAncestor n a) b := by
  by_cases hna : n = a
  · rw [isInAncestor, if_pos hna]
    exact ⟨true, .pure _⟩
  · rw [isInAncestor, if_neg hna]
    exact ⟨_, (gives_ancestors g n).bind (.pure _)⟩

theorem gives_countAttributes (g : Graph) (n : NoteId) (p : Attribute → Bool) :
    g.Gives (g.countAttributes n p) ((g.effectiveAt n).countP p) :=
  (gives_effective g n).bind (.pure _)

end Zettel.Graph

/-! ## Queries -/

namespace Zettel

/-- What can be asked about a note. -/
inductive ViewQuery
  | attributes (n : NoteId)
  | inheritable (n : NoteId)
  | hasAttribute (n : NoteId) (kind : AttributeKind) (name : String)
  | labelValue (n : NoteId) (name : String)
  | relationTarget (n : NoteId) (name : String)
  | isArchived (n : NoteId)
  | isHidden (n : NoteId)
  | flatText (n : NoteId)
  | ancestors (n : NoteId)
  | isInAncestor (n ancestor : NoteId)
  | parentCount (n : NoteId)
  | childrenCount (n : NoteId)
  | labelCount (n : NoteId)
  | relationCount (n : NoteId)
  | attributeCount (n : NoteId)
  deriving DecidableEq, Repr

/-- The answer to a query. -/
inductive ViewAnswer
  | ids (ids : List String)
  | text (text : String)
  | value (value : Option String)
  | flag (flag : Bool)
  | count (count : Nat)
  deriving DecidableEq, Repr

namespace ViewQuery

open ViewAnswer in
/-- Answers a query by reading the view. -/
def answer (g : Graph) : ViewQuery → Reading ViewAnswer
  | attributes n => return ids (← g.attributeIds n)
  | inheritable n => return ids (← g.inheritableIds n)
  | hasAttribute n kind name => return flag (← g.hasAttribute n kind name)
  | labelValue n name => return value (← g.labelValue? n name)
  | relationTarget n name => return value (← g.relationTarget? n name)
  | isArchived n => return flag (← g.isArchived n)
  | isHidden n => return flag (← g.isHidden n)
  | flatText n => return text (← g.flatText n)
  | ancestors n => return ids (← g.ancestors n)
  | isInAncestor n a => return flag (← g.isInAncestor n a)
  | parentCount n => return count (g.parents n).length
  | childrenCount n => return count (g.children n).length
  | labelCount n => return count (← g.labelCount n)
  | relationCount n => return count (← g.relationCount n)
  | attributeCount n => return count (← g.attributeCount n)

variable {g : Graph}

/-- The answer to a query does not depend on a right memory. -/
theorem gives_answer (q : ViewQuery) : ∃ a, g.Gives (q.answer g) a := by
  cases q with
  | attributes n => exact ⟨_, (g.gives_attributeIds n).bind (.pure _)⟩
  | inheritable n => exact ⟨_, (g.gives_inheritableIds n).bind (.pure _)⟩
  | hasAttribute n kind name =>
    obtain ⟨b, hb⟩ := g.gives_hasAttribute n kind name
    exact ⟨_, hb.bind (.pure _)⟩
  | labelValue n name =>
    obtain ⟨v, hv⟩ := g.gives_valueOf? n .label name
    exact ⟨_, hv.bind (.pure _)⟩
  | relationTarget n name =>
    obtain ⟨v, hv⟩ := g.gives_relationTarget? n name
    exact ⟨_, hv.bind (.pure _)⟩
  | isArchived n =>
    obtain ⟨b, hb⟩ := g.gives_hasAttribute n .label Attribute.archivedName
    exact ⟨_, hb.bind (.pure _)⟩
  | isHidden n => exact ⟨_, (g.gives_isHidden n).bind (.pure _)⟩
  | flatText n => exact ⟨_, (g.gives_flatText n).bind (.pure _)⟩
  | ancestors n => exact ⟨_, (g.gives_ancestors n).bind (.pure _)⟩
  | isInAncestor n a =>
    obtain ⟨b, hb⟩ := g.gives_isInAncestor n a
    exact ⟨_, hb.bind (.pure _)⟩
  | parentCount n => exact ⟨_, .pure _⟩
  | childrenCount n => exact ⟨_, .pure _⟩
  | labelCount n => exact ⟨_, (g.gives_countAttributes n _).bind (.pure _)⟩
  | relationCount n => exact ⟨_, (g.gives_countAttributes n _).bind (.pure _)⟩
  | attributeCount n => exact ⟨_, (g.gives_countAttributes n _).bind (.pure _)⟩

/-- A list of queries is answered one by one, whatever right memory there is to begin with. -/
theorem gives_mapM_answer (qs : List ViewQuery) :
    g.Gives (qs.mapM fun q => q.answer g) (qs.map fun q => (q.answer g ∅).1) := by
  induction qs with
  | nil => exact .pure _
  | cons q qs ih =>
    rw [List.mapM_cons, List.map_cons]
    obtain ⟨a, ha⟩ := gives_answer (g := g) q
    have hq : g.Gives (q.answer g) (q.answer g ∅).1 := by rw [ha.fst_empty]; exact ha
    exact hq.bind (ih.bind (.pure _))

/-- **What is remembered does not show**: of a list of queries, asked one after the other with
nothing remembered at first, each is answered as if it were the only one. -/
theorem answers_eq_map (g : Graph) (qs : List ViewQuery) :
    (qs.mapM (fun q => q.answer g) ∅).1 = qs.map fun q => (q.answer g ∅).1 :=
  (gives_mapM_answer qs).fst_empty

end ViewQuery

end Zettel
