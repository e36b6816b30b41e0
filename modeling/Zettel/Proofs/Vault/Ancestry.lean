import Zettel.Proofs.Graph.Climb
import Zettel.Proofs.Vault.Fresh
import Zettel.Proofs.Vault.Reachable

/-!
# Remembered ancestors

Every change of a branch forgets the ancestors of the notes below it, so the ancestors that are
remembered of a note are those that parents lead to now. They may be remembered in another order
than that of a climb, since a label can put the parents of a note in another order without any
ancestors being forgotten.

Main statement: `Reachable.mem_subtree_iff_isInAncestor`, the walk down from a note visits exactly
those notes of which it is told to be an ancestor.
-/

namespace Zettel

/-! ## Readings -/

/-- The reading keeps what the memory satisfies. -/
def Keeps (I : Memo → Prop) {α : Type} (r : Reading α) : Prop := ∀ memo, I memo → I (r memo).2

section Keeps

variable {I : Memo → Prop} {α β : Type} {r : Reading α} {f : α → Reading β}

theorem Keeps.pure (a : α) : Keeps I (Pure.pure a : Reading α) := fun _ h => h

/-- Two readings, one after the other, keep what each of them keeps. -/
theorem Keeps.bind (hr : Keeps I r) (hf : ∀ a, Keeps I (f a)) : Keeps I (r >>= f) :=
  fun memo h => hf (r memo).1 (r memo).2 (hr memo h)

end Keeps

namespace Graph

variable {g g' : Graph} {memo memo' : Memo} {n m : NoteId}

/-- The ancestors that are remembered of an existing note are, with the note itself, what parents
lead to. -/
def Recalls (g : Graph) (memo : Memo) : Prop := ∀ n ns, g.hasNote n = true →
  (memo.of n).ancestors = some ns → ∀ a, a = n ∨ a ∈ ns ↔ g.Climbs anyNote n a

/-- Nothing is recalled wrongly if nothing is remembered. -/
theorem Recalls.empty (g : Graph) : g.Recalls ∅ := fun _ _ _ hns => absurd hns (by simp)

/-- Attributes and flat texts can be remembered without regard to ancestors. -/
theorem Recalls.remember (h : g.Recalls memo) (n : NoteId) {f : NoteMemo → NoteMemo}
    (hf : ∀ c, (f c).ancestors = c.ancestors) : g.Recalls (memo.remember n f) := by
  intro m ns hm hns
  rw [Memo.of_remember] at hns
  split_ifs at hns with hmn
  · rw [hf] at hns
    exact h m ns hm (hmn ▸ hns)
  · exact h m ns hm hns

/-- Collecting from several sources recalls the ancestors, if collecting from each does. -/
theorem recalls_addAll {collect : NoteId → Memo → Collected × Memo}
    (h : ∀ n memo, g.Recalls memo → g.Recalls (collect n memo).2)
    (pick : Attributes → List AttributeId) (sources : List NoteId) {s : Gathering}
    (hs : g.Recalls s.memo) : g.Recalls (s.addAll g collect pick sources).memo :=
  List.foldlRecOn sources _ (motive := fun s : Gathering => g.Recalls s.memo) hs
    fun s hs n _ => h n s.memo hs

theorem recalls_collect : ∀ (d : Nat) (path : List NoteId) (n : NoteId) (memo : Memo),
    g.Recalls memo → g.Recalls (g.collect d path n memo).2 := by
  intro d
  induction d with
  | zero => exact fun _ _ _ h => h
  | succ d ih =>
    intro path n memo h
    cases hn : g.hasNote n with
    | false => rwa [collect_of_not_hasNote hn]
    | true =>
      by_cases hp : n ∈ path
      · rwa [collect_of_mem hn hp]
      · cases hknown : (memo.of n).attributes with
        | some a => rwa [collect_of_known hn hp hknown]
        | none =>
          rw [collect_of_not_mem hn hp hknown]
          have hparents := recalls_addAll (ih (n :: path)) Attributes.inheritable (g.inheritsFrom n)
            (s := ⟨addNew [] (g.owned n), true, memo⟩) h
          have htemplates := recalls_addAll (ih (n :: path)) Attributes.all
            (g.templateTargets (Gathering.addAll ⟨addNew [] (g.owned n), true, memo⟩ g
              (g.collect d (n :: path)) Attributes.inheritable (g.inheritsFrom n)).ids) hparents
          dsimp only
          split_ifs
          · exact htemplates.remember n fun _ => rfl
          · exact htemplates

section Views

variable (g n)

/-- Collecting attributes does not touch the ancestors that are remembered. -/
theorem keeps_attributesOf : Keeps g.Recalls (g.attributesOf n) :=
  recalls_collect (g.noteCount + 1) [] n

theorem keeps_effective : Keeps g.Recalls (g.effective n) :=
  ((keeps_attributesOf g n).bind fun _ => .pure _).bind fun _ => .pure _

theorem keeps_valueOf? (kind : AttributeKind) (name : String) :
    Keeps g.Recalls (g.valueOf? n kind name) :=
  (keeps_effective g n).bind fun _ => .pure _

theorem keeps_hasAttribute (kind : AttributeKind) (name : String) :
    Keeps g.Recalls (g.hasAttribute n kind name) :=
  (keeps_valueOf? g n kind name).bind fun _ => .pure _

theorem keeps_isHidden : Keeps g.Recalls (g.isHidden n) :=
  (keeps_effective g n).bind fun _ => .pure _

theorem keeps_countAttributes (p : Attribute → Bool) : Keeps g.Recalls (g.countAttributes n p) :=
  (keeps_effective g n).bind fun _ => .pure _

theorem keeps_buildText (note : Note) : Keeps g.Recalls (g.buildText n note) := by
  refine (keeps_isHidden g n).bind fun hidden => ?_
  cases hidden with
  | true => exact .pure _
  | false => exact (keeps_effective g n).bind fun _ => .pure _

theorem keeps_flatText : Keeps g.Recalls (g.flatText n) := by
  cases hnote : g.notes.get? n with
  | none =>
    rw [flatText, hnote]
    exact .pure _
  | some note =>
    intro memo h
    rw [flatText_of_note hnote]
    cases (memo.of n).flatText with
    | some text => exact h
    | none => exact (keeps_buildText g n note memo h).remember n fun _ => rfl

end Views

/-! ## Asking for ancestors -/

/-- What is read as ancestors, with the note itself, is what parents lead to, remembered or not. -/
theorem Recalls.mem_ancestors_iff (h : g.Recalls memo) (hg : g.ParentsKnown)
    (hn : g.hasNote n = true) {a : NoteId} :
    a = n ∨ a ∈ (g.ancestors n memo).1 ↔ g.Climbs anyNote n a := by
  rw [ancestors_of_known hn]
  cases hknown : (memo.of n).ancestors with
  | some ns => exact h n ns hn hknown a
  | none => exact mem_ancestorsAt_iff hg hn

theorem keeps_ancestors (hg : g.ParentsKnown) (n : NoteId) :
    Keeps g.Recalls (g.ancestors n) := by
  intro memo h
  by_cases hn : g.hasNote n = true
  · rw [ancestors_of_known hn]
    cases hknown : (memo.of n).ancestors with
    | some ns => exact h
    | none =>
      intro m ns hm hns
      dsimp only at hns
      rw [Memo.of_remember] at hns
      split_ifs at hns with hmn
      · subst hmn
        obtain rfl := Option.some.inj hns
        exact fun a => mem_ancestorsAt_iff hg hn
      · exact h m ns hm hns
  · rwa [ancestors, if_neg hn]

/-- Asking for an ancestor remembers the ancestors as they are. -/
theorem keeps_isInAncestor (hg : g.ParentsKnown) (n a : NoteId) :
    Keeps g.Recalls (g.isInAncestor n a) := by
  rw [isInAncestor]
  split_ifs
  · exact .pure _
  · exact (keeps_ancestors hg n).bind fun _ => .pure _

/-- **No query disturbs the ancestors that are remembered.** -/
theorem keeps_answer (hg : g.ParentsKnown) (q : ViewQuery) : Keeps g.Recalls (q.answer g) := by
  cases q with
  | attributes n =>
    exact ((keeps_attributesOf g n).bind fun _ => .pure _).bind fun _ => .pure _
  | inheritable n =>
    exact ((keeps_attributesOf g n).bind fun _ => .pure _).bind fun _ => .pure _
  | hasAttribute n kind name => exact (keeps_hasAttribute g n kind name).bind fun _ => .pure _
  | labelValue n name => exact (keeps_valueOf? g n .label name).bind fun _ => .pure _
  | relationTarget n name =>
    exact ((keeps_valueOf? g n .relation name).bind fun _ => .pure _).bind fun _ => .pure _
  | isArchived n => exact (keeps_hasAttribute g n _ _).bind fun _ => .pure _
  | isHidden n => exact (keeps_isHidden g n).bind fun _ => .pure _
  | flatText n => exact (keeps_flatText g n).bind fun _ => .pure _
  | ancestors n => exact (keeps_ancestors hg n).bind fun _ => .pure _
  | isInAncestor n a => exact (keeps_isInAncestor hg n a).bind fun _ => .pure _
  | parentCount n => exact .pure _
  | childrenCount n => exact .pure _
  | labelCount n => exact (keeps_countAttributes g n _).bind fun _ => .pure _
  | relationCount n => exact (keeps_countAttributes g n _).bind fun _ => .pure _
  | attributeCount n => exact (keeps_countAttributes g n _).bind fun _ => .pure _

/-! ## Changes -/

/-- Within notes that no parent leads out of, parents that are the same lead to the same notes. -/
theorem climbs_congr {S : Set NoteId} (hS : ∀ n ∈ S, ∀ p ∈ g.parents n, p ∈ S)
    (hparents : ∀ n ∈ S, ∀ p, p ∈ g'.parents n ↔ p ∈ g.parents n) (hn : n ∈ S) :
    g'.Climbs anyNote n m ↔ g.Climbs anyNote n m := by
  rw [climbs_iff, climbs_iff]
  constructor
  · intro h
    have hboth : m ∈ S ∧ Relation.ReflTransGen (fun c p => p ∈ g.parents c) n m := by
      induction h with
      | refl => exact ⟨hn, .refl⟩
      | @tail c p _ hp ih =>
        have hp' := (hparents c ih.1 p).1 hp
        exact ⟨hS c ih.1 p hp', ih.2.tail hp'⟩
    exact hboth.2
  · intro h
    have hboth : m ∈ S ∧ Relation.ReflTransGen (fun c p => p ∈ g'.parents c) n m := by
      induction h with
      | refl => exact ⟨hn, .refl⟩
      | @tail c p _ hp ih => exact ⟨hS c ih.1 p hp, ih.2.tail ((hparents c ih.1 p).2 hp)⟩
    exact hboth.2

/-- A change may forget ancestors, and must forget those of the notes from which parents lead
elsewhere. -/
theorem Recalls.of_climbs (h : g.Recalls memo) (hmemo : memo'.Within memo)
    (hkept : ∀ n, g'.hasNote n = true → memo'.of n = {} ∨
      g.hasNote n = true ∧ ∀ a, g'.Climbs anyNote n a ↔ g.Climbs anyNote n a) :
    g'.Recalls memo' := by
  intro n ns hn hns a
  rcases hkept n hn with hnothing | ⟨hn', hclimbs⟩
  · rw [hnothing] at hns
    exact absurd hns (by simp)
  · rw [hclimbs]
    exact h n ns hn' (hmemo.ancestors n ns hns) a

/-- Where the sets of parents are the same, nothing need be forgotten. -/
theorem Recalls.of_perm (h : g.Recalls memo) (hmemo : memo'.Within memo)
    (hnote : ∀ n, g'.hasNote n = true → g.hasNote n = true)
    (hparents : ∀ n, (g'.parents n).Perm (g.parents n)) : g'.Recalls memo' := by
  refine h.of_climbs hmemo fun n hn => Or.inr ⟨hnote n hn, fun a => ?_⟩
  exact climbs_congr (S := Set.univ) (fun _ _ _ _ => Set.mem_univ _)
    (fun n _ p => (hparents n).mem_iff) (Set.mem_univ n)

end Graph

namespace Vault

variable {v : Vault}

/-- The ancestors that are remembered are what parents lead to. -/
def RecallsAncestors (v : Vault) : Prop := v.graph.Recalls v.memo

/-- **The criterion**: a change may forget the notes that are reached from one note, if it leaves
the others alone. -/
theorem RecallsAncestors.of_apartFrom (h : v.RecallsAncestors) {g g' : Graph} (hg : g.Consistent)
    {memo : Memo} (hmemo : memo.Within v.memo) {n : NoteId}
    (hagrees : v.graph.Agrees g (g.apartFrom n)) (hagrees' : g.Agrees g' (g.apartFrom n)) :
    RecallsAncestors ⟨g', memo.forget (g.subtreeWithUsers n)⟩ := by
  have hclosed := hg.toLinked.closed_parents (hg.closed_compl_subtreeWithUsers n)
  refine Graph.Recalls.of_climbs h ((Memo.within_forget _ _).trans hmemo) fun m hm => ?_
  by_cases hreached : m ∈ g.subtreeWithUsers n
  · left
    rw [Memo.of_forget, if_pos hreached]
  · have hm' : g.hasNote m = true := by rwa [← hagrees'.hasNote m hreached]
    refine Or.inr ⟨by rwa [← hagrees.hasNote m hreached], fun a => ?_⟩
    have hbefore : v.graph.Climbs Graph.anyNote m a ↔ g.Climbs Graph.anyNote m a :=
      Graph.climbs_congr hclosed (fun n hn p => by rw [hagrees.parents n hn]) hreached
    rw [hbefore]
    exact Graph.climbs_congr hclosed (fun n hn p => by rw [hagrees'.parents n hn]) hreached

/-- A branch that goes takes along what it led to: all notes below forget their ancestors. -/
theorem RecallsAncestors.deleteBranch (h : v.RecallsAncestors) (hv : v.graph.Consistent)
    (id : BranchId) : (v.deleteBranch id).RecallsAncestors := by
  rcases deleteBranch_cases hv.keyed id with ⟨-, heq⟩ | ⟨b, -, -, heq⟩
  · rwa [heq]
  · rw [heq]
    exact h.of_apartFrom hv (.refl _) (.refl _ _) (Graph.agrees_eraseBranch _ b)

theorem RecallsAncestors.upsertBranch (h : v.RecallsAncestors) (hv : v.graph.Consistent)
    (row : BranchRow) : (v.upsertBranch row).RecallsAncestors := by
  have hdeleted := h.deleteBranch hv row.id
  have hplaced := Graph.isKept_consistent.upsertBranch hv row hv
  rw [upsertBranch_eq] at hplaced ⊢
  split_ifs at hplaced ⊢
  · exact hdeleted
  · exact hdeleted.of_apartFrom hplaced (.refl _) (Graph.agrees_placeBranch _ row) (.refl _ _)

/-- Ancestors do not depend on attributes. -/
theorem RecallsAncestors.deleteAttribute (h : v.RecallsAncestors) (hv : v.graph.Keyed)
    (id : AttributeId) : (v.deleteAttribute id).RecallsAncestors := by
  rcases deleteAttribute_cases hv id with ⟨-, heq⟩ | ⟨old, -, -, heq⟩
  · rwa [heq]
  · rw [heq]
    refine Graph.Recalls.of_perm h (Memo.within_forget _ _) (by simp) fun n => ?_
    simpa using Graph.parents_resortBelow_perm (v.graph.removeAttribute old) old n

theorem RecallsAncestors.upsertAttribute (h : v.RecallsAncestors) (hv : v.graph.Keyed)
    (row : AttributeRow) : (v.upsertAttribute row).RecallsAncestors := by
  have hdeleted := h.deleteAttribute hv row.id
  rw [upsertAttribute_eq]
  dsimp only
  split_ifs
  · refine Graph.Recalls.of_perm hdeleted (Memo.within_forget _ _) (by simp) fun n => ?_
    simpa using Graph.parents_resortBelow_perm
      ((v.deleteAttribute row.id).graph.attach (.ofRow row)) (.ofRow row) n
  · exact hdeleted

theorem RecallsAncestors.upsertNote (h : v.RecallsAncestors) (hv : v.graph.Consistent)
    (row : NoteRow) : (v.upsertNote row).RecallsAncestors := by
  by_cases hn : v.graph.hasNote row.id = true
  · rw [upsertNote_of_known hn]
    refine Graph.Recalls.of_perm h ?_ ?_ (by simp [Graph.parents])
    · exact (Memo.within_forgetText _ _).trans (Memo.within_forget _ _)
    · simp [Graph.hasNote_renewNote hn]
  · obtain ⟨memo, hmemo, heq⟩ := upsertNote_of_new hn
    rw [heq]
    exact h.of_apartFrom (hv.arrive hn) hmemo (hv.agrees_arrive hn) (.refl _ _)

/-- A note leaves after its branches, so it is no one's parent by then. -/
theorem RecallsAncestors.deleteNote (h : v.RecallsAncestors) (hv : v.graph.Consistent)
    (n : NoteId) : (v.deleteNote n).RecallsAncestors := by
  by_cases hn : v.graph.hasNote n = true
  · have hstripped : (v.strip n).graph.Consistent ∧ (v.strip n).RecallsAncestors := by
      refine strip_induction (P := fun w => w.graph.Consistent ∧ w.RecallsAncestors) ?_ ?_ ⟨hv, h⟩ n
      · exact fun w id hw =>
          ⟨consistent_deleteAttribute hw.1 id, hw.2.deleteAttribute hw.1.keyed id⟩
      · exact fun w id hw => ⟨consistent_deleteBranch hw.1 id, hw.2.deleteBranch hw.1 id⟩
    obtain ⟨hg, hbranches, -⟩ := strip_cases hv n
    have hparents := fun m => (hg.toLinked.edges_eraseNote hbranches m).1
    rw [deleteNote_of_known hn, RecallsAncestors, graph_foldl_forgetSubtree]
    refine Graph.Recalls.of_perm hstripped.2 ?_ ?_ fun m => by rw [hparents]
    · exact (within_foldl_forgetSubtree _ _).trans (Memo.within_forget _ _)
    · intro m hm
      rw [Graph.hasNote_eraseNote, Bool.and_eq_true] at hm
      exact hm.2
  · rwa [Vault.deleteNote, if_neg hn]

theorem RecallsAncestors.apply (h : v.RecallsAncestors) (hv : v.graph.Consistent) (u : Update) :
    (v.apply u).RecallsAncestors := by
  cases u with
  | upsertNote row => exact h.upsertNote hv row
  | deleteNote n => exact h.deleteNote hv n
  | upsertBranch row => exact h.upsertBranch hv row
  | deleteBranch id => exact h.deleteBranch hv id
  | upsertAttribute row => exact h.upsertAttribute hv.keyed row
  | deleteAttribute id => exact h.deleteAttribute hv.keyed id

/-- **In a reachable vault the ancestors that are remembered are what parents lead to.** -/
theorem Reachable.recallsAncestors (h : v.Reachable) : v.RecallsAncestors := by
  induction h with
  | empty => exact .empty _
  | ofSnapshot _ => exact .empty _
  | apply h u ih => exact ih.apply h.consistent u
  | @ask v h q ih => exact Graph.keeps_answer h.consistent.parentsKnown q v.memo ih

/-- The note `m` is told to be the note `n` or one of its ancestors, if parents lead to it. -/
theorem RecallsAncestors.isInAncestor_iff (h : v.RecallsAncestors) (hg : v.graph.ParentsKnown)
    {n m : NoteId} (hn : v.graph.hasNote n = true) :
    (v.read (·.isInAncestor n m)).1 = true ↔ v.graph.Climbs Graph.anyNote n m := by
  rw [← Graph.Recalls.mem_ancestors_iff h hg hn]
  show (v.graph.isInAncestor n m v.memo).1 = true ↔ _
  rw [Graph.isInAncestor]
  split_ifs with hnm
  · exact iff_of_true rfl (Or.inl hnm.symm)
  · show (v.graph.ancestors n v.memo).1.contains m = true ↔ _
    rw [List.contains_iff_mem]
    exact (or_iff_right (Ne.symm hnm)).symm

/-- **The walk down visits the notes of which its first note is told to be an ancestor**, whatever
cycles and clones there are and whatever is remembered. -/
theorem Reachable.mem_subtree_iff_isInAncestor (h : v.Reachable) {n m : NoteId}
    (hn : v.graph.hasNote n = true) :
    n ∈ v.graph.subtree m ↔ (v.read (·.isInAncestor n m)).1 = true := by
  rw [h.recallsAncestors.isInAncestor_iff h.consistent.parentsKnown hn,
    h.consistent.toLinked.mem_subtree_iff]
  exact and_iff_right hn

/-- A note that is placed under two notes, one of which is placed under it. -/
def circularSnapshot : Snapshot where
  notes := [{ id := "root", title := "Root" }, { id := "a", title := "A" },
    { id := "b", title := "B" }]
  branches := [{ id := "a0", child := "a", parent := "root" },
    { id := "ab", child := "a", parent := "b" }, { id := "ba", child := "b", parent := "a" }]

/-- The ancestors of both notes are remembered when the branch from the root note goes, and again
when a note comes that a branch waits for. -/
def circularVault : Vault :=
  (((((((ofSnapshot circularSnapshot).ask (.ancestors "a")).ask (.isInAncestor "b" "root")).apply
    (.deleteBranch "a0")).ask (.isInAncestor "b" "root")).apply
    (.upsertBranch { id := "bc", child := "b", parent := "c" })).ask (.ancestors "a")).apply
    (.upsertNote { id := "c", title := "C" })

theorem mem_subtree_iff_isInAncestor_circularVault : circularVault.Reachable ∧
    circularVault.graph.hasNote "a" = true ∧
    ("a" ∈ circularVault.graph.subtree "c" ↔
      (circularVault.read (·.isInAncestor "a" "c")).1 = true) := by
  have hdistinct : circularSnapshot.HasDistinctIds := by constructor <;> decide
  have hloaded := Reachable.ofSnapshot hdistinct
  have hreachable : circularVault.Reachable :=
    .apply (.ask (.apply (.ask (.apply (.ask (.ask hloaded _) _) _) _) _) _) _
  have hn : circularVault.graph.hasNote "a" = true := by decide +kernel
  exact ⟨hreachable, hn, hreachable.mem_subtree_iff_isInAncestor hn⟩

example : circularVault.graph.subtree "c" = ["c", "b", "a"] ∧
    (circularVault.read (·.isInAncestor "a" "root")).1 = false := by
  decide +kernel

end Vault

end Zettel
