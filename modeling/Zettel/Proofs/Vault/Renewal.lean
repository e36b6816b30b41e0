import Zettel.Proofs.Graph.Path
import Zettel.Proofs.Vault.Edited
import Zettel.Proofs.Vault.Invalidation

/-!
# Rows that are renewed

A notification may bring a new version of a row that a vault was loaded from. The vault then
answers as one that is loaded from the rows with the new version among them. A note row takes the
place of the old one. An attribute or a branch is taken out and put in again, so its row counts as
the last: this shows in which of two labels with one name is found, and in which of two paths.

Main statements: `answersAs_renewed`, and `not_answersAs_inPlace`, it is not the vault that is
loaded with the new row in the place of the old one.
-/

namespace Zettel

/-! ## The same answers -/

/-- Both vaults give the same answers about every note: its attributes in order, with the values
that labels and relations have by their names, and the path that it is shown under. -/
structure Vault.AnswersAs (v w : Vault) : Prop where
  attributeIds : ∀ n, (v.read (·.attributeIds n)).1 = (w.read (·.attributeIds n)).1
  effective : ∀ n, (v.read (·.effective n)).1 = (w.read (·.effective n)).1
  labelValue : ∀ n name, (v.read (·.labelValue? n name)).1 = (w.read (·.labelValue? n name)).1
  relationTarget : ∀ n name,
    (v.read (·.relationTarget? n name)).1 = (w.read (·.relationTarget? n name)).1
  somePath : ∀ n hoisted, v.graph.somePath n hoisted = w.graph.somePath n hoisted

namespace Graph

variable {g g' : Graph}

/-- The value of the first attribute of a kind and name, with nothing remembered. -/
theorem valueOf?_empty (g : Graph) (n : NoteId) (kind : AttributeKind) (name : String) :
    (g.valueOf? n kind name ∅).1 = ((g.effectiveAt n).find? fun a =>
      a.kind = kind && a.name = Text.lowercase name).map Attribute.value :=
  Gives.fst_empty ((gives_effective g n).bind (.pure _))

/-- The target of a relation is its value, if that is the id of a note. -/
theorem relationTarget?_empty (g : Graph) (n : NoteId) (name : String) :
    (g.relationTarget? n name ∅).1 = (g.valueOf? n .relation name ∅).1.filter g.hasNote := rfl

end Graph

namespace Vault

variable {v w : Vault} {s : Snapshot} {row : Row}

/-- Vaults with nothing remembered, and with the same notes, parents and attributes, give the same
answers. -/
theorem answersAs_of_agrees (hv : v.memo = ∅) (hw : w.memo = ∅)
    (h : w.graph.Agrees v.graph Set.univ) : v.AnswersAs w := by
  have hclosed : w.graph.Closed Set.univ := fun _ _ m _ => Set.mem_univ m
  have heffective : ∀ n, v.graph.effectiveAt n = w.graph.effectiveAt n := fun n =>
    Graph.effectiveAt_of_agrees h hclosed (Set.mem_univ n)
  have hvalue : ∀ n kind name,
      (v.graph.valueOf? n kind name ∅).1 = (w.graph.valueOf? n kind name ∅).1 := by
    intro n kind name
    rw [Graph.valueOf?_empty, Graph.valueOf?_empty, heffective]
  have hnotes : v.graph.hasNote = w.graph.hasNote := funext fun n => h.hasNote n (Set.mem_univ n)
  constructor
  · intro n
    show (v.graph.attributeIds n v.memo).1 = (w.graph.attributeIds n w.memo).1
    rw [hv, hw, (v.graph.gives_attributeIds n).fst_empty, (w.graph.gives_attributeIds n).fst_empty,
      Graph.attributesAt_of_agrees h hclosed (Set.mem_univ n)]
  · intro n
    show (v.graph.effective n v.memo).1 = (w.graph.effective n w.memo).1
    rw [hv, hw, (v.graph.gives_effective n).fst_empty, (w.graph.gives_effective n).fst_empty,
      heffective]
  · intro n name
    show (v.graph.valueOf? n .label name v.memo).1 = (w.graph.valueOf? n .label name w.memo).1
    rw [hv, hw, hvalue]
  · intro n name
    show (v.graph.relationTarget? n name v.memo).1 = (w.graph.relationTarget? n name w.memo).1
    rw [hv, hw, Graph.relationTarget?_empty, Graph.relationTarget?_empty, hvalue, hnotes]
  · exact Graph.somePath_of_agrees h

theorem forget_empty (ns : List NoteId) : (∅ : Memo).forget ns = ∅ :=
  List.foldlRecOn ns _ (motive := fun memo => memo = ∅) rfl fun _ h _ _ => by rw [h]; rfl

theorem forgetText_empty (ns : List NoteId) : (∅ : Memo).forgetText ns = ∅ :=
  List.foldlRecOn ns _ (motive := fun memo => memo = ∅) rfl fun _ h _ _ => by rw [h]; rfl

/-- Deleting a branch remembers nothing. -/
theorem memo_deleteBranch (hv : v.memo = ∅) (id : BranchId) : (v.deleteBranch id).memo = ∅ := by
  rw [deleteBranch]
  split
  · exact hv
  · exact (congrArg (Memo.forget · _) hv).trans (forget_empty _)

/-- Nor does deleting an attribute. -/
theorem memo_deleteAttribute (hv : v.memo = ∅) (id : AttributeId) :
    (v.deleteAttribute id).memo = ∅ := by
  rw [deleteAttribute]
  split
  · exact hv
  · rw [afterAttributeChange_eq]
    exact (congrArg (Memo.forget · _) hv).trans (forget_empty _)

/-- A notification makes nothing remembered. -/
theorem memo_apply_update (hv : v.memo = ∅) (hrow : ∀ note, row = .ofNote note →
    v.graph.hasNote note.id = true) : (v.apply row.update).memo = ∅ := by
  cases row with
  | ofNote note =>
    rw [Row.update, apply, upsertNote_of_known (hrow note rfl), hv, forget_empty, forgetText_empty]
  | ofBranch row =>
    rw [Row.update, apply, upsertBranch_eq]
    split_ifs
    · exact memo_deleteBranch hv row.id
    · exact (congrArg (Memo.forget · _) (memo_deleteBranch hv row.id)).trans (forget_empty _)
  | ofAttribute row =>
    rw [Row.update, apply, upsertAttribute_eq]
    dsimp only
    split_ifs
    · exact (congrArg (Memo.forget · _) (memo_deleteAttribute hv row.id)).trans (forget_empty _)
    · exact memo_deleteAttribute hv row.id

end Vault

/-! ## Renewed rows -/

/-- The attribute is a label that may mark notes as archived. -/
def AttributeRow.isArchivedLabel (row : AttributeRow) : Bool :=
  row.kind = .label && Text.lowercase row.name = Attribute.archivedName

/-- What is no archiving label among the rows archives nothing. -/
theorem AttributeRow.archivesSubtree_ofRow {row : AttributeRow} (h : row.isArchivedLabel = false) :
    (Attribute.ofRow row).archivesSubtree = false :=
  Bool.and_eq_false_iff.2 (Or.inl h)

namespace Snapshot

/-- The row is a new version of one of the snapshot. An attribute stands on the same note and has
the same kind and name. A branch is between the same notes and not deleted, as the old version,
which is the first one that places the note there. -/
def Renews (s : Snapshot) : Row → Prop
  | .ofNote row => row.id ∈ s.noteIds
  | .ofBranch row => row.isDeleted = false ∧
      ∃ old, s.IsFirst old ∧ old.isDeleted = false ∧ old.id = row.id ∧ row.sharesPlace old = true
  | .ofAttribute row => ∃ old ∈ s.attributes, old.id = row.id ∧ old.owner = row.owner ∧
      old.kind = row.kind ∧ Text.lowercase old.name = Text.lowercase row.name

/-- The rows with a new version among them. A note stays in its place. An attribute counts as the
last, and if it may mark notes as archived, the branches are in the order in which they were read
before, and without the old version. A branch is behind those between other notes. -/
def renewed (s : Snapshot) : Row → Snapshot
  | .ofNote row => s.withNote row
  | .ofBranch row => s.withBranch row
  | .ofAttribute row =>
    let edited := (s.withoutAttribute row.id).withAttribute row
    { edited with branches := if row.isArchivedLabel then edited.branches else s.branches }

/-- The rows with a new version in the place of the old one. -/
def inPlace (s : Snapshot) : Row → Snapshot
  | .ofNote row => s.withNote row
  | .ofBranch row =>
    { s with branches := s.branches.map fun old => if old.id = row.id then row else old }
  | .ofAttribute row =>
    { s with attributes := s.attributes.map fun old => if old.id = row.id then row else old }

variable {s : Snapshot}

theorem HasDistinctIds.withoutAttribute (hs : s.HasDistinctIds) (id : AttributeId) :
    (s.withoutAttribute id).HasDistinctIds where
  notes := hs.notes
  branches := ((perm_behind _ _).map _).nodup_iff.2 hs.branches
  attributes := hs.attributes.sublist (List.filter_sublist.map _)

theorem HasDistinctIds.withAttribute (hs : s.HasDistinctIds) {row : AttributeRow}
    (hfree : row.id ∉ s.attributes.map AttributeRow.id) : (s.withAttribute row).HasDistinctIds where
  notes := hs.notes
  branches := ((perm_behind _ _).map _).nodup_iff.2 hs.branches
  attributes := by
    have hrows : ((s.withAttribute row).attributes.map AttributeRow.id).Perm
        (row.id :: s.attributes.map AttributeRow.id) :=
      (List.perm_append_singleton _ _).map AttributeRow.id
    rw [hrows.nodup_iff, List.nodup_cons]
    exact ⟨hfree, hs.attributes⟩

theorem not_mem_withoutAttribute (s : Snapshot) (id : AttributeId) :
    id ∉ (s.withoutAttribute id).attributes.map AttributeRow.id := by
  simp [withoutAttribute]

theorem HasDistinctIds.withBranch (hs : s.HasDistinctIds) {old row : BranchRow}
    (hold : old ∈ s.branches) (hid : old.id = row.id) (hshares : row.sharesPlace old = true) :
    (s.withBranch row).HasDistinctIds where
  notes := hs.notes
  branches := by
    let rest := s.branches.filter (·.id ≠ row.id)
    have hothers : s.branches.filter (!row.sharesPlace ·) = rest.filter (!row.sharesPlace ·) := by
      rw [List.filter_filter]
      refine List.filter_congr fun b hb => ?_
      rw [Bool.eq_iff_iff, Bool.and_eq_true, decide_eq_true_iff]
      refine (and_iff_left_of_imp fun hnot hb' => ?_).symm
      -- the only row with this id is between the same notes
      rw [List.inj_on_of_nodup_map hs.branches hb hold (hb'.trans hid.symm), hshares] at hnot
      exact Bool.false_ne_true hnot
    have hsame : (s.branches.filter fun b => row.sharesPlace b && b.id ≠ row.id) =
        rest.filter row.sharesPlace := by
      rw [List.filter_filter]
    have hrows : (s.withBranch row).branches.Perm (row :: rest) := by
      rw [branches_withBranch, hothers, hsame]
      exact List.perm_middle.trans ((perm_behind _ rest).cons row)
    rw [(hrows.map _).nodup_iff, List.map_cons, List.nodup_cons]
    exact ⟨by simp [rest], hs.branches.sublist (List.filter_sublist.map _)⟩
  attributes := hs.attributes

/-- A new version of an attribute that archives nothing leaves everything archived that was. -/
theorem archives_of_plain (hs : s.HasDistinctIds) {old row : AttributeRow}
    (hold : old ∈ s.attributes) (hid : old.id = row.id) (hplain : old.isArchivedLabel = false)
    (hplain' : row.isArchivedLabel = false) :
    (s.withoutAttribute row.id).archives = s.archives ∧
      ((s.withoutAttribute row.id).withAttribute row).archives = s.archives := by
  have hwithout : (s.withoutAttribute row.id).archives = s.archives := by
    funext n
    rw [← hid]
    refine archives_withoutAttribute hs.attributes hold ?_
    rw [AttributeRow.archivesSubtree_ofRow hplain, Bool.false_and]
  refine ⟨hwithout, .trans (funext fun n => ?_) hwithout⟩
  refine archives_withAttribute ?_
  rw [AttributeRow.archivesSubtree_ofRow hplain', Bool.false_and]

/-- A snapshot with a renewed row still has distinct ids. -/
theorem HasDistinctIds.renewed (hs : s.HasDistinctIds) {row : Row} (h : s.Renews row) :
    (s.renewed row).HasDistinctIds := by
  cases row with
  | ofNote row =>
    exact ⟨(congrArg List.Nodup (s.noteIds_withNote row)).mpr hs.notes, hs.branches, hs.attributes⟩
  | ofBranch row =>
    obtain ⟨-, old, hfirst, -, hid, hshares⟩ := h
    exact hs.withBranch hfirst.mem hid hshares
  | ofAttribute row =>
    have hedited := (hs.withoutAttribute row.id).withAttribute
      (s.not_mem_withoutAttribute row.id)
    refine ⟨hs.notes, ?_, hedited.attributes⟩
    rw [Snapshot.renewed]
    dsimp only
    split_ifs
    · exact hedited.branches
    · exact hs.branches

end Snapshot

namespace Vault

variable {s : Snapshot} {row : Row}

/-- An attribute is taken out anyway when a row with its id comes. -/
theorem upsertAttribute_deleteAttribute {v : Vault} (hv : v.graph.Keyed) (row : AttributeRow) :
    ((v.deleteAttribute row.id).upsertAttribute row).graph = (v.upsertAttribute row).graph := by
  have hnone : (v.deleteAttribute row.id).graph.attributes.get? row.id = none := by
    rw [get?_attributes_deleteAttribute hv, if_pos rfl]
  rw [upsertAttribute_eq, upsertAttribute_eq, deleteAttribute_of_none hnone]
  dsimp only
  split_ifs <;> rfl

/-- **A vault that has been notified of a new version reads from the rows with it among them.** -/
theorem readsFrom_apply_update (hs : s.HasDistinctIds) (h : s.Renews row) :
    ((ofSnapshot s).apply row.update).graph.ReadsFrom (s.renewed row) := by
  have hreads := readsFrom_ofSnapshot hs
  have hconsistent := (Reachable.ofSnapshot hs).consistent
  cases row with
  | ofNote row =>
    rw [Row.update, apply, upsertNote_of_known (hasNote_ofSnapshot.2 h)]
    exact hreads.renewNote h
  | ofBranch row =>
    obtain ⟨hrow, old, hfirst, hlive, hid, hshares⟩ := h
    exact readsFrom_upsertBranch hs hfirst hlive hid hshares hrow
  | ofAttribute row =>
    obtain ⟨old, hold, hid, -, hkind, hname⟩ := h
    have hdeleted := readsFrom_deleteAttribute hreads hconsistent hs.attributes hold
    rw [hid] at hdeleted
    have hedited : ((ofSnapshot s).upsertAttribute row).graph.ReadsFrom
        ((s.withoutAttribute row.id).withAttribute row) := by
      rw [← upsertAttribute_deleteAttribute hconsistent.keyed]
      exact readsFrom_upsertAttribute hdeleted (consistent_deleteAttribute hconsistent row.id)
        (s.not_mem_withoutAttribute row.id)
    rw [Row.update, apply, Snapshot.renewed]
    split_ifs with harchived
    · exact hedited
    · rw [Bool.not_eq_true] at harchived
      have hplain : old.isArchivedLabel = false := by
        rwa [AttributeRow.isArchivedLabel, hkind, hname]
      obtain ⟨hwithout, hwith⟩ := Snapshot.archives_of_plain hs hold hid hplain harchived
      -- the parents are read in the same order throughout
      refine ⟨hedited.hasNote, fun n => ?_, hedited.owned, hedited.stored⟩
      rw [hedited.parents, Snapshot.parentsOf_withAttribute, Snapshot.parentsOf_withoutAttribute,
        hwith, hwithout, behind_behind, behind_behind, ← hwith]
      rfl

/-- **A vault that has been notified of a new version of a row answers as one that is loaded from
the rows with it among them.** -/
theorem answersAs_renewed (hs : s.HasDistinctIds) (h : s.Renews row) :
    ((ofSnapshot s).apply row.update).AnswersAs (ofSnapshot (s.renewed row)) := by
  refine answersAs_of_agrees (memo_apply_update rfl ?_) rfl ?_
  · rintro note rfl
    exact hasNote_ofSnapshot.2 h
  · exact (readsFrom_ofSnapshot (hs.renewed h)).agrees (readsFrom_apply_update hs h)

/-! ## Two orders -/

/-- The note `n` has two labels with one name, and stands under `p` and `q`. The note `m` stands
under `q` as well, and before that under `r`, which marks it as archived. -/
def crossedSnapshot : Snapshot :=
  { notes := [{ id := "root", title := "root" }, { id := "p", title := "p" },
      { id := "q", title := "q" }, { id := "r", title := "r" }, { id := "n", title := "n" },
      { id := "m", title := "m" }]
    branches := [{ id := "np", child := "n", parent := "p" },
      { id := "nq", child := "n", parent := "q" }, { id := "mr", child := "m", parent := "r" },
      { id := "mq", child := "m", parent := "q" }, { id := "p", child := "p", parent := "root" },
      { id := "q", child := "q", parent := "root" }, { id := "r", child := "r", parent := "root" }]
    attributes := [.label "x1" "n" "x" "1", .label "x2" "n" "x" "2",
      { id := "l", owner := "r", kind := .label, name := "archived", isInheritable := true }] }

/-- A new version of the note `n`. -/
def laterNote : Row := .ofNote { id := "n", title := "new" }

/-- A new version of the branch that puts `n` under `p`. -/
def laterBranch : Row := .ofBranch { id := "np", child := "n", parent := "p", lead := some "see" }

/-- The first of the two labels of `n`, as it was. -/
def sameLabel : Row := .ofAttribute (.label "x1" "n" "x" "1")

/-- The label of `r`, which does not archive the notes below any more. -/
def laterMark : Row := .ofAttribute (.label "l" "r" "archived" "")

theorem hasDistinctIds_crossedSnapshot : crossedSnapshot.HasDistinctIds :=
  ⟨by decide, by decide, by decide⟩

theorem renews_laterBranch : crossedSnapshot.Renews laterBranch :=
  ⟨rfl, { id := "np", child := "n", parent := "p" },
    ⟨[], crossedSnapshot.branches.tail, rfl, by simp⟩, rfl, rfl, rfl⟩

theorem renews_sameLabel : crossedSnapshot.Renews sameLabel :=
  ⟨.label "x1" "n" "x" "1", by decide, rfl, rfl, rfl, rfl⟩

theorem renews_laterMark : crossedSnapshot.Renews laterMark :=
  ⟨{ id := "l", owner := "r", kind := .label, name := "archived", isInheritable := true },
    by decide, rfl, rfl, rfl, rfl⟩

theorem answersAs_renewed_crossedSnapshot :
    ((ofSnapshot crossedSnapshot).apply laterNote.update).AnswersAs
      (ofSnapshot (crossedSnapshot.renewed laterNote)) ∧
    ((ofSnapshot crossedSnapshot).apply laterBranch.update).AnswersAs
      (ofSnapshot (crossedSnapshot.renewed laterBranch)) ∧
    ((ofSnapshot crossedSnapshot).apply sameLabel.update).AnswersAs
      (ofSnapshot (crossedSnapshot.renewed sameLabel)) ∧
    ((ofSnapshot crossedSnapshot).apply laterMark.update).AnswersAs
      (ofSnapshot (crossedSnapshot.renewed laterMark)) := by
  have hs := hasDistinctIds_crossedSnapshot
  have hnote : crossedSnapshot.Renews laterNote := show "n" ∈ crossedSnapshot.noteIds by decide
  exact ⟨answersAs_renewed hs hnote, answersAs_renewed hs renews_laterBranch,
    answersAs_renewed hs renews_sameLabel, answersAs_renewed hs renews_laterMark⟩

/-- **A vault that has been notified of a new version of a row does not answer as one that is loaded
with it in the place of the old one.** The other label of `n` is found first, `n` is shown under
`q`, and `m` is not shown under `r` though this note comes first again. -/
theorem not_answersAs_inPlace :
    (crossedSnapshot.HasDistinctIds ∧ crossedSnapshot.Renews sameLabel ∧
      crossedSnapshot.Renews laterBranch ∧ crossedSnapshot.Renews laterMark) ∧
    ¬((ofSnapshot crossedSnapshot).apply sameLabel.update).AnswersAs
      (ofSnapshot (crossedSnapshot.inPlace sameLabel)) ∧
    ¬((ofSnapshot crossedSnapshot).apply laterBranch.update).AnswersAs
      (ofSnapshot (crossedSnapshot.inPlace laterBranch)) ∧
    ¬((ofSnapshot crossedSnapshot).apply laterMark.update).AnswersAs
      (ofSnapshot (crossedSnapshot.inPlace laterMark)) := by
  refine ⟨⟨hasDistinctIds_crossedSnapshot, renews_sameLabel, renews_laterBranch,
    renews_laterMark⟩, fun h => ?_, fun h => ?_, fun h => ?_⟩
  · exact absurd (h.labelValue "n" "x") (by decide +kernel)
  · exact absurd (h.somePath "n" rootId) (by decide +kernel)
  · exact absurd (h.somePath "m" rootId) (by decide +kernel)

end Vault

end Zettel
