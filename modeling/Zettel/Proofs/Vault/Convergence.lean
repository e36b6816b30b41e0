import Mathlib.Data.List.Induction
import Zettel.Proofs.Vault.Content

/-!
# Convergence

A vault learns of rows from a snapshot or from one notification for each row. A notification may
come before those of the notes that its row mentions: a branch waits for both its ends, and a
relation for its target. Only an attribute whose owner is not there yet is dropped.

Main statement: `sameContent_foldl_apply`, in whatever order the notifications come, the vault reads
as the one that is loaded from a snapshot of the rows.
-/

namespace Zettel

/-! ## Rows -/

/-- A row of any kind. -/
inductive Row
  | ofNote (row : NoteRow)
  | ofBranch (row : BranchRow)
  | ofAttribute (row : AttributeRow)
  deriving DecidableEq, Repr

namespace Row

/-- What tells rows apart: their kind and their id. -/
inductive Key
  | note (id : NoteId)
  | branch (id : BranchId)
  | attribute (id : AttributeId)
  deriving DecidableEq, Repr

/-- The kind and the id of the row. -/
def key : Row → Key
  | .ofNote row => .note row.id
  | .ofBranch row => .branch row.id
  | .ofAttribute row => .attribute row.id

/-- The notification that announces the row. -/
def update : Row → Update
  | .ofNote row => .upsertNote row
  | .ofBranch row => .upsertBranch row
  | .ofAttribute row => .upsertAttribute row

/-- The other row is the note that the attribute of this row stands on. -/
def awaits : Row → Row → Bool
  | .ofAttribute row, .ofNote note => row.owner = note.id
  | _, _ => false

/-- The note that the row puts under an id. -/
def note? : Row → NoteId → Option Note
  | .ofNote row, n => if n = row.id then some (Note.ofRow row {}) else none
  | _, _ => none

/-- The branch that the row puts under an id. -/
def branch? : Row → BranchId → Option Branch
  | .ofBranch row, id =>
    if id = row.id ∧ row.isDeleted = false then some (Branch.ofRow row) else none
  | _, _ => none

/-- The attribute that the row puts under an id. -/
def attribute? : Row → AttributeId → Option Attribute
  | .ofAttribute row, id => if id = row.id then some (Attribute.ofRow row) else none
  | _, _ => none

variable {row row' : Row} {rows : List Row} {n : NoteId}

theorem key_of_note? {note : Note} (h : row.note? n = some note) : row.key = .note n := by
  cases row with
  | ofNote row => simp_all [note?, key]
  | ofBranch => simp [note?] at h
  | ofAttribute => simp [note?] at h

theorem key_of_branch? {id : BranchId} {b : Branch} (h : row.branch? id = some b) :
    row.key = .branch id := by
  cases row with
  | ofBranch row => simp_all [branch?, key]
  | ofNote => simp [branch?] at h
  | ofAttribute => simp [branch?] at h

theorem key_of_attribute? {id : AttributeId} {a : Attribute} (h : row.attribute? id = some a) :
    row.key = .attribute id := by
  cases row with
  | ofAttribute row => simp_all [attribute?, key]
  | ofNote => simp [attribute?] at h
  | ofBranch => simp [attribute?] at h

/-- A row that is not awaited is not the owner of the attribute. -/
theorem note?_owner {id : AttributeId} {a : Attribute} (hawaits : row.awaits row' = false)
    (ha : row.attribute? id = some a) : row'.note? a.owner = none := by
  cases row with
  | ofNote => simp [attribute?] at ha
  | ofBranch => simp [attribute?] at ha
  | ofAttribute row =>
    rw [attribute?, Option.ite_none_right_eq_some] at ha
    obtain ⟨-, ha⟩ := ha
    obtain rfl := Option.some.inj ha
    cases row' with
    | ofNote note =>
      have hne : row.owner ≠ note.id := by simpa [awaits] using hawaits
      exact if_neg hne
    | ofBranch => rfl
    | ofAttribute => rfl

theorem not_awaits_self (row : Row) : row.awaits row = false := by
  cases row <;> rfl

/-- What is looked up among rows with different keys is found with one more row as well. -/
theorem exists_mem_append_iff {β : Type} {k : Key} {x : β} {found : Option β} {f : Row → Option β}
    (hf : ∀ row x, f row = some x → row.key = k) (hkey : row.key ∉ rows.map key)
    (hfound : ∀ x, found = some x ↔ ∃ row ∈ rows, f row = some x) :
    (f row).or found = some x ↔ ∃ row' ∈ rows ++ [row], f row' = some x := by
  have hnone : found = some x → f row = none := by
    intro hx
    obtain ⟨row', hmem, hx'⟩ := (hfound x).1 hx
    cases hrow : f row with
    | none => rfl
    | some y =>
      have hsame : row'.key = row.key := (hf row' x hx').trans (hf row y hrow).symm
      exact absurd (List.mem_map.2 ⟨row', hmem, hsame⟩) hkey
  rw [Option.or_eq_some_iff, and_iff_right_of_imp hnone, hfound]
  simp only [List.mem_append, List.mem_singleton, or_and_right, exists_or, exists_eq_left]
  exact or_comm

end Row

/-- No attribute comes before the note that it stands on. -/
def OwnersFirst (rows : List Row) : Prop := rows.Pairwise fun row later => row.awaits later = false

instance (rows : List Row) : Decidable (OwnersFirst rows) :=
  inferInstanceAs (Decidable (List.Pairwise _ _))

namespace Snapshot

/-- The rows of the snapshot, in the order of a load. -/
def rows (s : Snapshot) : List Row :=
  (s.notes.map Row.ofNote ++ s.branches.map Row.ofBranch) ++ s.attributes.map Row.ofAttribute

/-- No two branches are between the same notes. -/
def HasDistinctPlaces (s : Snapshot) : Prop :=
  (s.branches.map fun row => (row.child, row.parent)).Nodup

instance (s : Snapshot) : Decidable s.HasDistinctPlaces :=
  inferInstanceAs (Decidable (List.Nodup _))

theorem HasDistinctIds.nodup_keys {s : Snapshot} (hs : s.HasDistinctIds) :
    (s.rows.map Row.key).Nodup := by
  have hnotes := hs.notes.map (f := Row.Key.note) fun _ _ => Row.Key.note.inj
  have hbranches := hs.branches.map (f := Row.Key.branch) fun _ _ => Row.Key.branch.inj
  have hattributes := hs.attributes.map (f := Row.Key.attribute) fun _ _ => Row.Key.attribute.inj
  rw [List.map_map] at hnotes hbranches hattributes
  simp only [rows, List.map_append, List.map_map]
  refine (hnotes.append hbranches ?_).append hattributes ?_
  · intro k hk hk'
    simp only [List.mem_map, Function.comp] at hk hk'
    obtain ⟨_, -, rfl⟩ := hk
    simp at hk'
  · intro k hk hk'
    simp only [List.mem_append, List.mem_map, Function.comp, Row.key] at hk hk'
    obtain ⟨_, -, rfl⟩ := hk'
    simp at hk

/-- A load reads the attributes last. -/
theorem ownersFirst_rows (s : Snapshot) : OwnersFirst s.rows := by
  have hnever : ∀ row ∈ s.notes.map Row.ofNote ++ s.branches.map Row.ofBranch, ∀ later,
      row.awaits later = false := by
    intro row hrow later
    simp only [List.mem_append, List.mem_map] at hrow
    obtain ⟨_, -, rfl⟩ | ⟨_, -, rfl⟩ := hrow <;> rfl
  refine List.pairwise_append.2 ⟨?_, ?_, fun row hrow later _ => hnever row hrow later⟩
  · exact List.pairwise_of_forall_mem_list fun row hrow later _ => hnever row hrow later
  · refine List.pairwise_of_forall_mem_list fun row _ later hlater => ?_
    obtain ⟨_, -, rfl⟩ := List.mem_map.1 hlater
    cases row <;> rfl

end Snapshot

/-! ## Graphs that hold rows -/

namespace Graph

variable {g g' : Graph} {row : Row} {rows more : List Row} {n : NoteId}

/-- Puts the row into its table and joins it with what is there, as a load does. -/
def take (g : Graph) : Row → Graph
  | .ofNote row => Vault.putNote g row
  | .ofBranch row => if row.isDeleted then g else g.addBranch (.ofRow row)
  | .ofAttribute row => (g.addAttribute? (.ofRow row)).getD g

/-- The attribute that the row puts under an id, if its owner exists. -/
def attributeFrom? (g : Graph) (row : Row) (id : AttributeId) : Option Attribute :=
  (row.attribute? id).filter fun a => g.hasNote a.owner

theorem take_attribute (g : Graph) (row : AttributeRow) : g.take (.ofAttribute row) =
    if g.hasNote row.owner then g.attach (.ofRow row) else g := by
  rw [take, addAttribute?_eq]
  show (if g.hasNote row.owner = true then _ else _ : Option Graph).getD g = _
  split_ifs <;> rfl

theorem bare?_take (n : NoteId) : (g.take row).bare? n = (row.note? n).or (g.bare? n) := by
  cases row with
  | ofNote row =>
    rw [take, bare?_putNote, Row.note?]
    split_ifs <;> rfl
  | ofBranch row =>
    rw [take]
    split_ifs <;> simp [Row.note?]
  | ofAttribute row =>
    rw [take_attribute]
    split_ifs <;> simp [Row.note?]

theorem get?_branches_take (id : BranchId) :
    (g.take row).branches.get? id = (row.branch? id).or (g.branches.get? id) := by
  cases row with
  | ofNote row => rfl
  | ofBranch row =>
    rw [take, Row.branch?]
    by_cases hdeleted : row.isDeleted = true
    · simp [hdeleted]
    · rw [if_neg hdeleted, branches_addBranch, Table.get?_insert]
      simp only [Bool.not_eq_true] at hdeleted
      simp only [hdeleted, and_true]
      show (if id = row.id then _ else _) = _
      split_ifs <;> rfl
  | ofAttribute row =>
    rw [take_attribute]
    split_ifs <;> simp [Row.branch?]

theorem get?_attributes_take (id : AttributeId) :
    (g.take row).attributes.get? id = (g.attributeFrom? row id).or (g.attributes.get? id) := by
  cases row with
  | ofNote row => rfl
  | ofBranch row =>
    rw [take]
    split_ifs <;> simp [attributeFrom?, Row.attribute?]
  | ofAttribute row =>
    have howner : (Attribute.ofRow row).owner = row.owner := rfl
    rw [take_attribute, attributeFrom?, Row.attribute?]
    by_cases hn : g.hasNote row.owner = true
    · rw [if_pos hn, attributes_attach, Table.get?_insert]
      show (if id = row.id then _ else _) = _
      split_ifs
      · simp [Option.filter_some, howner, hn]
      · rfl
    · rw [if_neg hn]
      split_ifs
      · simp [Option.filter_some, howner, hn]
      · rfl

theorem hasNote_take (n : NoteId) :
    (g.take row).hasNote n = ((row.note? n).isSome || g.hasNote n) := by
  rw [hasNote_eq_isSome_bare?, bare?_take, Option.isSome_or, hasNote_eq_isSome_bare?]

/-- The graph stores the rows and nothing else: the notes, the branches that are not deleted, and
the attributes of existing notes. -/
structure Stores (g : Graph) (rows : List Row) : Prop where
  notes : ∀ n note, g.bare? n = some note ↔ ∃ row ∈ rows, row.note? n = some note
  branches : ∀ id b, g.branches.get? id = some b ↔ ∃ row ∈ rows, row.branch? id = some b
  attributes : ∀ id a, g.attributes.get? id = some a ↔
    ∃ row ∈ rows, g.attributeFrom? row id = some a

theorem Stores.congr (h : g.Stores rows) (htables : g.SameTables g') : g'.Stores rows where
  notes n note := by rw [← htables.notes, h.notes]
  branches id b := by rw [← htables.branches, h.branches]
  attributes id a := by
    rw [← htables.attributes, h.attributes]
    simp only [attributeFrom?, htables.hasNote]

/-- Graphs that hold the same rows store the same. -/
theorem Stores.sameTables {rows' : List Row} (h : g.Stores rows) (h' : g'.Stores rows')
    (hrows : rows.Perm rows') : g.SameTables g' := by
  have hnotes : ∀ n, g.bare? n = g'.bare? n := by
    intro n
    refine Option.ext fun note => ?_
    simp only [h.notes, h'.notes, hrows.mem_iff]
  have hnote : ∀ n, g.hasNote n = g'.hasNote n := by
    intro n
    rw [hasNote_eq_isSome_bare?, hasNote_eq_isSome_bare?, hnotes]
  refine ⟨hnotes, fun id => Option.ext fun b => ?_, fun id => Option.ext fun a => ?_⟩
  · simp only [h.branches, h'.branches, hrows.mem_iff]
  · simp only [h.attributes, h'.attributes, hrows.mem_iff, attributeFrom?, hnote]

/-- A row with a new key is held together with those before, if none of them is an attribute that
awaited it. -/
theorem Stores.take (h : g.Stores rows) (hkey : row.key ∉ rows.map Row.key)
    (howners : ∀ earlier ∈ rows, earlier.awaits row = false) :
    (g.take row).Stores (rows ++ [row]) where
  notes n note := by
    rw [bare?_take, Row.exists_mem_append_iff (fun _ _ => Row.key_of_note?) hkey (h.notes n)]
  branches id b := by
    rw [get?_branches_take,
      Row.exists_mem_append_iff (fun _ _ => Row.key_of_branch?) hkey (h.branches id)]
  attributes id a := by
    have hkeys : ∀ row a, g.attributeFrom? row id = some a → row.key = .attribute id :=
      fun _ _ ha => Row.key_of_attribute? (Option.filter_eq_some_iff.1 ha).1
    rw [get?_attributes_take, Row.exists_mem_append_iff hkeys hkey (h.attributes id)]
    refine exists_congr fun row' => and_congr_right fun hmem => ?_
    have hawaits : row'.awaits row = false := by
      rcases List.mem_append.1 hmem with hmem | hmem
      · exact howners row' hmem
      · rw [List.mem_singleton.1 hmem]
        exact row.not_awaits_self
    rw [attributeFrom?, attributeFrom?, Option.filter_eq_some_iff, Option.filter_eq_some_iff]
    refine and_congr_right fun ha => ?_
    rw [hasNote_take, Row.note?_owner hawaits ha]
    rfl

theorem Stores.foldl_take (h : g.Stores rows) (hkeys : ((rows ++ more).map Row.key).Nodup)
    (howners : OwnersFirst (rows ++ more)) : (more.foldl Graph.take g).Stores (rows ++ more) := by
  induction more generalizing g rows with
  | nil => rwa [List.append_nil]
  | cons row more ih =>
    have hsplit : rows ++ row :: more = (rows ++ [row]) ++ more := by simp
    have hkey : row.key ∉ rows.map Row.key := by
      rw [List.map_append, List.map_cons] at hkeys
      exact fun hmem => (List.nodup_append.1 hkeys).2.2 _ hmem _ List.mem_cons_self rfl
    have howner : ∀ earlier ∈ rows, earlier.awaits row = false := fun earlier hmem =>
      (List.pairwise_append.1 howners).2.2 earlier hmem row List.mem_cons_self
    rw [hsplit] at hkeys howners ⊢
    exact ih (h.take hkey howner) hkeys howners

theorem stores_empty : Graph.empty.Stores [] := by
  constructor <;> simp [Graph.empty, bare?]

end Graph

namespace Vault

variable {v : Vault} {s : Snapshot} {row : Row} {rows : List Row}

/-! ## From a snapshot -/

/-- A load takes one row after the other, notes and branches first. -/
theorem placedBy_empty (s : Snapshot) : empty.placedBy s =
    (s.notes.map Row.ofNote ++ s.branches.map Row.ofBranch).foldl Graph.take .empty := by
  rw [List.foldl_append, List.foldl_map, List.foldl_map, placedBy, Graph.addBranches,
    Snapshot.liveBranches, List.foldl_map, List.foldl_filter]
  refine List.foldl_ext _ _ _ fun g row _ => ?_
  rw [Graph.take]
  cases row.isDeleted <;> rfl

theorem attachAll_eq_foldl_take (g : Graph) (s : Snapshot) :
    g.attachAll s.readAttributes = (s.attributes.map Row.ofAttribute).foldl Graph.take g := by
  rw [Graph.attachAll, Snapshot.readAttributes, List.foldl_map, List.foldl_map]
  exact List.foldl_ext _ _ _ fun g row _ => (g.take_attribute row).symm

/-- **A loaded vault stores the rows of its snapshot.** -/
theorem stores_ofSnapshot (hs : s.HasDistinctIds) : (ofSnapshot s).graph.Stores s.rows := by
  have hkeys := hs.nodup_keys
  have howners := s.ownersFirst_rows
  have hplaced : (empty.placedBy s).Stores
      (s.notes.map Row.ofNote ++ s.branches.map Row.ofBranch) := by
    rw [placedBy_empty]
    refine Graph.stores_empty.foldl_take (hkeys.sublist ?_) (howners.sublist ?_)
    · exact (List.sublist_append_left _ _).map _
    · exact List.sublist_append_left _ _
  obtain ⟨ns, -, heq⟩ := graph_load empty s
  have hsorted : ((empty.placedBy s).sortAll s.placingNotes).Stores
      (s.notes.map Row.ofNote ++ s.branches.map Row.ofBranch) := by
    refine hplaced.congr ⟨fun n => ?_, fun id => ?_, fun id => ?_⟩
    · exact (Graph.sortAll_of (Graph.bare? · n) (by simp) _ _).symm
    · rw [Graph.sortAll_of Graph.branches (by simp)]
    · rw [Graph.sortAll_of Graph.attributes (by simp)]
  have hattached := hsorted.foldl_take hkeys howners
  rw [← attachAll_eq_foldl_take] at hattached
  rw [ofSnapshot, heq]
  refine hattached.congr ⟨fun n => ?_, fun id => ?_, fun id => ?_⟩
  · exact (Graph.resortAll_of (Graph.bare? · n) (by simp) _ _).symm
  · rw [Graph.resortAll_of Graph.branches (by simp)]
  · rw [Graph.resortAll_of Graph.attributes (by simp)]

/-- In a loaded vault the edges follow the branches. -/
theorem edgesFollow_ofSnapshot (hs : s.HasDistinctBranches) :
    (ofSnapshot s).graph.EdgesFollow := by
  rw [(linked_ofSnapshot hs).edgesFollow_iff]
  intro id b hb ⟨hroot, hchild, hparent⟩
  exact mem_parents_ofSnapshot (branches_ofSnapshot hb) hroot (hasNote_ofSnapshot.1 hchild)
    (hasNote_ofSnapshot.1 hparent)

/-! ## From notifications -/

/-- Nothing is stored yet under the id of the row, if it is no note. -/
def IsNew (v : Vault) : Row → Prop
  | .ofNote _ => True
  | .ofBranch row => v.graph.branches.get? row.id = none
  | .ofAttribute row => v.graph.attributes.get? row.id = none

theorem isNew_of_stores (h : v.graph.Stores rows) (hkey : row.key ∉ rows.map Row.key) :
    v.IsNew row := by
  cases row with
  | ofNote => trivial
  | ofBranch row =>
    refine Option.eq_none_iff_forall_ne_some.2 fun b hb => hkey ?_
    obtain ⟨row', hmem, hb'⟩ := (h.branches row.id b).1 hb
    exact List.mem_map.2 ⟨row', hmem, Row.key_of_branch? hb'⟩
  | ofAttribute row =>
    refine Option.eq_none_iff_forall_ne_some.2 fun a ha => hkey ?_
    obtain ⟨row', hmem, ha'⟩ := (h.attributes row.id a).1 ha
    exact List.mem_map.2 ⟨row', hmem, Row.key_of_attribute? (Option.filter_eq_some_iff.1 ha').1⟩

/-- A notification about a new row stores what a load of the row does. -/
theorem sameTables_apply (h : v.IsNew row) :
    (v.graph.take row).SameTables (v.apply row.update).graph := by
  cases row with
  | ofNote row =>
    rw [Row.update, Vault.apply, Graph.take]
    by_cases hn : v.graph.hasNote row.id = true
    · rw [upsertNote_of_known hn]
      refine ⟨fun n => ?_, fun _ => rfl, fun _ => rfl⟩
      rw [Graph.bare?_putNote, Graph.bare?_renewNote]
    · obtain ⟨memo, -, heq⟩ := upsertNote_of_new hn
      rw [heq]
      constructor <;> simp [Graph.arrive]
  | ofBranch row =>
    rw [Row.update, Vault.apply, Graph.take, upsertBranch_eq, deleteBranch_of_none h]
    split_ifs
    · exact ⟨fun _ => rfl, fun _ => rfl, fun _ => rfl⟩
    · constructor <;> simp [placeBranch]
  | ofAttribute row =>
    rw [Row.update, Vault.apply, Graph.take_attribute, upsertAttribute_eq,
      deleteAttribute_of_none h]
    dsimp only
    show (if v.graph.hasNote row.owner = true then _ else _ : Graph).SameTables
      (if v.graph.hasNote row.owner = true then _ else _ : Vault).graph
    split_ifs
    · constructor <;> simp
    · exact ⟨fun _ => rfl, fun _ => rfl, fun _ => rfl⟩

theorem not_severs_of_isNew (h : v.IsNew row) : ¬row.update.Severs v.graph := by
  cases row with
  | ofNote => exact not_false
  | ofAttribute => exact not_false
  | ofBranch row =>
    rintro ⟨b, hb, -⟩
    rw [show v.graph.branches.get? row.id = none from h] at hb
    exact absurd hb (by simp)

/-- **A vault that has been notified of rows stores them**, in whatever order they came, and its
edges follow the branches. -/
theorem stores_foldl_apply (hkeys : (rows.map Row.key).Nodup) (howners : OwnersFirst rows) :
    ((rows.map Row.update).foldl apply .empty).graph.Stores rows ∧
      ((rows.map Row.update).foldl apply .empty).graph.EdgesFollow := by
  induction rows using List.reverseRecOn with
  | nil =>
    refine ⟨Graph.stores_empty, fun c p _ hc _ => ?_⟩
    exact absurd hc (by simp [empty, Graph.hasNote, Table.contains])
  | append_singleton rows row ih =>
    rw [List.map_append, List.map_singleton,
      (List.perm_append_singleton _ _).nodup_iff, List.nodup_cons] at hkeys
    obtain ⟨hbefore, -, hlast⟩ := List.pairwise_append.1 howners
    obtain ⟨hstores, hfollow⟩ := ih hkeys.2 hbefore
    have hreachable : ((rows.map Row.update).foldl apply .empty).Reachable := .foldl_apply _ .empty
    -- as the vault stores the rows before, the last one replaces nothing
    have hnew := isNew_of_stores hstores hkeys.1
    rw [List.map_append, List.map_singleton, List.foldl_append, List.foldl_cons, List.foldl_nil]
    constructor
    · refine (hstores.take hkeys.1 fun earlier hmem => ?_).congr (sameTables_apply hnew)
      exact hlast earlier hmem row List.mem_cons_self
    · exact (edgesFollow_apply_iff hreachable hfollow _).2 (not_severs_of_isNew hnew)

/-! ## Both agree -/

/-- Rows of branches between different notes are stored as such. -/
theorem untwinned_of_stores {g : Graph} (h : g.Stores rows) (hplaces : ∀ row row',
    Row.ofBranch row ∈ rows → Row.ofBranch row' ∈ rows → row.child = row'.child →
      row.parent = row'.parent → row = row') : g.Untwinned := by
  have hrow : ∀ id b, g.branches.get? id = some b →
      ∃ row, Row.ofBranch row ∈ rows ∧ id = row.id ∧ b = Branch.ofRow row := by
    intro id b hb
    obtain ⟨row, hmem, hrow⟩ := (h.branches id b).1 hb
    cases row with
    | ofNote => simp [Row.branch?] at hrow
    | ofAttribute => simp [Row.branch?] at hrow
    | ofBranch row =>
      rw [Row.branch?, Option.ite_none_right_eq_some] at hrow
      exact ⟨row, hmem, hrow.1.1, (Option.some.inj hrow.2).symm⟩
  intro id id' b b' hb hb' hchild hparent
  obtain ⟨row, hmem, rfl, rfl⟩ := hrow id b hb
  obtain ⟨row', hmem', rfl, rfl⟩ := hrow id' b' hb'
  rw [hplaces row row' hmem hmem' hchild hparent]

theorem Reachable.tidy (h : v.Reachable) (hfollow : v.graph.EdgesFollow)
    (huntwinned : v.graph.Untwinned) : v.graph.Tidy where
  consistent := h.consistent
  placesKnown := h.placesKnown
  edgesFollow := hfollow
  untwinned := huntwinned
  notedOnce := (h.tended fun _ hs => hs.branches).notedOnce
  inOrder := (h.tended fun _ hs => hs.branches).inOrder
  filed := (h.tended fun _ hs => hs.attributes).filed

/-- **Notifications converge**: in whatever order rows are announced, as long as no attribute comes
before the note that it stands on, the vault reads as the one loaded from a snapshot of the rows. -/
theorem sameContent_foldl_apply (hs : s.HasDistinctIds) (hplaces : s.HasDistinctPlaces)
    (hrows : rows.Perm s.rows) (howners : OwnersFirst rows) :
    ((rows.map Row.update).foldl apply .empty).graph.SameContent (ofSnapshot s).graph := by
  have hkeys : (rows.map Row.key).Nodup := (hrows.map _).nodup_iff.2 hs.nodup_keys
  obtain ⟨hstores, hfollow⟩ := stores_foldl_apply hkeys howners
  have hloaded := stores_ofSnapshot hs
  have htables := hstores.sameTables hloaded hrows
  have huntwinned : (ofSnapshot s).graph.Untwinned := by
    refine untwinned_of_stores hloaded fun row row' hmem hmem' hchild hparent => ?_
    have hstored : ∀ row, Row.ofBranch row ∈ s.rows → row ∈ s.branches := fun row hmem => by
      simpa [Snapshot.rows] using hmem
    exact List.inj_on_of_nodup_map hplaces (hstored row hmem) (hstored row' hmem')
      (Prod.ext hchild hparent)
  refine Graph.Tidy.sameContent ?_ ?_ htables
  · refine (Reachable.foldl_apply _ .empty).tidy hfollow fun id id' b b' hb hb' => ?_
    rw [htables.branches] at hb hb'
    exact huntwinned hb hb'
  · exact (Reachable.ofSnapshot hs).tidy (edgesFollow_ofSnapshot hs.branches) huntwinned

/-- Notes below each other, a branch that was deleted, one that lacks its parent, a relation and a
label, and a label of a note that is missing. -/
def familySnapshot : Snapshot where
  notes := [{ id := "root", title := "Root" }, { id := "a", title := "A" },
    { id := "b", title := "B" }]
  branches := [{ id := "a0", child := "a", parent := "root", position := 2 },
    { id := "b0", child := "b", parent := "root", position := 1 },
    { id := "ab", child := "a", parent := "b" },
    { id := "ba", child := "b", parent := "a", isDeleted := true },
    { id := "ax", child := "a", parent := "gone" }]
  attributes := [.relation "r" "a" "friend" "b", .label "l" "b" "archived" "",
    .label "o" "gone" "tag" ""]

/-- The rows of the snapshot, the branches and the relation before the notes that they lead to. -/
def lateRows : List Row :=
  [.ofBranch { id := "b0", child := "b", parent := "root", position := 1 },
    .ofBranch { id := "ax", child := "a", parent := "gone" },
    .ofBranch { id := "ba", child := "b", parent := "a", isDeleted := true },
    .ofBranch { id := "ab", child := "a", parent := "b" },
    .ofNote { id := "a", title := "A" }, .ofAttribute (.label "o" "gone" "tag" ""),
    .ofAttribute (.relation "r" "a" "friend" "b"), .ofNote { id := "root", title := "Root" },
    .ofBranch { id := "a0", child := "a", parent := "root", position := 2 },
    .ofNote { id := "b", title := "B" }, .ofAttribute (.label "l" "b" "archived" "")]

theorem sameContent_lateRows : familySnapshot.HasDistinctIds ∧ familySnapshot.HasDistinctPlaces ∧
    lateRows.Perm familySnapshot.rows ∧ OwnersFirst lateRows ∧
    ((lateRows.map Row.update).foldl apply .empty).graph.SameContent
      (ofSnapshot familySnapshot).graph := by
  have hids : familySnapshot.HasDistinctIds := by constructor <;> decide
  have hplaces : familySnapshot.HasDistinctPlaces := by decide
  have hrows : lateRows.Perm familySnapshot.rows := by decide +kernel
  have howners : OwnersFirst lateRows := by decide +kernel
  exact ⟨hids, hplaces, hrows, howners, sameContent_foldl_apply hids hplaces hrows howners⟩

example : ((lateRows.map Row.update).foldl apply .empty).graph.children "root" = ["b", "a"] ∧
    (ofSnapshot familySnapshot).graph.parents "a" = ["root", "b"] := by
  decide +kernel

end Vault

end Zettel
