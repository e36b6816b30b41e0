import Zettel.Graph.Link
import Zettel.Graph.Path
import Zettel.Graph.Subtree
import Zettel.Graph.Views

/-!
# The vault

A vault is a graph of notes together with the views of it that are remembered. It is filled from a
snapshot and follows the store by one row at a time. Every change forgets the views that it may
alter before it is done: those of the notes below the changed one, and of the notes that use one of
these as their template.
-/

namespace Zettel

/-- A graph with its remembered views. -/
structure Vault where
  graph : Graph := {}
  memo : Memo := ∅

/-- Why a snapshot could not be had. -/
inductive LoadError
  /-- The store could not be read; the text is the store's own message. -/
  | source (message : String)
  /-- The rows are no consistent snapshot. -/
  | invalidData (message : String)
  deriving DecidableEq, Repr

/-- The wording of a load error. -/
def LoadError.message : LoadError → String
  | source m => "graph snapshot source failed: " ++ m
  | invalidData m => "invalid graph snapshot: " ++ m

namespace Vault

/-- The vault that nothing has been loaded into. -/
def empty : Vault := {}

/-- Changes the graph. -/
def mapGraph (v : Vault) (f : Graph → Graph) : Vault := { v with graph := f v.graph }

/-- Reads a view, which may be remembered by this. -/
def read {α : Type} (v : Vault) (view : Graph → Reading α) : α × Vault :=
  let (a, memo) := view v.graph v.memo
  (a, { v with memo := memo })

/-! ## Forgetting -/

/-- Forgets the views of one note. -/
def forgetNote (v : Vault) (n : NoteId) : Vault := { v with memo := v.memo.forget [n] }

/-- Forgets the views of a note, of everything below it, and of the notes that use one of these as
their template. -/
def forgetSubtree (v : Vault) (n : NoteId) : Vault :=
  { v with memo := v.memo.forget (v.graph.subtreeWithUsers n) }

/-- Forgets the flat texts of the notes that `forgetSubtree` forgets. -/
def forgetSubtreeText (v : Vault) (n : NoteId) : Vault :=
  { v with memo := v.memo.forgetText (v.graph.subtreeWithUsers n) }

/-- Forgets the views of a note and of the notes that use it as their template, and so on. -/
def forgetTemplated (v : Vault) (n : NoteId) : Vault :=
  { v with memo := v.memo.forget (n :: v.graph.templatedNotes n) }

/-! ## Snapshots -/

/-- Puts a note without edges into the graph, in place of one with the same id. -/
def putNote (g : Graph) (row : NoteRow) : Graph :=
  { g with notes := g.notes.insert row.id (Note.ofRow row {}) }

/-- Adds the rows of a snapshot. Deleted branches and attributes of unknown notes are left out. -/
def load (v : Vault) (s : Snapshot) : Vault :=
  let g := s.notes.foldl putNote v.graph
  let branches := (s.branches.filter fun row => !row.isDeleted).map Branch.ofRow
  let g := branches.foldl Graph.addBranch g
  let g := (addNew [] (branches.map Branch.parent)).foldl Graph.sortChildren g
  let g := s.attributes.foldl (fun g row => (g.addAttribute? (Attribute.ofRow row)).getD g) g
  let g := g.notes.keys.foldl Graph.resortParents g
  { graph := { g with isLoaded := true }, memo := ∅ }

/-- The vault that holds a snapshot and nothing else. -/
def ofSnapshot (s : Snapshot) : Vault := empty.load s

/-- Discards everything. -/
def reset (_ : Vault) : Vault := empty

/-- Starts again from a snapshot; the vault is empty afterwards if there is none. -/
def reload : Except LoadError Snapshot → Except LoadError Unit × Vault
  | .ok s => (.ok (), ofSnapshot s)
  | .error e => (.error e, empty)

/-! ## Branches -/

/-- Takes a branch out of the vault. -/
def deleteBranch (v : Vault) (id : BranchId) : Vault :=
  match v.graph.branches.get? id with
  | none => v
  | some b =>
    let v := v.mapGraph fun g => { g with branches := g.branches.erase id }
    (v.forgetSubtree b.child).mapGraph (·.unlinkBranch b)

/-- Puts a branch into the vault, in place of one with the same id. A deleted branch is only taken
out. -/
def upsertBranch (v : Vault) (row : BranchRow) : Vault :=
  let v := v.deleteBranch row.id
  if row.isDeleted then v
  else
    let v := v.mapGraph fun g =>
      ((g.addBranch (Branch.ofRow row)).sortChildren row.parent).resortParents row.child
    v.forgetSubtree row.child

/-! ## Attributes -/

/-- Forgets what a change of the attribute `a` may have altered, and puts the parents of the notes
below in order again if the change may have archived their parent. -/
def afterAttributeChange (v : Vault) (a : Attribute) (affectsSubtree : Bool) : Vault :=
  let v := if affectsSubtree then v.forgetSubtree a.owner else v.forgetTemplated a.owner
  if a.isLabel && a.name = Attribute.archivedName then
    v.mapGraph fun g => (g.children a.owner).foldl Graph.resortParents g
  else v

/-- Takes an attribute out of the vault. -/
def deleteAttribute (v : Vault) (id : AttributeId) : Vault :=
  match v.graph.attributes.get? id with
  | none => v
  | some old => (v.mapGraph (·.removeAttribute old)).afterAttributeChange old old.affectsSubtree

/-- Puts an attribute into the vault, in place of one with the same id. An attribute of an unknown
note is left out. -/
def upsertAttribute (v : Vault) (row : AttributeRow) : Vault :=
  let old := v.graph.attributes.get? row.id
  let v := v.deleteAttribute row.id
  let a := Attribute.ofRow row
  match v.graph.addAttribute? a with
  | none => v
  | some g =>
    { v with graph := g }.afterAttributeChange a
      (old.any Attribute.affectsSubtree || a.affectsSubtree)

/-! ## Notes -/

/-- Joins a new note with the rows that came before it: branches at either end, and relations that
point at it. Nothing is promised about the order in which rows that waited are joined; here it is
the order in which they came. -/
def linkWaiting (v : Vault) (n : NoteId) : Vault :=
  let waiting := v.graph.branches.values.filter fun b => b.child = n || b.parent = n
  let v := v.mapGraph fun g =>
    waiting.foldl (fun g b => (g.linkBranch b).sortChildren b.parent) g
  let incoming := v.graph.attributes.values.filter fun a => a.target? = some n
  incoming.foldl (fun v a =>
    let v := v.mapGraph (·.modifyEdges n fun e => { e with incoming := e.incoming ++ [a.id] })
    v.forgetSubtree a.owner) v

/-- Puts a note into the vault. A note that is there already keeps its edges. -/
def upsertNote (v : Vault) (row : NoteRow) : Vault :=
  match v.graph.notes.get? row.id with
  | some note =>
    let v := v.mapGraph fun g =>
      { g with notes := g.notes.insert row.id (Note.ofRow row note.edges) }
    (v.forgetNote row.id).forgetSubtreeText row.id
  | none =>
    let v := (v.mapGraph (putNote · row)).forgetNote row.id
    ((v.linkWaiting row.id).mapGraph (·.resortParents row.id)).forgetSubtree row.id

/-- Takes a note out of the vault, with its attributes and branches. Nothing is promised about the
order in which the branches go; here it is the order in which they came. -/
def deleteNote (v : Vault) (n : NoteId) : Vault :=
  if v.graph.hasNote n then
    let branches := v.graph.branches.values.filter fun b => b.child = n || b.parent = n
    let users := (v.graph.templatedNotes n).filter (· ≠ n)
    let v := (v.graph.owned n).foldl deleteAttribute v
    let v := (branches.map Branch.id).foldl deleteBranch v
    let v := (v.mapGraph fun g => { g with notes := g.notes.erase n }).forgetNote n
    users.foldl forgetSubtree v
  else v

/-- Puts the parents of a note in order again. -/
def resortParents (v : Vault) (n : NoteId) : Vault := v.mapGraph (·.resortParents n)

end Vault

end Zettel
