import Zettel.Row
import Zettel.Sorting
import Zettel.Table
import Zettel.Text.Blank
import Zettel.Text.Infix
import Zettel.Text.Lowercase

/-!
# The graph of notes

Notes, the branches that place them under one another, and their attributes, each in a table of its
own. A note carries its edges: its parents and children, the branches above it, the attributes it
owns and the relations that point at it. Two more tables answer look-ups: the branch between a note
and a parent, and the attributes of one kind and name.
-/

namespace Zettel

/-! ## Attributes -/

/-- An attribute in the graph. Its name is in small letters, and so is the value of a label. -/
structure Attribute where
  id : AttributeId
  owner : NoteId
  kind : AttributeKind
  name : String
  value : String
  isInheritable : Bool
  position : Int
  deriving DecidableEq, Repr

namespace Attribute

/-- The name of the relation whose owner takes over the attributes of its target. -/
def templateName : String := "template"

/-- The name of the label that hides a note. -/
def archivedName : String := "archived"

/-- The name of the label that hides a note from fulltext search. -/
def hiddenName : String := "hideinautocomplete"

/-- The attribute that a row describes. -/
def ofRow (row : AttributeRow) : Attribute where
  id := row.id
  owner := row.owner
  kind := row.kind
  name := Text.lowercase row.name
  value := match row.kind with
    | .label => Text.lowercase row.value
    | .relation => row.value
  isInheritable := row.isInheritable
  position := row.position

/-- The attribute is a label. -/
def isLabel (a : Attribute) : Bool := a.kind = .label

/-- The attribute makes its owner take over the attributes of another note. -/
def isTemplate (a : Attribute) : Bool := a.kind = .relation && a.name = templateName

/-- The attribute has a bearing on notes other than its owner. -/
def affectsSubtree (a : Attribute) : Bool := a.isInheritable || a.isTemplate

/-- The note that a relation points at, whether it exists or not. -/
def target? (a : Attribute) : Option NoteId :=
  match a.kind with
  | .label => none
  | .relation => some a.value

/-- The attribute is a label that marks its owner, and all notes below, as archived. -/
def archivesSubtree (a : Attribute) : Bool := a.isLabel && a.name = archivedName && a.isInheritable

end Attribute

/-! ## Branches -/

/-- A branch in the graph. A lead that is blank counts as none. -/
structure Branch where
  id : BranchId
  child : NoteId
  parent : NoteId
  position : Int
  lead : Option String
  markedExpanded : Bool
  isDeleted : Bool
  deriving DecidableEq, Repr

namespace Branch

/-- The branch that a row describes. -/
def ofRow (row : BranchRow) : Branch where
  id := row.id
  child := row.child
  parent := row.parent
  position := row.position
  lead := row.lead.filter fun lead => !Text.isBlankText lead
  markedExpanded := row.isExpanded
  isDeleted := row.isDeleted

/-- The branch is shown expanded; the root note always is. -/
def isExpanded (b : Branch) : Bool := b.markedExpanded || b.child = rootId

end Branch

/-! ## Notes -/

/-- What a note is joined to, by id. -/
structure Edges where
  /-- The branches that place the note. -/
  parentBranches : List BranchId := []
  parents : List NoteId := []
  children : List NoteId := []
  /-- The attributes that stand on the note. -/
  owned : List AttributeId := []
  /-- The relations that point at the note. -/
  incoming : List AttributeId := []
  deriving DecidableEq, Repr

/-- A note in the graph. -/
structure Note where
  id : NoteId
  title : String
  noteType : String
  mime : String
  isProtected : Bool
  /-- The title can be shown. -/
  isDecrypted : Bool
  contentLength : Option Int
  dateCreated : Option String
  dateModified : Option String
  utcDateCreated : Option String
  utcDateModified : Option String
  edges : Edges
  deriving DecidableEq, Repr

namespace Note

/-- The note that a row describes, with the given edges. -/
def ofRow (row : NoteRow) (edges : Edges) : Note where
  id := row.id
  title := row.title
  noteType := row.noteType
  mime := row.mime
  isProtected := row.isProtected
  isDecrypted := !row.isProtected || row.isContentAvailable
  contentLength := row.contentLength
  dateCreated := row.dateCreated
  dateModified := row.dateModified
  utcDateCreated := row.utcDateCreated
  utcDateModified := row.utcDateModified
  edges := edges

end Note

/-! ## The graph -/

/-- Notes, branches and attributes by id, with two tables for look-ups. -/
structure Graph where
  notes : Table NoteId Note := ∅
  branches : Table BranchId Branch := ∅
  attributes : Table AttributeId Attribute := ∅
  /-- The branch that places a note (first) under a parent (second). -/
  placements : Table (NoteId × NoteId) BranchId := ∅
  /-- The attributes of one kind and name. -/
  index : Table (AttributeKind × String) (List AttributeId) := ∅
  isLoaded : Bool := false

namespace Graph

/-- The graph without notes. -/
def empty : Graph := {}

/-- There is a note with id `n`. -/
def hasNote (g : Graph) (n : NoteId) : Bool := g.notes.contains n

/-- The edges of a note; an unknown note has none. -/
def edges (g : Graph) (n : NoteId) : Edges :=
  match g.notes.get? n with
  | some note => note.edges
  | none => {}

/-- The parents of a note. -/
def parents (g : Graph) (n : NoteId) : List NoteId := (g.edges n).parents

/-- The children of a note. -/
def children (g : Graph) (n : NoteId) : List NoteId := (g.edges n).children

/-- The attributes that stand on a note. -/
def owned (g : Graph) (n : NoteId) : List AttributeId := (g.edges n).owned

/-- The ids of all notes, in the order of their characters. -/
def noteIds (g : Graph) : List NoteId := sortOn id g.notes.keys

/-- The number of notes. -/
def noteCount (g : Graph) : Nat := g.notes.size

/-- The branch that places `child` under `parent`. -/
def branchBetween? (g : Graph) (child parent : NoteId) : Option Branch :=
  (g.placements.get? (child, parent)).bind g.branches.get?

/-- The attributes of a kind and name; the case of the name does not count. -/
def findAttributes (g : Graph) (kind : AttributeKind) (name : String) : List AttributeId :=
  (g.index.get? (kind, Text.lowercase name)).getD []

/-- The attributes of a kind whose names begin with `start`, in the order of their names; the case
of `start` does not count. -/
def findAttributesBeginning (g : Graph) (kind : AttributeKind) (start : String) :
    List AttributeId :=
  let start := Text.lowercase start
  let found := g.index.entries.filter fun e => e.1.1 = kind && Text.beginsWith start e.1.2
  (sortOn (fun e => e.1.2) found).flatMap Prod.snd

/-- The note has a label that marks it, and all notes below, as archived. -/
def archivesSubtree (g : Graph) (n : NoteId) : Bool :=
  (g.owned n).any fun a => (g.attributes.get? a).any Attribute.archivesSubtree

/-- Changes the edges of a note, if it exists. -/
def modifyEdges (g : Graph) (n : NoteId) (f : Edges → Edges) : Graph :=
  { g with notes := g.notes.modify n fun note => { note with edges := f note.edges } }

end Graph

end Zettel
