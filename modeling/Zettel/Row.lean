/-!
# Rows

What a note store delivers: notes, branches, which place a note under a parent, and attributes.
Absent fields have the values that the store leaves out.
-/

namespace Zettel

/-- The id of a note. -/
abbrev NoteId := String

/-- The id of a branch. -/
abbrev BranchId := String

/-- The id of an attribute. -/
abbrev AttributeId := String

/-- The note at the top of every tree. -/
def rootId : NoteId := "root"

/-! ## Notes -/

/-- A note as delivered. -/
structure NoteRow where
  id : NoteId
  title : String
  noteType : String := "text"
  mime : String := "text/html"
  isProtected : Bool := false
  /-- The title of a protected note was delivered decrypted. -/
  isContentAvailable : Bool := false
  contentLength : Option Int := none
  dateCreated : Option String := none
  dateModified : Option String := none
  utcDateCreated : Option String := none
  utcDateModified : Option String := none
  deriving DecidableEq, Repr

namespace NoteRow

/-- The same note with another type and media type. -/
def withType (row : NoteRow) (noteType mime : String) : NoteRow :=
  { row with noteType := noteType, mime := mime }

/-- The same note, protected. -/
def withProtection (row : NoteRow) : NoteRow := { row with isProtected := true }

end NoteRow

/-! ## Branches -/

/-- A branch as delivered: the place of the note `child` under `parent`. -/
structure BranchRow where
  id : BranchId
  child : NoteId
  parent : NoteId
  position : Int := 0
  /-- Text that is shown before the title of the note in this place. -/
  lead : Option String := none
  isExpanded : Bool := false
  isDeleted : Bool := false
  deriving DecidableEq, Repr

namespace BranchRow

/-- The same branch with a text before the title. -/
def withLead (row : BranchRow) (lead : String) : BranchRow := { row with lead := some lead }

/-- The same branch at another position. -/
def withPosition (row : BranchRow) (position : Int) : BranchRow := { row with position := position }

end BranchRow

/-! ## Attributes -/

/-- A label has a text for a value, a relation the id of a note. -/
inductive AttributeKind
  | label
  | relation
  deriving DecidableEq, Repr

namespace AttributeKind

/-- The name of the kind. -/
def name : AttributeKind → String
  | label => "label"
  | relation => "relation"

/-- The kind with the given name. -/
def ofName? (s : String) : Option AttributeKind :=
  if s = "label" then some label else if s = "relation" then some relation else none

@[simp]
theorem ofName?_name (k : AttributeKind) : ofName? k.name = some k := by cases k <;> rfl

end AttributeKind

/-- An attribute as delivered; `owner` is the note that it stands on. -/
structure AttributeRow where
  id : AttributeId
  owner : NoteId
  kind : AttributeKind
  name : String
  value : String := ""
  isInheritable : Bool := false
  position : Int := 0
  deriving DecidableEq, Repr

namespace AttributeRow

/-- A label that is not inheritable. -/
def label (id : AttributeId) (owner : NoteId) (name value : String) : AttributeRow :=
  { id := id, owner := owner, kind := .label, name := name, value := value }

/-- A relation to the note `target` that is not inheritable. -/
def relation (id : AttributeId) (owner : NoteId) (name : String) (target : NoteId) : AttributeRow :=
  { id := id, owner := owner, kind := .relation, name := name, value := target }

/-- The same attribute, inheritable. -/
def inheritable (row : AttributeRow) : AttributeRow := { row with isInheritable := true }

end AttributeRow

/-! ## Snapshots -/

/-- All rows of a store. -/
structure Snapshot where
  notes : List NoteRow := []
  branches : List BranchRow := []
  attributes : List AttributeRow := []
  deriving DecidableEq, Repr

end Zettel
