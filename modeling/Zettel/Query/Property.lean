/-!
# Properties of notes

The properties that a query can compare and order by, and how they are written.
-/

namespace Zettel.Query

/-- A property of a note. -/
inductive Property
  | noteId
  | title
  | noteType
  | mime
  | isProtected
  | isArchived
  | dateCreated
  | dateModified
  | utcDateCreated
  | utcDateModified
  | contentLength
  | parentCount
  | childrenCount
  | attributeCount
  | labelCount
  | relationCount
  deriving DecidableEq, Repr

namespace Property

/-- Every property. -/
def all : List Property :=
  [noteId, title, noteType, mime, isProtected, isArchived, dateCreated, dateModified,
    utcDateCreated, utcDateModified, contentLength, parentCount, childrenCount, attributeCount,
    labelCount, relationCount]

/-- The property as it is written. -/
def name : Property → String
  | noteId => "noteid"
  | title => "title"
  | noteType => "type"
  | mime => "mime"
  | isProtected => "isprotected"
  | isArchived => "isarchived"
  | dateCreated => "datecreated"
  | dateModified => "datemodified"
  | utcDateCreated => "utcdatecreated"
  | utcDateModified => "utcdatemodified"
  | contentLength => "contentlength"
  | parentCount => "parentcount"
  | childrenCount => "childrencount"
  | attributeCount => "attributecount"
  | labelCount => "labelcount"
  | relationCount => "relationcount"

/-- The property that is written `s`. -/
def ofName? (s : String) : Option Property := all.find? (·.name = s)

/-- The property is true or false. -/
def isBoolean (p : Property) : Bool := p = isProtected || p = isArchived

@[simp]
theorem ofName?_name (p : Property) : ofName? p.name = some p := by cases p <;> decide

/-- Only a property's own name reads as the property. -/
theorem name_of_ofName? {s : String} {p : Property} (h : ofName? s = some p) : p.name = s := by
  simpa using List.find?_some h

end Property

end Zettel.Query
