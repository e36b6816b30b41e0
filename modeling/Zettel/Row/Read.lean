import Zettel.Json.Reader
import Zettel.Row

/-!
# Reading rows

Rows are written as Json objects. A field that is not known is passed over, one that may be absent
has a default, and a known field stands at most once. A row may also be written as an array of its
values, in the order of the fields; what is missing at the end is absent.

A kind of attributes is written as its name, or as an object with the name as its one field and
nothing as the value. What counts as nothing is told to the functions that read kinds.
-/

namespace Zettel

namespace Json

/-! ## Values -/

/-- An integer of 64 bits. -/
def int64? (v : Json) : Option Int :=
  v.integer?.filter fun i => -0x8000000000000000 ≤ i && i < 0x8000000000000000

/-- A value that may be null. -/
def nullable {α : Type} (read : Json → Option α) : Json → Option (Option α)
  | null => some none
  | v => (read v).map some

/-- A list of values. -/
def list? {α : Type} (read : Json → Option α) (v : Json) : Option (List α) :=
  v.array?.bind (·.mapM read)

/-- The value is null. -/
def isNull : Json → Bool
  | null => true
  | _ => false

/-- The value is null or an object without fields. -/
def isBare : Json → Bool
  | null => true
  | object [] => true
  | _ => false

/-! ## Fields -/

/-- The fields of what is written as a row; they are called `names`. -/
def rowFields? (names : List String) : Json → Option (List (String × Json))
  | object fields => some fields
  | array items => if items.length ≤ names.length then some (names.zip items) else none
  | _ => none

/-- The value of a field that must be there. -/
def required {α : Type} (fields : List (String × Json)) (name : String) (read : Json → Option α) :
    Option α :=
  match values name fields with
  | [v] => read v
  | _ => none

/-- The value of a field that may be absent. -/
def optional {α : Type} (fields : List (String × Json)) (name : String) (read : Json → Option α)
    (absent : α) : Option α :=
  match values name fields with
  | [] => some absent
  | [v] => read v
  | _ => none

end Json

open Json

/-! ## Rows -/

namespace NoteRow

/-- The fields of a note. -/
def fieldNames : List String :=
  ["noteId", "title", "type", "mime", "isProtected", "isContentAvailable", "contentLength",
    "dateCreated", "dateModified", "utcDateCreated", "utcDateModified"]

/-- Reads a note. -/
def ofJson? (v : Json) : Option NoteRow := do
  let fields ← rowFields? fieldNames v
  let row : NoteRow := { id := ← required fields "noteId" text?
                         title := ← required fields "title" text? }
  return { row with
    noteType := ← optional fields "type" text? row.noteType
    mime := ← optional fields "mime" text? row.mime
    isProtected := ← optional fields "isProtected" bool? row.isProtected
    isContentAvailable := ← optional fields "isContentAvailable" bool? row.isContentAvailable
    contentLength := ← optional fields "contentLength" (nullable int64?) none
    dateCreated := ← optional fields "dateCreated" (nullable text?) none
    dateModified := ← optional fields "dateModified" (nullable text?) none
    utcDateCreated := ← optional fields "utcDateCreated" (nullable text?) none
    utcDateModified := ← optional fields "utcDateModified" (nullable text?) none }

end NoteRow

namespace BranchRow

/-- The fields of a branch. -/
def fieldNames : List String :=
  ["branchId", "noteId", "parentNoteId", "notePosition", "prefix", "isExpanded", "isDeleted"]

/-- Reads a branch. -/
def ofJson? (v : Json) : Option BranchRow := do
  let fields ← rowFields? fieldNames v
  return {
    id := ← required fields "branchId" text?
    child := ← required fields "noteId" text?
    parent := ← required fields "parentNoteId" text?
    position := ← optional fields "notePosition" int64? 0
    lead := ← optional fields "prefix" (nullable text?) none
    isExpanded := ← optional fields "isExpanded" bool? false
    isDeleted := ← optional fields "isDeleted" bool? false }

end BranchRow

/-- Reads a kind of attributes. -/
def AttributeKind.ofJson? (isNothing : Json → Bool) : Json → Option AttributeKind
  | text name => ofName? name
  | object [(name, v)] => if isNothing v then ofName? name else none
  | _ => none

namespace AttributeRow

/-- The fields of an attribute. -/
def fieldNames : List String :=
  ["attributeId", "noteId", "type", "name", "value", "isInheritable", "position"]

/-- Reads an attribute. -/
def ofJson? (isNothing : Json → Bool) (v : Json) : Option AttributeRow := do
  let fields ← rowFields? fieldNames v
  return {
    id := ← required fields "attributeId" text?
    owner := ← required fields "noteId" text?
    kind := ← required fields "type" (AttributeKind.ofJson? isNothing)
    name := ← required fields "name" text?
    value := ← optional fields "value" text? ""
    isInheritable := ← optional fields "isInheritable" bool? false
    position := ← optional fields "position" int64? 0 }

end AttributeRow

/-! ## Snapshots -/

namespace Snapshot

/-- The fields of a snapshot. -/
def fieldNames : List String := ["notes", "branches", "attributes"]

/-- Reads a snapshot from its fields. -/
def ofFields? (isNothing : Json → Bool) (fields : List (String × Json)) : Option Snapshot := do
  return {
    notes := ← optional fields "notes" (list? NoteRow.ofJson?) []
    branches := ← optional fields "branches" (list? BranchRow.ofJson?) []
    attributes := ← optional fields "attributes" (list? (AttributeRow.ofJson? isNothing)) [] }

/-- Reads a snapshot. -/
def ofJson? (v : Json) : Option Snapshot := do ofFields? isNull (← rowFields? fieldNames v)

end Snapshot

/-- A snapshot together with the contents of notes. -/
structure SnapshotFile where
  snapshot : Snapshot
  /-- Notes with their contents; the last one counts. -/
  contents : List (NoteId × String) := []
  deriving DecidableEq, Repr

namespace SnapshotFile

/-- The content of a note. -/
def content? (f : SnapshotFile) (n : NoteId) : Option String := f.contents.reverse.lookup n

/-- Reads contents. -/
def contentsOfJson? : Json → Option (List (NoteId × String))
  | object fields => fields.mapM fun f => f.2.text?.map (f.1, ·)
  | _ => none

/-- Reads a snapshot and the contents of notes from a text, which is an object. -/
def ofText? (s : String) : Option SnapshotFile := do
  match ← Json.ofText? s with
  | object fields =>
    return {
      snapshot := ← Snapshot.ofFields? isBare fields
      contents := ← optional fields "contents" contentsOfJson? [] }
  | _ => none

end SnapshotFile

end Zettel
