import Zettel.Graph.Inheritance

/-!
# Views of a note

What search and display need to know about a note: its effective attributes and their values, its
ancestors, and its flat text, the small-letter text that fulltext search looks at.
-/

namespace Zettel.Graph

/-! ## Attributes -/

/-- The ids of the attributes of a note: its own, those inherited, those from templates. -/
def attributeIds (g : Graph) (n : NoteId) : Reading (List AttributeId) :=
  return (← g.attributesOf n).all

/-- The ids of the attributes that notes below `n` take over. -/
def inheritableIds (g : Graph) (n : NoteId) : Reading (List AttributeId) :=
  return (← g.attributesOf n).inheritable

/-- The attributes of a note. -/
def effective (g : Graph) (n : NoteId) : Reading (List Attribute) :=
  return (← g.attributeIds n).filterMap g.attributes.get?

/-- The value of the first attribute of a kind and name; the case of the name does not count. -/
def valueOf? (g : Graph) (n : NoteId) (kind : AttributeKind) (name : String) :
    Reading (Option String) := do
  let name := Text.lowercase name
  let attributes ← g.effective n
  return (attributes.find? fun a => a.kind = kind && a.name = name).map Attribute.value

/-- The note has an attribute of the kind and name. -/
def hasAttribute (g : Graph) (n : NoteId) (kind : AttributeKind) (name : String) : Reading Bool :=
  return (← g.valueOf? n kind name).isSome

/-- The value of the first label with a name. -/
def labelValue? (g : Graph) (n : NoteId) (name : String) : Reading (Option String) :=
  g.valueOf? n .label name

/-- The note that the first relation with a name points at, if it exists. -/
def relationTarget? (g : Graph) (n : NoteId) (name : String) : Reading (Option NoteId) :=
  return (← g.valueOf? n .relation name).filter g.hasNote

/-- The note is archived. -/
def isArchived (g : Graph) (n : NoteId) : Reading Bool :=
  g.hasAttribute n .label Attribute.archivedName

/-- The note is left out of fulltext search. -/
def isHidden (g : Graph) (n : NoteId) : Reading Bool := do
  let attributes ← g.effective n
  return attributes.any fun a =>
    a.isLabel && (a.name = Attribute.archivedName || a.name = Attribute.hiddenName)

/-- The number of attributes of a note that satisfy `p`. -/
def countAttributes (g : Graph) (n : NoteId) (p : Attribute → Bool) : Reading Nat :=
  return (← g.effective n).countP p

/-- The number of labels. -/
def labelCount (g : Graph) (n : NoteId) : Reading Nat := g.countAttributes n Attribute.isLabel

/-- The number of relations. -/
def relationCount (g : Graph) (n : NoteId) : Reading Nat :=
  g.countAttributes n fun a => !a.isLabel

/-- The number of attributes. -/
def attributeCount (g : Graph) (n : NoteId) : Reading Nat := g.countAttributes n fun _ => true

/-! ## Ancestors -/

/-- Adds to `seen` what is reached upwards from the note `n`, a parent before its own parents. -/
def climb (g : Graph) : Nat → NoteId → List NoteId → List NoteId
  | 0, _, seen => seen
  | depth + 1, n, seen =>
    (g.parents n).foldl
      (fun seen p => if seen.contains p then seen else g.climb depth p (seen ++ [p])) seen

/-- The ancestors of a note, without the note itself. -/
def ancestors (g : Graph) (n : NoteId) : Reading (List NoteId) := fun memo =>
  if g.hasNote n then
    match (memo.of n).ancestors with
    | some ns => (ns, memo)
    | none =>
      let ns := (g.climb g.noteCount n [n]).tail
      (ns, memo.remember n fun c => { c with ancestors := some ns })
  else ([], memo)

/-- The note `a` is the note `n` or one of its ancestors. -/
def isInAncestor (g : Graph) (n a : NoteId) : Reading Bool :=
  if n = a then return true else return (← g.ancestors n).contains a

/-! ## Flat text -/

/-- The leads under which a note is placed, each followed by a dash. -/
def leadText (g : Graph) (note : Note) : String :=
  String.join (note.edges.parentBranches.filterMap fun b =>
    ((g.branches.get? b).bind Branch.lead).map (· ++ " - "))

/-- An attribute in flat text: a mark for its kind, its name and its value. -/
def attributeText (a : Attribute) : String :=
  (if a.isLabel then " #" else " @") ++ a.name ++ (if a.value.isEmpty then "" else "=" ++ a.value)

/-- The flat text of a note that search may look at. -/
def fullText (g : Graph) (note : Note) (attributes : List Attribute) : String :=
  Text.lowercase (note.id ++ " " ++ g.leadText note ++ note.title ++ " " ++
    String.join (attributes.map attributeText))

/-- Puts the flat text of a note together; a hidden note has a blank one. -/
def buildText (g : Graph) (n : NoteId) (note : Note) : Reading String := do
  if ← g.isHidden n then return " " else return g.fullText note (← g.effective n)

/-- The flat text of a note. -/
def flatText (g : Graph) (n : NoteId) : Reading String := do
  match g.notes.get? n with
  | none => return ""
  | some note =>
    match ((← get).of n).flatText with
    | some text => return text
    | none =>
      let text ← g.buildText n note
      modify fun memo => memo.remember n fun c => { c with flatText := some text }
      return text

end Zettel.Graph
