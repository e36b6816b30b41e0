import Zettel.Graph.Memo
import Zettel.Walk

/-!
# Inheritance of attributes

A note has the attributes that stand on it, the inheritable ones of its parents, and all attributes
of the notes that it uses as templates. A template relation counts wherever it came from. The
attributes are collected by a recursion along parents and templates that carries the path of notes
it came by and is cut at a note that lies on the path. What was collected while something was cut is
returned but not remembered, since it depends on where the recursion started.
-/

namespace Zettel.Graph

/-- Attributes that were collected; the collection is complete if the recursion was cut nowhere. -/
structure Collected where
  attributes : Attributes
  isComplete : Bool

/-- Nothing, where the recursion is cut. -/
def Collected.cut : Collected := ⟨⟨[], []⟩, false⟩

/-- Nothing, from a note that does not exist. -/
def Collected.nothing : Collected := ⟨⟨[], []⟩, true⟩

/-- The state of a collection: the ids so far, whether they are complete, and the memory. -/
structure Gathering where
  ids : List AttributeId
  isComplete : Bool
  memo : Memo

/-- Adds to the ids those that `pick` chooses from the attributes of each source. -/
def Gathering.addAll (s : Gathering) (g : Graph) (collect : NoteId → Memo → Collected × Memo)
    (pick : Attributes → List AttributeId) (sources : List NoteId) : Gathering :=
  sources.foldl (fun s n =>
    let (c, memo) := collect n s.memo
    { ids := addNew s.ids ((pick c.attributes).filter g.attributes.contains)
      isComplete := s.isComplete && c.isComplete
      memo := memo }) s

/-- The notes that the template relations among some attributes point at. -/
def templateTargets (g : Graph) (ids : List AttributeId) : List NoteId :=
  ((ids.filterMap g.attributes.get?).filter Attribute.isTemplate).map Attribute.value

/-- The attributes among `ids` that notes below take over. -/
def inheritableAmong (g : Graph) (ids : List AttributeId) : List AttributeId :=
  ids.filter fun id => (g.attributes.get? id).any Attribute.isInheritable

/-- Collects the attributes of the note `n`, where `path` holds the notes that the recursion came
by. The recursion may go `depth` notes deep; since no note occurs on a path twice, one more than the
number of notes is always enough. -/
def collect (g : Graph) : Nat → List NoteId → NoteId → Memo → Collected × Memo
  | 0, _, _, memo => (.cut, memo)
  | depth + 1, path, n, memo =>
    match g.notes.get? n with
    | none => (.nothing, memo)
    | some note =>
      if path.contains n then (.cut, memo)
      else match (memo.of n).attributes with
        | some attributes => (⟨attributes, true⟩, memo)
        | none =>
          let collectMore := collect g depth (n :: path)
          let s : Gathering := ⟨addNew [] note.edges.owned, true, memo⟩
          let s := if n = rootId then s
            else s.addAll g collectMore Attributes.inheritable note.edges.parents
          let s := s.addAll g collectMore Attributes.all (g.templateTargets s.ids)
          let attributes : Attributes := ⟨s.ids, g.inheritableAmong s.ids⟩
          (⟨attributes, s.isComplete⟩,
            if s.isComplete then s.memo.remember n fun c => { c with attributes := some attributes }
            else s.memo)

/-- The attributes of a note and the inheritable ones among them. -/
def attributesOf (g : Graph) (n : NoteId) : Reading Attributes := fun memo =>
  let (c, memo) := g.collect (g.noteCount + 1) [] n memo
  (c.attributes, memo)

end Zettel.Graph
