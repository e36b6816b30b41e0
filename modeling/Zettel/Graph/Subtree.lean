import Zettel.Graph.Basic
import Zettel.Walk

/-!
# Subtrees and templates

What lies below a note, and which notes take over its attributes. A note uses another as its
template if it has a template relation to it, of its own or from a note above. Children are visited
in their order, and every note once, so cycles do no harm.
-/

namespace Zettel.Graph

/-- The notes reached from `n` along `next`, a note before its successors. -/
def walkDown (g : Graph) (next : NoteId → List NoteId) (n : NoteId) : List NoteId :=
  depthFirst g.hasNote next g.noteCount [n] []

/-- The note `n` and everything below it. -/
def subtree (g : Graph) (n : NoteId) : List NoteId := g.walkDown g.children n

/-- The notes that have the attribute `a`, a template relation, if it is one. -/
def reachedByTemplate (g : Graph) (a : Attribute) : List NoteId :=
  if a.isTemplate && g.hasNote a.owner then
    if a.isInheritable then g.subtree a.owner else [a.owner]
  else []

/-- The notes that use `n` as their template. -/
def templateUsers (g : Graph) (n : NoteId) : List NoteId :=
  addNew [] (((g.edges n).incoming.filterMap g.attributes.get?).flatMap g.reachedByTemplate)

/-- Some note uses `n` as its template. -/
def isTemplate (g : Graph) (n : NoteId) : Bool := !(g.templateUsers n).isEmpty

/-- The note `n`, everything below it, and the notes that use one of these as their template, with
everything below. -/
def subtreeWithUsers (g : Graph) (n : NoteId) : List NoteId :=
  g.walkDown (fun m => g.children m ++ g.templateUsers m) n

/-- The note `n`, the notes that use it as their template, the users of these, and so on. -/
def templatedNotes (g : Graph) (n : NoteId) : List NoteId :=
  if g.hasNote n then breadthFirst g.templateUsers g.noteCount [n] [n] else []

/-- The notes that an attribute applies to: those that use its owner as their template or, for an
inheritable attribute, lie below it. -/
def reachOf (g : Graph) (a : Attribute) : List NoteId :=
  if a.isInheritable then g.subtreeWithUsers a.owner else g.templatedNotes a.owner

end Zettel.Graph
