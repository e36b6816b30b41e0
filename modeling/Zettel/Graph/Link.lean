import Zettel.Graph.Basic

/-!
# Linking

Branches and attributes enter the tables, and the edges follow. A branch whose child is unknown
waits in its table; one whose parent is unknown is noted on its child and joins nothing yet; and of
several branches between the same two notes the first one joins them. The root note has no parents.
-/

namespace Zettel.Graph

/-! ## Branches -/

/-- Joins the two notes of a branch, as far as they are known and not joined yet. -/
def linkBranch (g : Graph) (b : Branch) : Graph :=
  if g.hasNote b.child then
    let g := g.modifyEdges b.child fun e =>
      if e.parentBranches.contains b.id then e
      else { e with parentBranches := e.parentBranches ++ [b.id] }
    if b.child = rootId || !g.hasNote b.parent || g.placements.contains (b.child, b.parent) then g
    else
      let g := { g with placements := g.placements.insert (b.child, b.parent) b.id }
      let g := g.modifyEdges b.child fun e => { e with parents := e.parents ++ [b.parent] }
      g.modifyEdges b.parent fun e => { e with children := e.children ++ [b.child] }
  else g

/-- Puts a branch into its table and joins its notes. -/
def addBranch (g : Graph) (b : Branch) : Graph :=
  let g := g.linkBranch b
  { g with branches := g.branches.insert b.id b }

/-- Separates the notes of a branch that has left its table. -/
def unlinkBranch (g : Graph) (b : Branch) : Graph :=
  let pair := (b.child, b.parent)
  let g := if g.placements.get? pair = some b.id then
      { g with placements := g.placements.erase pair }
    else g
  let g := g.modifyEdges b.child fun e =>
    { e with
      parentBranches := e.parentBranches.filter (· ≠ b.id)
      parents := e.parents.erase b.parent }
  g.modifyEdges b.parent fun e => { e with children := e.children.erase b.child }

/-! ## Order of edges -/

/-- The position of a child under a parent; 0 if nothing places it there. -/
def positionUnder (g : Graph) (parent child : NoteId) : Int :=
  match g.branchBetween? child parent with
  | some b => b.position
  | none => 0

/-- Puts the children of a note in the order of their positions. -/
def sortChildren (g : Graph) (parent : NoteId) : Graph :=
  g.modifyEdges parent fun e => { e with children := sortOn (g.positionUnder parent) e.children }

/-- Moves the parents that archive their subtrees behind the others. -/
def resortParents (g : Graph) (n : NoteId) : Graph :=
  g.modifyEdges n fun e =>
    { e with parents :=
        e.parents.filter (!g.archivesSubtree ·) ++ e.parents.filter (g.archivesSubtree ·) }

/-! ## Attributes -/

/-- Puts an attribute on its owner; `none` if the owner is unknown. -/
def addAttribute? (g : Graph) (a : Attribute) : Option Graph :=
  if g.hasNote a.owner then
    let g := g.modifyEdges a.owner fun e => { e with owned := e.owned ++ [a.id] }
    let key := (a.kind, a.name)
    let g := { g with index := g.index.insert key ((g.index.get? key).getD [] ++ [a.id]) }
    let g := match a.target? with
      | some target => g.modifyEdges target fun e => { e with incoming := e.incoming ++ [a.id] }
      | none => g
    some { g with attributes := g.attributes.insert a.id a }
  else none

/-- Takes an attribute off its owner and its target and out of the look-ups. -/
def removeAttribute (g : Graph) (a : Attribute) : Graph :=
  let g := { g with attributes := g.attributes.erase a.id }
  let g := g.modifyEdges a.owner fun e => { e with owned := e.owned.filter (· ≠ a.id) }
  let key := (a.kind, a.name)
  let rest := ((g.index.get? key).getD []).filter (· ≠ a.id)
  let g := { g with
    index := if rest.isEmpty then g.index.erase key else g.index.insert key rest }
  match a.target? with
  | some target => g.modifyEdges target fun e => { e with incoming := e.incoming.filter (· ≠ a.id) }
  | none => g

end Zettel.Graph
