import Zettel.Graph.Basic

/-!
# Paths and their titles

The path that a result is shown under leads from the root note down to it. The shortest path that
avoids archived parents wins, and any shortest path where every path meets one. Of several equally
short paths, the order of the parents decides.
-/

namespace Zettel.Graph

/-! ## Shortest paths -/

/-- A path from some note down to a fixed one. -/
abbrev Path := List NoteId

/-- Puts the parents of the first note of a path in front of it, those that may be used and have not
been seen yet. -/
def extendUp (g : Graph) (mayUse : NoteId → Bool) (found : List Path × List NoteId) (path : Path) :
    List Path × List NoteId :=
  (g.parents (path.headD "")).foldl (fun (paths, seen) p =>
    if mayUse p && !seen.contains p then (paths ++ [p :: path], seen ++ [p])
    else (paths, seen)) found

/-- Searches upwards in rounds for the note `top`; `paths` are the ends of the last round. A round
adds a step to each path, so there are no more rounds than notes. -/
def searchUp (g : Graph) (mayUse : NoteId → Bool) (top : NoteId) :
    Nat → List Path → List NoteId → Option Path
  | 0, _, _ => none
  | rounds + 1, paths, seen =>
    match paths.find? (·.head? = some top) with
    | some path => some path
    | none =>
      match paths.foldl (g.extendUp mayUse) ([], seen) with
      | ([], _) => none
      | (next, seen) => searchUp g mayUse top rounds next seen

/-- The shortest path from `top` down to `n` with parents that may be used. -/
def shortestUp (g : Graph) (mayUse : NoteId → Bool) (n top : NoteId) : Option Path :=
  g.searchUp mayUse top (g.noteCount + 1) [[n]] [n]

/-- The path from `top` down to `n`, around archived parents if there is one around them. -/
def pathUpTo (g : Graph) (n top : NoteId) : Option Path :=
  if g.hasNote n then
    g.shortestUp (!g.archivesSubtree ·) n top <|> g.shortestUp (fun _ => true) n top
  else none

/-- The path from the root note down to `n` that passes through the note `hoisted`; an unknown
`hoisted` stands for the root note. -/
def somePath (g : Graph) (n hoisted : NoteId) : Option Path :=
  if hoisted = rootId || !g.hasNote hoisted then g.pathUpTo n rootId
  else do
    let above ← g.pathUpTo hoisted rootId
    let below ← g.pathUpTo n hoisted
    return above ++ below.drop 1

/-! ## Titles -/

/-- What is shown for the title of a protected note. -/
def protectedTitle : String := "[protected]"

/-- The title of `child` in its place under `parent`. -/
def noteTitle (g : Graph) (child parent : NoteId) : String :=
  match g.notes.get? child with
  | none => ""
  | some note =>
    let title := if note.isProtected && !note.isDecrypted then protectedTitle else note.title
    match (g.branchBetween? child parent).bind Branch.lead with
    | some lead => lead ++ " - " ++ title
    | none => title

/-- The titles of the notes of a path, of which the first stands under `parent`. -/
def titlesUnder (g : Graph) (parent : NoteId) : Path → List String
  | [] => []
  | n :: rest => g.noteTitle n parent :: g.titlesUnder n rest

/-- The titles of the notes of a path that come after the first `hoisted`. -/
def titlesBelow (g : Graph) (hoisted : NoteId) : Path → List String
  | [] => []
  | n :: rest => if n = hoisted then g.titlesUnder n rest else g.titlesBelow hoisted rest

/-- The title of a path: the titles below the note `hoisted`. A path that ends at this note, or has
only one note, has the title of its last note. -/
def pathTitle (g : Graph) (path : Path) (hoisted : NoteId) : String :=
  match path.reverse with
  | [only] => g.noteTitle only rootId
  | last :: parent :: _ =>
    if last = hoisted then g.noteTitle last parent
    else " / ".intercalate (g.titlesBelow hoisted path)
  | [] => ""

end Zettel.Graph
