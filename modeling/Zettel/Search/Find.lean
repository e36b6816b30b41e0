import Zettel.Graph.Path
import Zettel.Query.Read
import Zettel.Search.Evaluation
import Zettel.Search.Highlight

/-!
# Finding notes

A query is read, evaluated and answered by the paths of the notes that satisfy it. A search can be
confined to the notes below one of them. Results on short paths come first, unless the query orders
them. A fault in the query does not end the search, an expression that cannot be evaluated does.
-/

namespace Zettel.Search

open Query

/-- What a search is asked for besides the query. -/
structure Options where
  /-- Words may also occur in the content. -/
  includeContent : Bool := true
  /-- Attributes are searched by the beginning of their names. -/
  fuzzyAttributes : Bool := false
  /-- The note that the search is confined to; an unknown one stands for the root note. -/
  hoisted : NoteId := rootId
  limit : Option Nat := none
  deriving DecidableEq, Repr

/-- The options for reading the query. -/
def Options.reading (o : Options) : ReadOptions := ⟨o.includeContent, o.fuzzyAttributes⟩

/-- A note that was found. -/
structure Result where
  /-- The notes from the root note down to the one that was found. -/
  path : Graph.Path
  title : String
  /-- The title with the words of the query highlighted. -/
  highlighted : Option String := none
  deriving DecidableEq, Repr

namespace Result

/-- The note that was found. -/
def noteId (r : Result) : NoteId := r.path.getLastD ""

/-- The path as it is written. -/
def pathText (r : Result) : String := "/".intercalate r.path

/-- The result `r` is shown before `s`: it has a shorter path or, if the paths are equally long, the
lesser title. -/
def precedes (r s : Result) : Bool :=
  r.path.length < s.path.length || (r.path.length = s.path.length && r.title < s.title)

end Result

/-- What a search found, and the fault of the query, if it has one. -/
structure Outcome where
  results : List Result := []
  diagnostic : Option Diagnostic := none
  deriving DecidableEq, Repr

/-- The most results that a list for display has. -/
def maxShown : Nat := 200

/-! ## Results -/

/-- The note that a search is confined to. -/
def effectiveHoisted (g : Graph) (hoisted : NoteId) : NoteId :=
  if g.hasNote hoisted then hoisted else rootId

/-- The notes among which is searched. -/
def searchedNotes (g : Graph) (hoisted : NoteId) : NoteSet :=
  NoteSet.ofIds (if hoisted = rootId then g.noteIds else g.subtree hoisted)

/-- The result for a note, if a path leads to it through the note `hoisted`. -/
def resultOf? (g : Graph) (hoisted n : NoteId) : Option Result := do
  let path ← g.somePath n hoisted
  if path.contains hoisted then return { path, title := g.pathTitle path hoisted } else none

/-- Keeps the first results if there is a limit. -/
def takeLimit {α : Type} (limit : Option Nat) (xs : List α) : List α := limit.elim xs xs.take

/-- The results for the notes that satisfy an expression. -/
def findNotes (scope : Scope) (e : Expression) (o : Options) : Evaluation (List Result) := do
  let hoisted := effectiveHoisted scope.graph o.hoisted
  let found ← evaluate scope e (searchedNotes scope.graph hoisted)
  let results := found.ids.filterMap (resultOf? scope.graph hoisted)
  let ranked := if found.sorted then results else sortBy Result.precedes results
  return takeLimit o.limit (takeLimit e.unorderedLimit? ranked)

/-! ## Searches -/

/-- The results for a query that has been read. -/
def findQuery (scope : Scope) (q : ReadQuery) (o : Options) : Evaluation (List Result) :=
  match q.expression with
  | none => return []
  | some e => findNotes scope e o

/-- Searches for a query. A blank query finds nothing. -/
def search (scope : Scope) (query : String) (o : Options) : Evaluation Outcome :=
  if Text.isBlankText query then return {}
  else do
    let q := read o.reading query
    return ⟨← findQuery scope q o, q.diagnostic?⟩

/-- Searches for a query, and keeps the results for display; also tells the number of all
results. -/
def searchTrimmed (scope : Scope) (query : String) (o : Options) : Evaluation (Outcome × Nat) := do
  let outcome ← search scope query o
  return ({ outcome with results := outcome.results.take maxShown }, outcome.results.length)

/-- Adds the highlighted title to a result. -/
def highlightResult (g : Graph) (words : List String) (r : Result) : Reading Result :=
  return { r with highlighted := some (← highlighted g words r.noteId r.title) }

/-- Searches for a query that is being typed: attributes by the beginning of their names, no
content, and with highlighted titles. -/
def autocomplete (scope : Scope) (query : String) (o : Options) : Evaluation Outcome :=
  if Text.isBlankText query then return {}
  else do
    let q := read ⟨false, true⟩ query
    let results := (← findQuery scope q o).take maxShown
    let words := highlightWords q.highlighted
    return ⟨← results.mapM fun r => highlightResult scope.graph words r, q.diagnostic?⟩

end Zettel.Search
