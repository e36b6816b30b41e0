import Zettel.Graph.Subtree
import Zettel.Graph.Views
import Zettel.NoteSet
import Zettel.Query.Expression
import Zettel.Search.Content
import Zettel.Sorting.Runs

/-!
# Evaluation

An expression keeps the notes of a set that satisfy it. The members stay in their order, unless the
expression orders them. An attribute counts for every note that it applies to, by inheritance or
through a template.
-/

namespace Zettel.Search

open Query

/-- What expressions are evaluated against. -/
structure Scope where
  graph : Graph
  sources : ContentSources := {}

/-- Why an expression cannot be evaluated. -/
inductive EvaluationError
  /-- Content is only searched for occurrences. -/
  | unsupportedContentOperator (operator : Operator)
  /-- A property that is true or false is only compared for equality. -/
  | unsupportedBooleanOperator (property : Property) (operator : Operator)
  deriving DecidableEq, Repr

/-- The wording of the error. -/
def EvaluationError.message : EvaluationError → String
  | unsupportedContentOperator op =>
    "search evaluation failed: note content can be searched only with *=* operator, got " ++ op.text
  | unsupportedBooleanOperator p op =>
    "search evaluation failed: unrecognized operator " ++ op.text ++ " for boolean property " ++
      p.name

/-- Why an evaluation comes to nothing. -/
inductive Failure
  /-- The expression cannot be evaluated. -/
  | error (e : EvaluationError)
  /-- The values to order by go round in circles, and the sort gives up. No caller is told: the
  program is aborted. -/
  | abort
  deriving DecidableEq, Repr

/-- An evaluation, which may fail; what it read of the graph is remembered all the same. -/
abbrev Evaluation := ExceptT Failure Reading

/-! ## Values -/

/-- A truth value as it is compared. -/
def truthText (b : Bool) : String := if b then "true" else "false"

/-- The value of a property of a note, if the note has one. -/
def propertyValue (g : Graph) (note : Note) : Property → Reading (Option String)
  | .noteId => return some note.id
  | .title => return some note.title
  | .noteType => return some note.noteType
  | .mime => return some note.mime
  | .isProtected => return some (truthText note.isProtected)
  | .isArchived => return some (truthText (← g.isArchived note.id))
  | .dateCreated => return note.dateCreated
  | .dateModified => return note.dateModified
  | .utcDateCreated => return note.utcDateCreated
  | .utcDateModified => return note.utcDateModified
  | .contentLength => return note.contentLength.map toString
  | .parentCount => return some (toString (g.parents note.id).length)
  | .childrenCount => return some (toString (g.children note.id).length)
  | .attributeCount => return some (toString (← g.attributeCount note.id))
  | .labelCount => return some (toString (← g.labelCount note.id))
  | .relationCount => return some (toString (← g.relationCount note.id))

/-! ## Members that satisfy a test -/

/-- The members of a set for which the test, which may read the graph, holds. -/
def filterReading (s : NoteSet) (test : NoteId → Reading Bool) : Reading NoteSet :=
  return NoteSet.ofIds (← s.ids.filterM test)

/-- The members that exist and for which the test holds. -/
def filterNotes (g : Graph) (s : NoteSet) (test : Note → Bool) : NoteSet :=
  s.filter fun n => (g.notes.get? n).any test

/-- Every token occurs in the text. -/
def containsAll (text : String) (tokens : List String) : Bool :=
  tokens.all (Text.occurs · text)

/-- The members with flat texts in which all tokens occur. -/
def filterFulltext (g : Graph) (s : NoteSet) (tokens : List String) : Reading NoteSet :=
  filterReading s fun n => return containsAll (← g.flatText n) tokens

/-- The unprotected members in whose content all tokens occur. -/
def filterContent (scope : Scope) (s : NoteSet) (tokens : List String) : NoteSet :=
  match scope.sources.plain with
  | none => .empty
  | some content =>
    filterNotes scope.graph s fun note =>
      !note.isProtected && isScannable note.noteType &&
        (content note.id).any fun text =>
          containsAll (searchable note.noteType note.mime text) tokens

/-- The protected members in whose decrypted content all tokens occur. A note that cannot be
decrypted is passed over. -/
def filterProtected (scope : Scope) (s : NoteSet) (tokens : List String) : NoteSet :=
  match scope.sources.decryptor.filter Decryptor.isAvailable with
  | none => .empty
  | some decryptor =>
    filterNotes scope.graph s fun note =>
      note.isProtected && isScannable note.noteType &&
        match decryptor.decrypt note.id with
        | .ok text => containsAll (searchable note.noteType note.mime text) tokens
        | .error _ => false

/-- The members with a property whose value passes a comparison. -/
def filterProperty (g : Graph) (s : NoteSet) (p : Property) (c : Comparator) : Reading NoteSet :=
  filterReading s fun n => do
    match g.notes.get? n with
    | none => return false
    | some note => return (← propertyValue g note p).any c.admits

/-! ## Attributes -/

/-- The attributes of a kind whose name is, or begins with, the given one. -/
def namedAttributes (g : Graph) (kind : AttributeKind) (name : String) (byBeginning : Bool) :
    List Attribute :=
  (if byBeginning then g.findAttributesBeginning kind name
    else g.findAttributes kind name).filterMap g.attributes.get?

/-- The notes that some attributes apply to. -/
def reachOfAll (g : Graph) (attributes : List Attribute) : NoteSet :=
  NoteSet.ofIds (attributes.flatMap g.reachOf)

/-! ## Order -/

/-- The value of a note that a key orders by. -/
def orderValue (g : Graph) (note : Note) : OrderKey → Reading (Option String)
  | .property p => propertyValue g note p
  | .label name => g.labelValue? note.id name

/-- The values of a note that a list of keys orders by; an unknown note has none of them. -/
def orderValues (g : Graph) (order : List OrderTerm) (n : NoteId) :
    Reading (List (Option String)) :=
  match g.notes.get? n with
  | none => return order.map fun _ => none
  | some note => order.mapM fun term => orderValue g note term.key

/-- The order of two lists of values: the first keys with different values decide. -/
def compareByTerms : List OrderTerm → List (Option String) → List (Option String) → Ordering
  | term :: order, a :: as, b :: bs =>
    let first := compareValues a b
    (if term.descending then first.swap else first).then (compareByTerms order as bs)
  | _, _, _ => .eq

/-- The members with the values that a list of keys orders by. -/
def keyedMembers (g : Graph) (s : NoteSet) (order : List OrderTerm) :
    Reading (List (List (Option String) × NoteId)) :=
  s.ids.mapM fun n => return (← orderValues g order n, n)

/-- Puts the members in order. -/
def sortNotes (g : Graph) (s : NoteSet) (order : List OrderTerm) : Evaluation NoteSet := do
  let keyed ← keyedMembers g s order
  match sortByRuns (fun x y => compareByTerms order x.1 y.1 = .lt) keyed with
  | none => throw .abort
  | some sorted => return { NoteSet.ofIds (sorted.map Prod.snd) with sorted := true }

/-! ## Evaluation -/

/-- Content can be searched with this operator. -/
def requireContentOperator (op : Operator) : Evaluation Unit :=
  if op = .contains then return else throw (.error (.unsupportedContentOperator op))

/-- A property can be compared with this operator. -/
def requirePropertyOperator (p : Property) (op : Operator) : Evaluation Unit :=
  if p.isBoolean && op ≠ .equal && op ≠ .notEqual then
    throw (.error (.unsupportedBooleanOperator p op))
  else return

/-- The members with a related note in the set that `matching` finds among all related notes. -/
def filterRelated (g : Graph) (s : NoteSet) (related : Note → List NoteId)
    (matching : NoteSet → Evaluation NoteSet) : Evaluation NoteSet := do
  let pool := NoteSet.ofIds ((s.ids.filterMap g.notes.get?).flatMap related)
  let found ← matching pool
  return filterNotes g s fun note => (related note).any found.has

mutual

/-- The members of a set that satisfy an expression. -/
@[simp]
def evaluate (scope : Scope) : Expression → NoteSet → Evaluation NoteSet
  | .allOf parts, s => evaluateAll scope parts s
  | .anyOf parts, s => evaluateAny scope parts s .empty
  | .not part, s => return s.minus (← evaluate scope part s)
  | .fulltext tokens, s => filterFulltext scope.graph s tokens
  | .noteContent op tokens, s => do
    requireContentOperator op
    return filterContent scope s tokens
  | .protectedContent op tokens, s => do
    requireContentOperator op
    return filterProtected scope s tokens
  | .attributeExists kind name byBeginning, s =>
    return s.intersection (reachOfAll scope.graph
      (namedAttributes scope.graph kind name byBeginning))
  | .attributeCompare kind name c, s =>
    return s.intersection (reachOfAll scope.graph
      ((namedAttributes scope.graph kind name false).filter (c.admits ·.value)))
  | .relationWhere name target, s => do
    let relations ← (namedAttributes scope.graph .relation name false).filterM fun a => do
      match a.target?.filter scope.graph.hasNote with
      | none => return false
      | some t => return (← evaluate scope target (NoteSet.ofIds [t])).has t
    return s.intersection (reachOfAll scope.graph relations)
  | .descendantOf ancestor, s => do
    let matching ← evaluate scope ancestor (NoteSet.ofIds scope.graph.noteIds)
    return s.intersection (NoteSet.ofIds (matching.ids.flatMap scope.graph.subtree))
  | .childOf parent, s =>
    filterRelated scope.graph s (·.edges.parents) fun pool => evaluate scope parent pool
  | .parentOf child, s =>
    filterRelated scope.graph s (·.edges.children) fun pool => evaluate scope child pool
  | .propertyComparison p c, s => do
    requirePropertyOperator p c.operator
    filterProperty scope.graph s p c
  | .orderByAndLimit inner order limit, s => do
    let found ← evaluate scope inner s
    if order.isEmpty then return found
    else
      let sorted ← sortNotes scope.graph found order
      return limit.elim sorted sorted.truncate

/-- The members that satisfy all parts, found part by part. -/
@[simp]
def evaluateAll (scope : Scope) : List Expression → NoteSet → Evaluation NoteSet
  | [], s => return s
  | part :: parts, s => do evaluateAll scope parts (← evaluate scope part s)

/-- Adds the members that satisfy some part, part by part, to those found already. -/
@[simp]
def evaluateAny (scope : Scope) : List Expression → NoteSet → NoteSet → Evaluation NoteSet
  | [], _, found => return found
  | part :: parts, s, found => do
    evaluateAny scope parts s (found.addAll (← evaluate scope part s))

end

end Zettel.Search
