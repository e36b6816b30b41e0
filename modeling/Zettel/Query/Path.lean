import Zettel.Query.Diagnostic
import Zettel.Query.Expression

/-!
# Paths

A path leads from a note to what is asked of it: along parents, children, ancestors or relations to
an attribute, a property or the content, which then may be compared with a value. A faulty path asks
nothing, and reading goes on after it.

Main statement: `rest_path_suffix`, a path leaves the end of what it is read from.
-/

namespace Zettel.Query

/-- Which faults and results the reading of a query chooses. -/
structure ReadOptions where
  /-- Words to look for may also occur in the content. -/
  includeContent : Bool := false
  /-- A beginning of an attribute's name is enough, and `=` only asks for an occurrence. -/
  fuzzyAttributes : Bool := false
  deriving DecidableEq, Repr

/-- What was read at the front of a list of trees: the result, if there is one, the trees that are
left, and what was noted. -/
structure Parsed (α : Type) where
  value : Option α
  rest : List Tree
  report : Report := {}

namespace Parsed

variable {α β : Type}

/-- Nothing was read for a fault. -/
def fault (d : Diagnostic) (rest : List Tree) : Parsed α := ⟨none, rest, .fault d⟩

/-- Changes the result. -/
def map (f : α → β) (p : Parsed α) : Parsed β := ⟨p.value.map f, p.rest, p.report⟩

/-- Puts a report in front. -/
def noting (r : Report) (p : Parsed α) : Parsed α := { p with report := r ++ p.report }

@[simp]
theorem rest_fault (d : Diagnostic) (rest : List Tree) :
    (fault d rest : Parsed α).rest = rest := rfl

@[simp]
theorem rest_map (f : α → β) (p : Parsed α) : (p.map f).rest = p.rest := rfl

@[simp]
theorem rest_noting (r : Report) (p : Parsed α) : (p.noting r).rest = p.rest := rfl

end Parsed

/-- The fault of trees that do not begin with a dot. -/
def missingDot (ts : List Tree) : Diagnostic := .expectedDot (ts.head?.map Tree.lead)

/-! ## Comparisons -/

/-- The text of an operator, whether there is such an operator or not. -/
def Tree.operator? (t : Tree) : Option String := t.word?.filter isOperatorText

/-- Reads the value that stands after an operator. -/
def comparison (operator : String) : List Tree → Parsed Comparator
  | .token t :: rest =>
    match Comparator.build operator t.text with
    | .ok c => ⟨some c, rest, .highlight t.text⟩
    | .error e => (Parsed.fault (.ofComparatorError e) rest).noting (.highlight t.text)
  | rest => .fault (.missingValue operator) rest

/-- Reads an operator and the value after it, which `subject` needs. -/
def neededComparison (subject : String) (ts : List Tree) : Parsed Comparator :=
  match ts with
  | [] => .fault (.missingValue subject) ts
  | t :: rest =>
    match t.operator? with
    | some op => comparison op rest
    | none => .fault (.missingValue subject) ts

/-- The operator that stands for a written one in the comparison of an attribute. -/
def ReadOptions.attributeOperator (o : ReadOptions) (operator : String) : String :=
  if o.fuzzyAttributes && operator = Operator.text .equal then Operator.text .contains
  else operator

/-! ## Names of attributes -/

/-- The name of an attribute behind a marker, which an exclamation mark negates. -/
structure MarkedName where
  kind : AttributeKind
  negated : Bool
  name : String
  deriving DecidableEq, Repr

namespace MarkedName

/-- Reads a marker and what follows it. -/
def ofText? (s : String) : Option MarkedName :=
  match s.toList with
  | '#' :: rest => some (afterMarker .label rest)
  | '~' :: rest => some (afterMarker .relation rest)
  | _ => none
where
  /-- What follows a marker. -/
  afterMarker (kind : AttributeKind) : List Char → MarkedName
    | '!' :: name => ⟨kind, true, String.ofList name⟩
    | name => ⟨kind, false, String.ofList name⟩

/-- The condition that is asked of the attribute, negated as the name is. -/
def signed (m : MarkedName) (e : Expression) : Expression := if m.negated then .not e else e

/-- Reads what is asked of the attribute with the reader `predicate`; the marker's token is
`text`. -/
def read (m : MarkedName) (text : String) (rest : List Tree)
    (predicate : AttributeKind → String → Parsed Expression) : Parsed Expression :=
  if m.name.isEmpty then .fault (.emptyAttributeName text) rest
  else (predicate m.kind m.name).map m.signed

end MarkedName

/-! ## Segments -/

/-- The notes that a path can turn to. -/
inductive Relative
  | parent
  | child
  | ancestor
  deriving DecidableEq, Repr

/-- The condition that some relative satisfies a condition; an ancestor may be the note itself. -/
def Relative.satisfies : Relative → Expression → Expression
  | parent => .childOf
  | child => .parentOf
  | ancestor => .descendantOf

/-- What an unquoted word in a path means. -/
inductive Segment
  | content
  | relatives (r : Relative)
  | attributes (kind : AttributeKind)
  | property (p : Property)
  | label
  deriving DecidableEq, Repr

/-- The meaning of a word; one without a meaning of its own is the name of a label. -/
def Segment.ofText : String → Segment
  | "content" => content
  | "parents" => relatives .parent
  | "children" => relatives .child
  | "ancestors" => relatives .ancestor
  | "labels" => attributes .label
  | "relations" => attributes .relation
  | s => ((Property.ofName? s).map property).getD label

/-- The condition that a text occurs in the content, whether the note is protected or not. -/
def contentCondition (c : Comparator) : Expression :=
  .anyOf [.noteContent c.operator [c.value], .protectedContent c.operator [c.value]]

/-! ## Reading -/

mutual

/-- Reads what is asked of the attributes with a name: a condition on the target of a relation, a
comparison of the value, or only that there is one. -/
def predicate (o : ReadOptions) (kind : AttributeKind) (name : String) :
    List Tree → Parsed Expression
  | [] => ⟨some (.attributeExists kind name o.fuzzyAttributes), [], .highlight name⟩
  | t :: rest =>
    if kind = .relation ∧ t.isWord "." then
      ((path o rest).map (.relationWhere name)).noting (.highlight name)
    else
      match t.operator? with
      | some op =>
        ((comparison (o.attributeOperator op) rest).map (.attributeCompare kind name)).noting
          (.highlight name)
      | none => ⟨some (.attributeExists kind name o.fuzzyAttributes), t :: rest, .highlight name⟩

/-- Reads what follows the dot of a path. -/
def path (o : ReadOptions) : List Tree → Parsed Expression
  | [] => .fault .danglingDot []
  | .group _ :: rest => .fault (.unrecognizedExpression "(") rest
  | .token t :: rest =>
    if t.inQuotes then predicate o .label t.text rest
    else
      match MarkedName.ofText? t.text with
      | some m => m.read t.text rest fun kind name => predicate o kind name rest
      | none =>
        match Segment.ofText t.text with
        | .content => (neededComparison t.text rest).map contentCondition
        | .property p => (neededComparison t.text rest).map (.propertyComparison p)
        | .label => predicate o .label t.text rest
        | .relatives r =>
          match rest with
          | [] => .fault (missingDot []) []
          | dot :: rest =>
            if dot.isWord "." then (path o rest).map r.satisfies
            else .fault (missingDot (dot :: rest)) (dot :: rest)
        | .attributes kind =>
          match rest with
          | [] => .fault (missingDot []) []
          | dot :: rest =>
            if dot.isWord "." then
              match rest with
              | [] => .fault .danglingDot []
              | .group _ :: rest => .fault (.unrecognizedExpression "(") rest
              | .token name :: rest => predicate o kind name.text rest
            else .fault (missingDot (dot :: rest)) (dot :: rest)

end

/-- Reads what stands after a marked name, of which `text` is the token. -/
def markedCondition (o : ReadOptions) (m : MarkedName) (text : String) (rest : List Tree) :
    Parsed Expression :=
  m.read text rest fun kind name => predicate o kind name rest

/-! ## What is left -/

theorem rest_comparison_suffix (op : String) (ts : List Tree) :
    (comparison op ts).rest <:+ ts := by
  unfold comparison
  split
  · split <;> exact List.suffix_cons ..
  · exact List.suffix_refl _

theorem rest_neededComparison_suffix (subject : String) (ts : List Tree) :
    (neededComparison subject ts).rest <:+ ts := by
  unfold neededComparison
  split
  · exact List.suffix_refl _
  · split
    · exact (rest_comparison_suffix _ _).trans (List.suffix_cons ..)
    · exact List.suffix_refl _

theorem rest_read_suffix {m : MarkedName} {text : String} {rest : List Tree}
    {predicate : AttributeKind → String → Parsed Expression}
    (h : ∀ kind name, (predicate kind name).rest <:+ rest) :
    (m.read text rest predicate).rest <:+ rest := by
  unfold MarkedName.read
  split
  · exact List.suffix_refl _
  · exact h _ _

mutual

theorem rest_predicate_suffix (o : ReadOptions) (kind : AttributeKind) (name : String)
    (ts : List Tree) : (predicate o kind name ts).rest <:+ ts := by
  cases ts with
  | nil => exact List.suffix_refl _
  | cons t rest =>
    rw [predicate]
    split
    · exact (rest_path_suffix o rest).trans (List.suffix_cons ..)
    · split
      · exact (rest_comparison_suffix _ rest).trans (List.suffix_cons ..)
      · exact List.suffix_refl _

/-- A path leaves the end of what it is read from. -/
theorem rest_path_suffix (o : ReadOptions) (ts : List Tree) : (path o ts).rest <:+ ts := by
  match ts with
  | [] => exact List.suffix_refl _
  | .group _ :: rest => exact List.suffix_cons ..
  | .token t :: rest =>
    refine List.IsSuffix.trans ?_ (List.suffix_cons (.token t) rest)
    rw [path]
    split
    · exact rest_predicate_suffix ..
    · split
      · exact rest_read_suffix fun kind name => rest_predicate_suffix o kind name rest
      · split
        · exact rest_neededComparison_suffix _ rest
        · exact rest_neededComparison_suffix _ rest
        · exact rest_predicate_suffix ..
        · match rest with
          | [] => exact List.suffix_refl _
          | dot :: rest =>
            dsimp only
            split
            · exact (rest_path_suffix o rest).trans (List.suffix_cons ..)
            · exact List.suffix_refl _
        · match rest with
          | [] => exact List.suffix_refl _
          | dot :: rest =>
            dsimp only
            split
            · refine List.IsSuffix.trans ?_ (List.suffix_cons dot rest)
              match rest with
              | [] => exact List.suffix_refl _
              | .group _ :: rest => exact List.suffix_cons ..
              | .token name :: rest =>
                exact (rest_predicate_suffix o _ _ rest).trans (List.suffix_cons ..)
            · exact List.suffix_refl _

end

theorem rest_markedCondition_suffix (o : ReadOptions) (m : MarkedName) (text : String)
    (rest : List Tree) : (markedCondition o m text rest).rest <:+ rest :=
  rest_read_suffix fun kind name => rest_predicate_suffix o kind name rest

end Zettel.Query
