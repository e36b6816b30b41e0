import Zettel.Query.Comparator
import Zettel.Query.Tree

/-!
# Diagnostics

What can be wrong with a query. Reading goes on after a fault, so a faulty query still finds what
the rest of it asks for. The first fault is the one that is told.

Main statement: `Report.diagnostic?_append`, a fault hides those after it.
-/

namespace Zettel.Query

/-- A fault of a query. A fault at the end of a list of tokens has nothing `found`. -/
inductive Diagnostic
  /-- An operator with nothing in front of it to compare. -/
  | misplacedOperator (operator : String)
  /-- A token that begins no expression. -/
  | unrecognizedExpression (text : String)
  /-- A negation without the group that it negates. -/
  | notWithoutGroup (found : Option String)
  /-- A path without a dot where one has to stand. -/
  | expectedDot (found : Option String)
  /-- A path that ends with a dot. -/
  | danglingDot
  /-- A marker without a name after it. -/
  | emptyAttributeName (marker : String)
  /-- An operator, or a property, without a value after it. -/
  | missingValue (operator : String)
  | unknownOperator (operator : String)
  | invalidRegex (pattern reason : String)
  | invalidLimit (text : String)
  /-- A clause that has to stand at the end of the query inside a group. -/
  | misplacedOrdering (keyword : String)
  | unbalancedParenthesis (unclosed stray : Nat)
  deriving DecidableEq, Repr

namespace Diagnostic

/-- What was found, in a message. -/
def foundText (found : Option String) : String := found.getD "end of query"

/-- The wording of a fault. -/
def message : Diagnostic → String
  | misplacedOperator op => "misplaced or incomplete expression " ++ Text.quoted op
  | unrecognizedExpression s => "unrecognized expression " ++ Text.quoted s
  | notWithoutGroup found =>
    "not keyword should be followed by sub-expression in parenthesis, got " ++ foundText found
  | expectedDot found => "expected \".\" to separate field path, got " ++ foundText found
  | danglingDot => "field path ends with \".\""
  | emptyAttributeName s => "attribute name is missing in " ++ Text.quoted s
  | missingValue op => "operator " ++ Text.quoted op ++ " is missing a compared value"
  | unknownOperator op => "can't find operator " ++ Text.quoted op
  | invalidRegex p reason => "invalid regular expression " ++ Text.quoted p ++ ": " ++ reason
  | invalidLimit s => "limit must be a non-negative integer, got " ++ Text.quoted s
  | misplacedOrdering s => Text.quoted s ++ " is allowed only at the top level of the query"
  | unbalancedParenthesis unclosed stray =>
    "unbalanced parenthesis: " ++ toString unclosed ++ " unclosed, " ++ toString stray ++
      " without opening"

/-- The fault of a query with a comparison that cannot be made. -/
def ofComparatorError : Comparator.Error → Diagnostic
  | .unknownOperator op => unknownOperator op
  | .invalidRegex p reason => invalidRegex p reason

/-- The fault of parentheses that do not match. -/
def ofNesting? (s : Tree.Nesting) : Option Diagnostic :=
  if 0 < s.unclosed ∨ 0 < s.stray then some (unbalancedParenthesis s.unclosed s.stray) else none

end Diagnostic

/-! ## Reports -/

/-- What reading a part of a query notes: its faults, and the texts to highlight in results. -/
structure Report where
  faults : List Diagnostic := []
  highlighted : List String := []
  deriving DecidableEq, Repr

namespace Report

/-- Two reports, one after the other. -/
def append (r s : Report) : Report := ⟨r.faults ++ s.faults, r.highlighted ++ s.highlighted⟩

instance : Append Report := ⟨append⟩

/-- The report of one fault. -/
def fault (d : Diagnostic) : Report := ⟨[d], []⟩

/-- The report of a text to highlight; an empty one is not. -/
def highlight (s : String) : Report := ⟨[], if s.isEmpty then [] else [s]⟩

/-- The fault that is told. -/
def diagnostic? (r : Report) : Option Diagnostic := r.faults.head?

@[simp]
theorem faults_append (r s : Report) : (r ++ s).faults = r.faults ++ s.faults := rfl

@[simp]
theorem highlighted_append (r s : Report) :
    (r ++ s).highlighted = r.highlighted ++ s.highlighted := rfl

/-- A fault hides those after it. -/
theorem diagnostic?_append (r s : Report) :
    (r ++ s).diagnostic? = r.diagnostic?.or s.diagnostic? := by
  simp [diagnostic?, List.head?_append]

end Report

/-- Groups tokens by their parentheses, and notes what is wrong with these behind a report. -/
def Tree.ofTokensNoting (r : Report) (tokens : List Token) : List Tree × Report :=
  let nesting := nest tokens
  (nesting.trees, r ++ ⟨(Diagnostic.ofNesting? nesting).toList, []⟩)

end Zettel.Query
