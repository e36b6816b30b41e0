import Zettel.Query.Clauses
import Zettel.Query.Sequence

/-!
# Reading a query

A query asks for the words in front of its expression, for the conditions of the expression, and for
an order and a limit. It need not ask for anything.
-/

namespace Zettel.Query

/-- What a query asks for, and what was noted while it was read. -/
structure ReadQuery where
  /-- The condition, if there is one. -/
  expression : Option Expression
  report : Report

namespace ReadQuery

/-- The fault that is told. -/
def diagnostic? (q : ReadQuery) : Option Diagnostic := q.report.diagnostic?

/-- The texts to highlight in results. -/
def highlighted (q : ReadQuery) : List String := q.report.highlighted

end ReadQuery

/-- The condition that words occur. -/
def wordsCondition (o : ReadOptions) (words : List String) : Option Expression :=
  if words.isEmpty then none
  else if o.includeContent then
    some (.anyOf [.fulltext words, .noteContent .contains words, .protectedContent .contains words])
  else some (.fulltext words)

/-- The report of the words to look for, all of which are highlighted. -/
def wordsReport (words : List String) : Report :=
  (words.map Report.highlight).foldl (· ++ ·) {}

/-- Reads the words of a query and the trees of its expression. -/
def readTrees (o : ReadOptions) (words : List Token) (trees : List Tree) : ReadQuery :=
  let texts := words.map Token.text
  let isClause (t : Tree) : Bool := t.word?.any isClauseWord
  let conditions := sequence o (trees.takeWhile (!isClause ·))
  let ending := clauses false (trees.dropWhile (!isClause ·))
  let condition := Expression.joined .allOf
    ((wordsCondition o texts).toList ++ conditions.condition.toList)
  let expression := condition.map fun e =>
    if ending.order.isEmpty && ending.limit.isNone then e
    else .orderByAndLimit e ending.order ending.limit
  ⟨expression, wordsReport texts ++ conditions.report ++ ending.report⟩

/-- Reads a query. -/
def read (o : ReadOptions) (query : String) : ReadQuery :=
  let tokens := lex query
  let nesting := Tree.nest tokens.expression
  let q := readTrees o tokens.fulltext nesting.trees
  { q with report := ⟨(Diagnostic.ofNesting? nesting).toList, []⟩ ++ q.report }

/-- What is wrong with the parentheses is noted before anything else. -/
theorem read_eq_ofTokensNoting (o : ReadOptions) (query : String) : read o query =
    let (trees, report) := Tree.ofTokensNoting {} (lex query).expression
    let q := readTrees o (lex query).fulltext trees
    { q with report := report ++ q.report } := rfl

/-- A query of words alone asks for them, and for nothing else. -/
theorem expression_read_of_words (o : ReadOptions) {query : String}
    (h : (lex query).expression = []) :
    (read o query).expression = wordsCondition o ((lex query).fulltext.map Token.text) := by
  have hread : (read o query).expression = (readTrees o (lex query).fulltext []).expression := by
    rw [read, h]
    rfl
  rw [hread, readTrees]
  simp only [List.takeWhile_nil, List.dropWhile_nil, sequence_nil, clauses_nil]
  cases wordsCondition o ((lex query).fulltext.map Token.text) <;> rfl

end Zettel.Query
