import Zettel.Query.Token

/-!
# Trees of tokens

Parentheses group the tokens of an expression. Every list of tokens has trees: a group that is not
closed ends with the query, and a closing parenthesis without an opening one is passed over. A
quoted parenthesis is an ordinary token.

Main statements: `nest_append`, tokens are nested one after the other, and `nest_of_plain`, tokens
without parentheses are their own trees.
-/

namespace Zettel.Query

/-- A token, or a group of trees that stood between parentheses. -/
inductive Tree
  | token (t : Token)
  | group (members : List Tree)
  deriving Repr

/-! ## Words -/

namespace Token

/-- The token is the unquoted text `s`. -/
def isWord (t : Token) (s : String) : Bool := !t.inQuotes && t.text = s

/-- The token is an opening parenthesis. -/
def isOpening (t : Token) : Bool := t.isWord "("

/-- The token is a closing parenthesis. -/
def isClosing (t : Token) : Bool := t.isWord ")"

end Token

namespace Tree

/-- The tree is the unquoted token `s`. -/
def isWord (s : String) : Tree → Bool
  | token t => t.isWord s
  | group _ => false

/-- The text of an unquoted token. -/
def word? : Tree → Option String
  | token t => if t.inQuotes then none else some t.text
  | group _ => none

/-- The text that a tree begins with. -/
def lead : Tree → String
  | token t => t.text
  | group _ => "("

/-! ## Nesting -/

/-- The groups that are open after some tokens. -/
structure Nesting where
  /-- The trees of the innermost group so far, the last one first. -/
  current : List Tree := []
  /-- The trees in front of each open group, the last ones first, and the innermost group first. -/
  outer : List (List Tree) := []
  /-- The number of closing parentheses that were passed over. -/
  stray : Nat := 0

namespace Nesting

/-- The groups that are open after one more token. -/
def push (s : Nesting) (t : Token) : Nesting :=
  if t.isOpening then { s with current := [], outer := s.current :: s.outer }
  else if t.isClosing then
    match s.outer with
    | [] => { s with stray := s.stray + 1 }
    | before :: outer => { s with current := group s.current.reverse :: before, outer := outer }
  else { s with current := token t :: s.current }

/-- The number of groups that are open. -/
def unclosed (s : Nesting) : Nat := s.outer.length

/-- The trees, if every open group ends here. -/
def trees (s : Nesting) : List Tree :=
  (s.outer.foldl (fun current before => group current.reverse :: before) s.current).reverse

end Nesting

/-- Groups tokens by their parentheses. -/
def nest (tokens : List Token) : Nesting := tokens.foldl Nesting.push {}

/-- The trees of a list of tokens. -/
def ofTokens (tokens : List Token) : List Tree := (nest tokens).trees

/-! ## One after the other -/

theorem nest_append (ts us : List Token) : nest (ts ++ us) = us.foldl Nesting.push (nest ts) :=
  List.foldl_append

private theorem foldl_push_plain (ts : List Token) (s : Nesting)
    (h : ∀ t ∈ ts, t.isOpening = false ∧ t.isClosing = false) :
    ts.foldl Nesting.push s = { s with current := (ts.map token).reverse ++ s.current } := by
  induction ts generalizing s with
  | nil => simp
  | cons t ts ih =>
    have ht := h t List.mem_cons_self
    rw [List.foldl_cons, ih _ fun u hu => h u (List.mem_cons_of_mem _ hu)]
    simp [Nesting.push, ht]

/-- Tokens without parentheses stand at the end of the innermost group. -/
theorem nest_append_plain (tokens : List Token) {ts : List Token}
    (h : ∀ t ∈ ts, t.isOpening = false ∧ t.isClosing = false) : nest (tokens ++ ts) =
      { nest tokens with current := (ts.map token).reverse ++ (nest tokens).current } := by
  rw [nest_append, foldl_push_plain ts _ h]

/-- Tokens without parentheses are their own trees. -/
theorem nest_of_plain {ts : List Token} (h : ∀ t ∈ ts, t.isOpening = false ∧ t.isClosing = false) :
    ofTokens ts = ts.map token := by
  simp [ofTokens, nest, foldl_push_plain ts {} h, Nesting.trees]

end Tree

end Zettel.Query
