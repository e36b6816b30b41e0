import Zettel.Number
import Zettel.Query.Path

/-!
# Clauses at the end of a query

`orderby` is followed by keys, each perhaps with its direction, and `limit` by a number. Commas
between keys change nothing. The last limit holds.
-/

namespace Zettel.Query

/-- What the clauses at the end of a query ask for. -/
structure Clauses where
  order : List OrderTerm := []
  limit : Option Nat := none
  report : Report := {}

namespace Clauses

/-- Puts a report in front. -/
def noting (r : Report) (c : Clauses) : Clauses := { c with report := r ++ c.report }

/-- Puts a key to order by in front, if there is one. -/
def ordered (term : Option OrderTerm) (c : Clauses) : Clauses :=
  { c with order := term.toList ++ c.order }

/-- Puts a limit in front; a later one holds. -/
def limited (n : Nat) (c : Clauses) : Clauses := { c with limit := c.limit.or (some n) }

end Clauses

/-! ## Keys -/

/-- What a name orders by: a property or, perhaps behind a marker, a label. -/
def OrderKey.ofName (name : String) : OrderKey :=
  match Property.ofName? name with
  | some p => .property p
  | none => .label (String.ofList (name.toList.dropWhile (· = '#')))

/-- Reads the direction after the key `name`. -/
def directed (name : String) (ts : List Tree) : Parsed OrderTerm :=
  let ascending : Parsed OrderTerm := ⟨some ⟨.ofName name, false⟩, ts, {}⟩
  match ts with
  | [] => ascending
  | t :: rest =>
    if t.isWord "desc" then ⟨some ⟨.ofName name, true⟩, rest, {}⟩
    else if t.isWord "asc" then { ascending with rest := rest }
    else ascending

/-- Reads a key to order by, of which the first word is `text`. -/
def orderTerm (text : String) (ts : List Tree) : Parsed OrderTerm :=
  if text = "note" then
    match ts with
    | [] => .fault (missingDot []) []
    | dot :: rest =>
      if dot.isWord "." then
        match rest with
        | [] => .fault .danglingDot []
        | name :: rest =>
          match name.word? with
          | some name => directed name rest
          | none => .fault .danglingDot rest
      else .fault (missingDot (dot :: rest)) (dot :: rest)
  else directed text ts

theorem rest_directed_suffix (name : String) (ts : List Tree) :
    (directed name ts).rest <:+ ts := by
  unfold directed
  split
  · exact List.suffix_refl _
  · split
    · exact List.suffix_cons ..
    · split
      · exact List.suffix_cons ..
      · exact List.suffix_refl _

theorem rest_orderTerm_suffix (text : String) (ts : List Tree) :
    (orderTerm text ts).rest <:+ ts := by
  unfold orderTerm
  split
  · split
    · exact List.suffix_refl _
    · next dot rest =>
      split
      · refine List.IsSuffix.trans ?_ (List.suffix_cons dot rest)
        split
        · exact List.suffix_refl _
        · split
          · exact (rest_directed_suffix ..).trans (List.suffix_cons ..)
          · exact List.suffix_cons ..
      · exact List.suffix_refl _
  · exact rest_directed_suffix ..

/-! ## Reading -/

/-- The word begins a clause. -/
def isClauseWord (s : String) : Bool := s = "orderby" || s = "limit"

/-- Reads clauses; `inOrder` says whether keys to order by may stand here. -/
def clauses (inOrder : Bool) : List Tree → Clauses
  | [] => {}
  | t :: rest =>
    match t.word? with
    | none => (clauses inOrder rest).noting (.fault (.unrecognizedExpression t.lead))
    | some text =>
      if text = "orderby" then clauses true rest
      else if text = "limit" then
        match rest with
        | [] => { report := .fault (.invalidLimit "") }
        | .group _ :: rest => (clauses false rest).noting (.fault (.invalidLimit ""))
        | .token n :: rest =>
          match Number.count? n.text with
          | some n => (clauses false rest).limited n
          | none => (clauses false rest).noting (.fault (.invalidLimit n.text))
      else if text = "," then clauses inOrder rest
      else if inOrder then
        let p := orderTerm text rest
        have : (orderTerm text rest).rest.length ≤ rest.length :=
          (rest_orderTerm_suffix text rest).length_le
        ((clauses true p.rest).ordered p.value).noting p.report
      else (clauses inOrder rest).noting (.fault (.unrecognizedExpression text))
termination_by ts => ts.length
decreasing_by all_goals (simp only [List.length_cons] at *; omega)

@[simp]
theorem clauses_nil (inOrder : Bool) : clauses inOrder [] = {} := by rw [clauses]

end Zettel.Query
