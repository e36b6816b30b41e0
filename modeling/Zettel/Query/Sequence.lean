import Zettel.Query.Path

/-!
# Sequences of conditions

A query, or a group in it, is a sequence of conditions. Neighbours must hold together; `and` between
them changes nothing. An `or` parts the sequence into alternatives. What cannot be read is passed
over.
-/

namespace Zettel.Query

/-- A member of a sequence: a condition, or the word that parts alternatives. -/
inductive Item
  | condition (e : Expression)
  | orWord

namespace Item

/-- The conditions of each alternative. -/
def alternatives : List Item → List (List Expression)
  | [] => [[]]
  | orWord :: items => [] :: alternatives items
  | condition e :: items =>
    match alternatives items with
    | [] => [[e]]
    | first :: others => (e :: first) :: others

/-- The condition that a sequence stands for, if there is any condition in it. -/
def joined (items : List Item) : Option Expression :=
  Expression.joined .anyOf ((alternatives items).filterMap (Expression.joined .allOf))

/-- The item for a condition, if there is one. -/
def ofCondition? (e : Option Expression) : List Item := (e.map condition).toList

end Item

/-- The items of a sequence, and what was noted on the way. -/
structure Sequence where
  items : List Item := []
  report : Report := {}

namespace Sequence

/-- Puts items and a report in front. -/
def after (items : List Item) (r : Report) (s : Sequence) : Sequence :=
  ⟨items ++ s.items, r ++ s.report⟩

/-- Puts a fault in front. -/
def afterFault (d : Diagnostic) (s : Sequence) : Sequence := s.after [] (.fault d)

/-- The condition that the sequence stands for. -/
def condition (s : Sequence) : Option Expression := Item.joined s.items

end Sequence

/-! ## Words between conditions -/

/-- What an unquoted word in a sequence means. -/
inductive SequenceWord
  /-- `and`, or a marker without a name, which only begins the expression. -/
  | filler
  | orWord
  | notWord
  | noteWord
  /-- A clause that may only end the query. -/
  | clause
  | marked (m : MarkedName)
  | operator
  | unknown
  deriving DecidableEq, Repr

/-- The meaning of a word. -/
def SequenceWord.ofText : String → SequenceWord
  | "and" | "#" | "~" => filler
  | "or" => orWord
  | "not" => notWord
  | "note" => noteWord
  | "orderby" | "limit" => clause
  | s =>
    match MarkedName.ofText? s with
    | some m => marked m
    | none => if isOperatorText s then operator else unknown

/-! ## Reading -/

private theorem sizeOf_le_of_suffix {ts us : List Tree} (h : ts <:+ us) :
    sizeOf ts ≤ sizeOf us := by
  obtain ⟨front, rfl⟩ := h
  induction front with
  | nil => exact Nat.le_refl _
  | cons t front ih =>
    rw [List.cons_append, List.cons.sizeOf_spec]
    omega

/-- Reads a sequence. -/
def sequence (o : ReadOptions) : List Tree → Sequence
  | [] => {}
  | .group g :: rest =>
    let inner := sequence o g
    (sequence o rest).after (Item.ofCondition? inner.condition) inner.report
  | .token t :: rest =>
    if t.inQuotes then (sequence o rest).afterFault (.unrecognizedExpression t.text)
    else
      match SequenceWord.ofText t.text with
      | .filler => sequence o rest
      | .orWord => (sequence o rest).after [.orWord] {}
      | .notWord =>
        match rest with
        | .group g :: rest =>
          let inner := sequence o g
          (sequence o rest).after (Item.ofCondition? (inner.condition.map .not)) inner.report
        | rest => (sequence o rest).afterFault (.notWithoutGroup (rest.head?.map Tree.lead))
      | .noteWord =>
        match rest with
        | [] => { report := .fault (missingDot []) }
        | dot :: rest =>
          if dot.isWord "." then
            let p := path o rest
            have : sizeOf (path o rest).rest ≤ sizeOf rest :=
              sizeOf_le_of_suffix (rest_path_suffix o rest)
            (sequence o p.rest).after (Item.ofCondition? p.value) p.report
          else (sequence o (dot :: rest)).afterFault (missingDot (dot :: rest))
      | .clause => { report := .fault (.misplacedOrdering t.text) }
      | .marked m =>
        let p := markedCondition o m t.text rest
        have : sizeOf (markedCondition o m t.text rest).rest ≤ sizeOf rest :=
          sizeOf_le_of_suffix (rest_markedCondition_suffix o m t.text rest)
        (sequence o p.rest).after (Item.ofCondition? p.value) p.report
      | .operator => (sequence o rest).afterFault (.misplacedOperator t.text)
      | .unknown => (sequence o rest).afterFault (.unrecognizedExpression t.text)
termination_by ts => sizeOf ts
decreasing_by
  all_goals
    simp only [List.cons.sizeOf_spec, Tree.token.sizeOf_spec, Tree.group.sizeOf_spec] at *
    omega

@[simp]
theorem sequence_nil (o : ReadOptions) : sequence o [] = {} := by rw [sequence]

end Zettel.Query
