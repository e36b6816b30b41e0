/-!
# Comparison operators

The operators between a name and a value, and how they are written.
-/

namespace Zettel.Query

/-- How a value is compared with the one in the query. -/
inductive Operator
  | equal
  | notEqual
  | contains
  | endsWith
  | startsWith
  | regex
  | greater
  | greaterOrEqual
  | less
  | lessOrEqual
  deriving DecidableEq, Repr

namespace Operator

/-- Every operator. -/
def all : List Operator :=
  [equal, notEqual, contains, endsWith, startsWith, regex, greater, greaterOrEqual, less,
    lessOrEqual]

/-- The operator as it is written. -/
def text : Operator → String
  | equal => "="
  | notEqual => "!="
  | contains => "*=*"
  | endsWith => "*="
  | startsWith => "=*"
  | regex => "%="
  | greater => ">"
  | greaterOrEqual => ">="
  | less => "<"
  | lessOrEqual => "<="

/-- The operator that is written `s`. -/
def ofText? (s : String) : Option Operator := all.find? (·.text = s)

@[simp]
theorem ofText?_text (op : Operator) : ofText? op.text = some op := by cases op <;> decide

/-- Only an operator's own text reads as the operator. -/
theorem text_of_ofText? {s : String} {op : Operator} (h : ofText? s = some op) : op.text = s := by
  simpa using List.find?_some h

end Operator

/-! ## Operator characters -/

/-- The characters that operators are made of. -/
def operatorChars : List Char := ['=', '*', '!', '<', '>', '%']

/-- The character `c` can be part of an operator. -/
def isOperatorChar (c : Char) : Bool := operatorChars.contains c

/-- The text is made of operator characters only, whether it is an operator or not. -/
def isOperatorText (s : String) : Bool := !s.isEmpty && s.toList.all isOperatorChar

theorem isOperatorText_text (op : Operator) : isOperatorText op.text := by
  cases op <;> decide +kernel

end Zettel.Query
