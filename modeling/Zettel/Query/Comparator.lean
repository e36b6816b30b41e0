import Zettel.Pattern.Reader
import Zettel.Query.Operator
import Zettel.Query.ValueOrder
import Zettel.Text.Infix
import Zettel.Text.Quotation

/-!
# Comparators

An operator together with the value on its right, ready to be applied to the values of notes. Case
does not count. Equality and the order operators compare numbers as numbers.

Main statements: `build_text`, what is built has the given operator and the value in small letters,
and `admits_notEqual`, inequality is the complement of equality.
-/

namespace Zettel.Query

/-- An operator with the value that it compares with, in small letters. -/
structure Comparator where
  operator : Operator
  value : String
  /-- The value as a pattern, for the operator that takes one. -/
  pattern : Option Pattern

namespace Comparator

/-- Why there is no comparator. -/
inductive Error
  | unknownOperator (operator : String)
  | invalidRegex (pattern reason : String)
  deriving DecidableEq, Repr

/-- The wording of an error. -/
def Error.message : Error → String
  | unknownOperator op => "unknown operator " ++ Text.codeQuoted op
  | invalidRegex p reason => "invalid regex " ++ Text.codeQuoted p ++ ": " ++ reason

/-- Binds an operator to a value. -/
def new (op : Operator) (value : String) : Except Error Comparator :=
  let value := Text.lowercase value
  match op with
  | .regex =>
    match Pattern.read value with
    | .ok p => .ok ⟨op, value, some p⟩
    | .error e => .error (.invalidRegex value e.message)
  | _ => .ok ⟨op, value, none⟩

/-- Binds the operator that is written `operator` to a value. -/
def build (operator value : String) : Except Error Comparator :=
  match Operator.ofText? operator with
  | some op => new op value
  | none => .error (.unknownOperator operator)

/-- The value `candidate` passes the comparison. -/
def admits (c : Comparator) (candidate : String) : Bool :=
  let candidate := Text.lowercase candidate
  match c.operator with
  | .equal => compareText candidate c.value = .eq
  | .notEqual => compareText candidate c.value ≠ .eq
  | .contains => Text.occurs c.value candidate
  | .endsWith => Text.endsWith c.value candidate
  | .startsWith => Text.beginsWith c.value candidate
  | .regex => c.pattern.any (·.occursIn candidate)
  | .greater => compareText candidate c.value = .gt
  | .greaterOrEqual => compareText candidate c.value ≠ .lt
  | .less => compareText candidate c.value = .lt
  | .lessOrEqual => compareText candidate c.value ≠ .gt

/-! ## Building -/

theorem new_text {op : Operator} {value : String} {c : Comparator} (h : new op value = .ok c) :
    c.operator = op ∧ c.value = Text.lowercase value := by
  unfold new at h
  cases op with
  | regex =>
    dsimp only at h
    split at h
    · cases h; exact ⟨rfl, rfl⟩
    · cases h
  | _ => cases h; exact ⟨rfl, rfl⟩

/-- What is built has the given operator, and the value in small letters. -/
theorem build_text {operator value : String} {c : Comparator} (h : build operator value = .ok c) :
    c.operator.text = operator ∧ c.value = Text.lowercase value := by
  unfold build at h
  split at h
  · next op hop =>
    obtain ⟨rfl, hv⟩ := new_text h
    exact ⟨Operator.text_of_ofText? hop, hv⟩
  · cases h

/-- Inequality is the complement of equality. -/
theorem admits_notEqual (value : String) (p q : Option Pattern) (candidate : String) :
    admits ⟨.notEqual, value, p⟩ candidate = !admits ⟨.equal, value, q⟩ candidate := by
  simp [admits]

end Comparator

end Zettel.Query
