/-!
# Json values

The values of the format that snapshots are written in. A number that is not written as an integer
is kept as it is written. The fields of an object are kept in order, with repetitions.
-/

namespace Zettel

/-- A value. -/
inductive Json
  | null
  | bool (b : Bool)
  | integer (i : Int)
  /-- A number with a fraction or an exponent, or minus zero. -/
  | number (literal : String)
  | text (s : String)
  | array (items : List Json)
  | object (fields : List (String × Json))

namespace Json

/-- The values that an object has for a field. -/
def values (name : String) (fields : List (String × Json)) : List Json :=
  fields.filterMap fun f => if f.1 = name then some f.2 else none

/-- The text, if the value is one. -/
def text? : Json → Option String
  | text s => some s
  | _ => none

/-- The truth value, if the value is one. -/
def bool? : Json → Option Bool
  | bool b => some b
  | _ => none

/-- The integer, if the value is written as one. -/
def integer? : Json → Option Int
  | integer i => some i
  | _ => none

/-- The items, if the value is an array. -/
def array? : Json → Option (List Json)
  | array items => some items
  | _ => none

end Json

end Zettel
