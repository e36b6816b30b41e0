import Zettel.Query.Comparator
import Zettel.Query.Property
import Zettel.Row

/-!
# Expressions

What a query asks of a note, and the order of the results.
-/

namespace Zettel.Query

/-- What results are ordered by. -/
inductive OrderKey
  | property (p : Property)
  | label (name : String)
  deriving DecidableEq, Repr

/-- A key to order by, and in which direction. -/
structure OrderTerm where
  key : OrderKey
  descending : Bool := false
  deriving DecidableEq, Repr

/-- A condition on notes. Only the outermost one may order and limit the results. -/
inductive Expression
  | allOf (parts : List Expression)
  | anyOf (parts : List Expression)
  | not (part : Expression)
  /-- Every token occurs in the flat text. -/
  | fulltext (tokens : List String)
  /-- Every token occurs in the content of an unprotected note. -/
  | noteContent (operator : Operator) (tokens : List String)
  /-- Every token occurs in the decrypted content of a protected note. -/
  | protectedContent (operator : Operator) (tokens : List String)
  /-- An attribute has the name or, for `byBeginning`, a name that begins so. -/
  | attributeExists (kind : AttributeKind) (name : String) (byBeginning : Bool)
  /-- The value of an attribute passes the comparison. -/
  | attributeCompare (kind : AttributeKind) (name : String) (comparator : Comparator)
  /-- The target of a relation satisfies a condition. -/
  | relationWhere (name : String) (target : Expression)
  /-- The note lies in the subtree of a note that satisfies a condition. -/
  | descendantOf (ancestor : Expression)
  /-- Some parent satisfies a condition. -/
  | childOf (parent : Expression)
  /-- Some child satisfies a condition. -/
  | parentOf (child : Expression)
  /-- The value of a property passes the comparison. -/
  | propertyComparison (property : Property) (comparator : Comparator)
  | orderByAndLimit (inner : Expression) (order : List OrderTerm) (limit : Option Nat)

namespace Expression

/-- Joins conditions: nothing for none of them, and the condition itself for one. -/
def joined (wrap : List Expression → Expression) : List Expression → Option Expression
  | [] => none
  | [e] => some e
  | es => some (wrap es)

/-- The limit of an expression that limits its results without ordering them. -/
def unorderedLimit? : Expression → Option Nat
  | orderByAndLimit _ [] limit => limit
  | _ => none

end Expression

end Zettel.Query
