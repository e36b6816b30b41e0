import Std.Data.TreeSet
import Zettel.Row

/-!
# Sets of notes

A set of notes remembers the order in which its members came. The members are kept twice, in a list
for the order and in an index for look-ups.

Main statements: `ids_add`, what adding does to the list, and `add_fst`, adding tells whether the
note is new.
-/

namespace Zettel

/-- A set of notes. -/
structure NoteSet where
  /-- The members, in the order in which they came. -/
  ids : List NoteId := []
  /-- The members, for look-ups. -/
  index : Std.TreeSet NoteId := ∅
  /-- The order of the members was asked for. -/
  sorted : Bool := false

namespace NoteSet

/-- The set without members. -/
def empty : NoteSet := {}

/-- The note `n` is a member. -/
def has (s : NoteSet) (n : NoteId) : Bool := s.index.contains n

/-- Adds a note at the end, and tells whether it is new. -/
def add (s : NoteSet) (n : NoteId) : Bool × NoteSet :=
  if s.has n then (false, s) else (true, { s with ids := s.ids ++ [n], index := s.index.insert n })

/-- Adds notes, one after the other. -/
def addIds (s : NoteSet) (ns : List NoteId) : NoteSet := ns.foldl (fun s n => (s.add n).2) s

/-- The set of some notes. -/
def ofIds (ns : List NoteId) : NoteSet := empty.addIds ns

/-- Adds the members of another set. -/
def addAll (s t : NoteSet) : NoteSet := s.addIds t.ids

/-- The number of members. -/
def size (s : NoteSet) : Nat := s.ids.length

/-- The set has no members. -/
def isEmpty (s : NoteSet) : Bool := s.ids.isEmpty

/-- The members that satisfy `p`. -/
def filter (s : NoteSet) (p : NoteId → Bool) : NoteSet := ofIds (s.ids.filter p)

/-- The members that are also in `t`. -/
def intersection (s t : NoteSet) : NoteSet := s.filter t.has

/-- The members that are not in `t`. -/
def minus (s t : NoteSet) : NoteSet := s.filter (!t.has ·)

/-- The members of `s`, and after them those of `t` alone. -/
def union (s t : NoteSet) : NoteSet := { s with sorted := false }.addAll t

/-- Keeps the first members, at most `n` of them. -/
def truncate (s : NoteSet) (n : Nat) : NoteSet :=
  { s with ids := s.ids.take n, index := (s.ids.drop n).foldl Std.TreeSet.erase s.index }

/-- Sets are equal if they have the same members in the same order, and neither or both were
asked for. -/
instance : BEq NoteSet where
  beq s t := s.ids == t.ids && s.index.toList == t.index.toList && s.sorted == t.sorted

/-! ## Adding -/

@[simp]
theorem ids_empty : empty.ids = [] := rfl

/-- Adding puts a new note at the end of the list. -/
theorem ids_add (s : NoteSet) (n : NoteId) :
    (s.add n).2.ids = if s.has n then s.ids else s.ids ++ [n] := by
  unfold add
  split <;> rfl

/-- Adding tells whether the note is new. -/
theorem add_fst (s : NoteSet) (n : NoteId) : (s.add n).1 = !s.has n := by
  unfold add
  split <;> simp [*]

@[simp]
theorem has_add (s : NoteSet) (n m : NoteId) : (s.add n).2.has m = (n = m || s.has m) := by
  unfold add
  split
  · next h =>
    by_cases hm : n = m
    · subst hm; simp [h]
    · simp [hm]
  · simp [has, Std.TreeSet.contains_insert, Bool.beq_eq_decide_eq,
      Std.LawfulEqCmp.compare_eq_iff_eq]

end NoteSet

end Zettel
