import Zettel.Graph.Basic

/-!
# Remembered views

Views of a note that cost a walk through the graph are remembered until a change may have altered
them: its attributes, its ancestors and its flat text. A computation that reads the graph and fills
the memory is a `Reading`.
-/

namespace Zettel

/-- The attributes of a note, and those among them that notes below take over. -/
structure Attributes where
  all : List AttributeId
  inheritable : List AttributeId
  deriving DecidableEq, Repr

/-- What is remembered of one note. -/
structure NoteMemo where
  attributes : Option Attributes := none
  ancestors : Option (List NoteId) := none
  flatText : Option String := none
  deriving DecidableEq, Repr

/-- What is remembered of each note. -/
abbrev Memo := Table NoteId NoteMemo

/-- A computation that may use the memory and fill it. -/
abbrev Reading := StateM Memo

namespace Memo

/-- What is remembered of the note `n`. -/
def of (m : Memo) (n : NoteId) : NoteMemo := (m.get? n).getD {}

/-- Remembers more of the note `n`. -/
def remember (m : Memo) (n : NoteId) (f : NoteMemo → NoteMemo) : Memo := m.insert n (f (m.of n))

/-- Forgets everything about some notes. -/
def forget (m : Memo) (ns : List NoteId) : Memo := ns.foldl Table.erase m

/-- Forgets the flat texts of some notes. -/
def forgetText (m : Memo) (ns : List NoteId) : Memo :=
  ns.foldl (fun m n => m.modify n fun c => { c with flatText := none }) m

end Memo

end Zettel
