import Zettel.Proofs.Graph.Closure
import Zettel.Proofs.Preorder

/-!
# The descent from a note

From a note the walk goes down to its children and, if users of templates are followed, then to the
notes that use it as their template. It keeps the notes that are still to be visited on a stack,
where a note may wait several times, and marks a note only when it comes to the top.

Main statement: `descent_inPreorder`, the walk is the one that the recursion describes, its loop
comes to an end, and it lists the notes that can be reached, each of them once.
-/

namespace Zettel.Graph

variable {g : Graph} {withUsers : Bool} {m n : NoteId}

/-- The notes that the walk goes down to from a note: its children and, if they are followed, the
notes that use it as their template. -/
def below (g : Graph) (withUsers : Bool) (n : NoteId) : List NoteId :=
  g.children n ++ if withUsers then g.templateUsers n else []

/-- The note and everything below it, with the users of templates or without. -/
def descent (g : Graph) (withUsers : Bool) (n : NoteId) : List NoteId :=
  if withUsers then g.subtreeWithUsers n else g.subtree n

/-- The list that the recursion over the notes below returns. -/
def descentByRecursion (g : Graph) (withUsers : Bool) (n : NoteId) : List NoteId :=
  (preorder g.notes.keys (g.below withUsers) [n] []).1

theorem descent_eq_walkDown : g.descent withUsers n = g.walkDown (g.below withUsers) n := by
  cases withUsers with
  | false =>
    have hbelow : g.below false = g.children := funext fun m => List.append_nil _
    rw [hbelow]
    rfl
  | true => rfl

/-- Only from existing notes does anything lead down. -/
theorem hasNote_of_mem_below (h : m ∈ g.below withUsers n) : g.hasNote n = true := by
  rcases List.mem_append.1 h with hchild | huser
  · exact hasNote_of_mem_children hchild
  · split_ifs at huser with hwith
    · obtain ⟨_, hid, -⟩ := mem_templateUsers.1 huser
      exact hasNote_of_mem_incoming hid
    · cases huser

/-- On the way to an existing note all notes exist. -/
theorem reaches_of_hasNote (hm : g.hasNote m = true)
    (h : Relation.ReflTransGen (fun a b => b ∈ g.below withUsers a) n m) :
    Relation.ReflTransGen (StepsTo g.hasNote (g.below withUsers)) n m := by
  induction h with
  | refl => exact .refl
  | tail _ hstep ih => exact (ih (hasNote_of_mem_below hstep)).tail ⟨hstep, hm⟩

/-- The walk lists the existing notes that can be reached. -/
theorem mem_descent_iff : m ∈ g.descent withUsers n ↔
    g.hasNote m = true ∧ Relation.ReflTransGen (fun a b => b ∈ g.below withUsers a) n m := by
  rw [descent_eq_walkDown]
  constructor
  · intro h
    obtain ⟨-, hreach⟩ := mem_walkDown_iff.1 h
    have hdrop : StepsTo g.hasNote (g.below withUsers) ≤ fun a b => b ∈ g.below withUsers a :=
      fun _ _ hstep => hstep.1
    exact ⟨hasNote_of_mem_walkDown h, Relation.ReflTransGen.mono hdrop _ _ hreach⟩
  · rintro ⟨hm, hreach⟩
    refine mem_walkDown_iff.2 ⟨?_, reaches_of_hasNote hm hreach⟩
    rcases Relation.ReflTransGen.cases_head hreach with rfl | ⟨_, hstep, -⟩
    · exact hm
    · exact hasNote_of_mem_below hstep

/-- The notes that are reached along `next` are listed in pre-order. -/
theorem inPreorder_walkDown (g : Graph) (next : NoteId → List NoteId) (n : NoteId) :
    InPreorder g.hasNote next [] [n] (g.walkDown next n) :=
  inPreorder_depthFirst (fun _ => Table.contains_iff) next g.noteCount [n] [] List.nodup_nil
    (by simp) (length_keys g).le

/-- **The walk down from a note is the recursive one in pre-order.** Its loop has emptied the stack
after as many turns as notes were put on it, and every note that can be reached is listed exactly
once. -/
theorem descent_inPreorder (g : Graph) (withUsers : Bool) (n : NoteId) :
    g.descent withUsers n = g.descentByRecursion withUsers n ∧
    (turn g.hasNote (g.below withUsers))^[turnsFor (g.below withUsers) [n]
      (g.descent withUsers n)] ([n], []) = ([], g.descent withUsers n) ∧
    (g.descent withUsers n).Nodup ∧
    ∀ m, m ∈ g.descent withUsers n ↔
      g.hasNote m = true ∧ Relation.ReflTransGen (fun a b => b ∈ g.below withUsers a) n m := by
  have hwalk := g.inPreorder_walkDown (g.below withUsers) n
  rw [← descent_eq_walkDown] at hwalk
  obtain ⟨visited, hvisited, hturns⟩ := hwalk.turns
  rw [List.nil_append] at hvisited
  subst hvisited
  exact ⟨hwalk.unique (inPreorder_preorder (fun _ => Table.contains_iff) _ _ _), hturns [],
    hwalk.nodup List.nodup_nil, fun _ => mem_descent_iff⟩

end Zettel.Graph
