import Zettel.Proofs.Search.Answers
import Zettel.Search.Find

/-!
# The results of a search

A search reads the query, evaluates its expression for the notes that are searched, and looks up a
path for each note that was found. Only the evaluation can fail, and what was read of the graph
before makes no difference to what a search comes to.

Main statement: `Remembered.search_eq`, the results of a search from the outcome of the expression.
-/

namespace Zettel

namespace Query.Expression

theorem unorderedLimit?_of_hasLimit {e : Expression} (he : e.hasLimit = false) :
    e.unorderedLimit? = none := by
  unfold unorderedLimit?
  split
  · next inner limit =>
    rw [hasLimit, anyOrdering, Bool.or_eq_false_iff] at he
    simpa using he.1
  · rfl

end Query.Expression

namespace Search

open Query

/-- The results for the notes that were found, in the order in which they are shown. -/
def ranked (g : Graph) (hoisted : NoteId) (found : NoteSet) : List Result :=
  if found.sorted then found.ids.filterMap (resultOf? g hoisted)
  else sortBy Result.precedes (found.ids.filterMap (resultOf? g hoisted))

/-- The notes among which a search with the options `o` looks. -/
def searched (scope : Scope) (o : Options) : NoteSet :=
  searchedNotes scope.graph (effectiveHoisted scope.graph o.hoisted)

/-- What is left of the results by the limits of the expression and of the options. -/
def resultsFor (scope : Scope) (e : Expression) (o : Options) (found : NoteSet) : List Result :=
  takeLimit o.limit (takeLimit e.unorderedLimit?
    (ranked scope.graph (effectiveHoisted scope.graph o.hoisted) found))

variable {scope : Scope} {memo m : Memo} {o : Options} {query : String} {e : Expression}

theorem mem_ranked {g : Graph} {hoisted : NoteId} {found : NoteSet} {r : Result} :
    r ∈ ranked g hoisted found ↔ ∃ n ∈ found.ids, resultOf? g hoisted n = some r := by
  rw [ranked]
  split_ifs <;> simp [mem_sortBy, List.mem_filterMap]

theorem delivers_findNotes (scope : Scope) (memo : Memo) (e : Expression) (o : Options) :
    Delivers scope memo (findNotes scope e o)
      ((outcome scope memo e (searched scope o)).map (resultsFor scope e o)) :=
  (delivers_evaluate scope memo e (searched scope o)).bind fun _ => .pure _

/-- **A search fails as the evaluation does, and else shows the notes that were found.** -/
theorem Remembered.search_eq (hm : Remembered scope memo m)
    (hblank : Text.isBlankText query = false) (he : (read o.reading query).expression = some e) :
    ((search scope query o).run m).1 =
      (outcome scope memo e (searched scope o)).map fun found =>
        ⟨resultsFor scope e o found, (read o.reading query).diagnostic?⟩ := by
  have hsearch : search scope query o = do
      return ⟨← findNotes scope e o, (read o.reading query).diagnostic?⟩ := by
    rw [search, if_neg (by simp [hblank])]
    simp only [findQuery, he]
  have hdelivers : Delivers scope memo (search scope query o)
      ((outcome scope memo e (searched scope o)).map (resultsFor scope e o) >>= fun results =>
        .ok ⟨results, (read o.reading query).diagnostic?⟩) := by
    rw [hsearch]
    exact (delivers_findNotes scope memo e o).bind fun _ => .pure _
  refine (hdelivers m hm.grown).1.trans ?_
  cases outcome scope memo e (searched scope o) <;> rfl

theorem Remembered.results_eq (hm : Remembered scope memo m)
    (hblank : Text.isBlankText query = false) (he : (read o.reading query).expression = some e) :
    ((search scope query o).run m).1.map Outcome.results =
      (outcome scope memo e (searched scope o)).map (resultsFor scope e o) := by
  rw [hm.search_eq hblank he]
  cases outcome scope memo e (searched scope o) <;> rfl

end Search

end Zettel
