import Zettel.Proofs.NoteSet
import Zettel.Proofs.Query.ValueOrder
import Zettel.Proofs.Search.Outcome
import Zettel.Proofs.Sorting.Renaming

/-!
# Notes in the order of their values

A list of keys orders notes by their values: the first key under which these are different decides.
Two notes can always be compared, but the order of values may go round in circles, and then so does
the order of notes. A sort is right for all sets of some notes exactly if it does not go round in a
circle among them.

Main statements: `ordering_by_values`, what is right about the order of values and of notes, and
when, and `lost_circleGraph`, three notes that are sorted in pairs but not together.
-/

namespace Zettel

namespace Search

open Query

/-! ## Comparing notes -/

/-- The order of two notes by the values under some keys. -/
def compareNotes (scope : Scope) (memo : Memo) (order : List OrderTerm) (n m : NoteId) : Ordering :=
  compareByTerms order (orderValues scope.graph order n memo).1
    (orderValues scope.graph order m memo).1

theorem compareByTerms_swap (order : List OrderTerm) (as bs : List (Option String)) :
    (compareByTerms order as bs).swap = compareByTerms order bs as := by
  induction order generalizing as bs with
  | nil => rfl
  | cons term order ih =>
    match as, bs with
    | [], [] | [], _ :: _ | _ :: _, [] => rfl
    | a :: as, b :: bs =>
      simp only [compareByTerms, Ordering.swap_then, ih as bs]
      split <;> simp only [compareValues_swap]

variable {scope : Scope} {memo : Memo} {order : List OrderTerm} {notes : Set NoteId}

/-- Notes compared the other way round give the opposite. -/
theorem compareNotes_swap (n m : NoteId) :
    (compareNotes scope memo order n m).swap = compareNotes scope memo order m n :=
  compareByTerms_swap order _ _

theorem isLE_compareNotes_self (n : NoteId) : (compareNotes scope memo order n n).isLE := by
  have hswap : (compareNotes scope memo order n n).swap = compareNotes scope memo order n n :=
    compareNotes_swap n n
  cases hself : compareNotes scope memo order n n with
  | gt =>
    rw [hself] at hswap
    cases hswap
  | _ => rfl

/-- The order of two notes by their values under one key. -/
def compareUnder (scope : Scope) (memo : Memo) (term : OrderTerm) (n m : NoteId) : Ordering :=
  let values := compareValues (keyValue scope memo term.key n) (keyValue scope memo term.key m)
  if term.descending then values.swap else values

theorem compareUnder_swap (term : OrderTerm) (n m : NoteId) :
    (compareUnder scope memo term n m).swap = compareUnder scope memo term m n := by
  simp only [compareUnder]
  split <;> simp only [compareValues_swap]

theorem compareNotes_nil (n m : NoteId) : compareNotes scope memo [] n m = .eq := rfl

/-- The first key under which the values are different decides. -/
theorem compareNotes_cons (term : OrderTerm) (order : List OrderTerm) (n m : NoteId) :
    compareNotes scope memo (term :: order) n m =
      (compareUnder scope memo term n m).then (compareNotes scope memo order n m) := by
  have hvalues : ∀ order n, (orderValues scope.graph order n memo).1 =
      order.map fun term => keyValue scope memo term.key n := fun order n =>
    (yields_orderValues scope memo order n memo (.refl scope.graph memo)).1
  rw [compareNotes, compareNotes, hvalues, hvalues, hvalues, hvalues]
  rfl

/-- The notes are in order under a key as far as their values are, in whatever direction. -/
theorem transitiveOn_compareUnder_iff {term : OrderTerm} :
    TransitiveOn (compareUnder scope memo term) notes ↔
      TransitiveOn compareValues (keyValue scope memo term.key '' notes) := by
  simp only [TransitiveOn, Set.forall_mem_image, compareUnder]
  split
  · simp only [compareValues_swap]
    exact ⟨fun h n hn m hm k hk hnm hmk => h k hk m hm n hn hmk hnm,
      fun h n hn m hm k hk hnm hmk => h hk hm hn hmk hnm⟩
  · rfl

/-- If the values under every key are in order, so are the notes. -/
theorem transitiveOn_compareNotes
    (h : ∀ term ∈ order, TransitiveOn compareValues (keyValue scope memo term.key '' notes)) :
    TransitiveOn (compareNotes scope memo order) notes := by
  induction order with
  | nil => exact fun _ _ _ _ _ _ _ _ => rfl
  | cons term order ih =>
    obtain ⟨hterm, horder⟩ := List.forall_mem_cons.1 h
    have hfirst : Std.TransCmp fun n m : notes => compareUnder scope memo term n m :=
      (transitiveOn_compareUnder_iff.2 hterm).transCmp (compareUnder_swap term)
    have hrest : Std.TransCmp fun n m : notes => compareNotes scope memo order n m :=
      (ih horder).transCmp compareNotes_swap
    have hboth : Std.TransCmp (compareLex (fun n m : notes => compareUnder scope memo term n m)
        fun n m : notes => compareNotes scope memo order n m) := inferInstance
    intro n hn m hm k hk
    simp only [compareNotes_cons]
    exact @hboth.isLE_trans ⟨n, hn⟩ ⟨m, hm⟩ ⟨k, hk⟩

/-! ## Sorting notes -/

/-- Every set of these notes is sorted: there is a result, its members are those of the set, and
none of them comes after a later one. -/
def SortsAmong (scope : Scope) (memo : Memo) (order : List OrderTerm) (notes : Set NoteId) : Prop :=
  ∀ s : NoteSet, s.InStep → (∀ n ∈ s.ids, n ∈ notes) →
    ∃ sorted, ((sortNotes scope.graph s order).run memo).1 = .ok sorted ∧ sorted.sorted = true ∧
      sorted.ids.Perm s.ids ∧
      sorted.ids.Pairwise fun n m => (compareNotes scope memo order n m).isLE

/-- Of two notes with their values, the first one comes before the other. -/
def comesBefore (order : List OrderTerm) (x y : List (Option String) × NoteId) : Bool :=
  compareByTerms order x.1 y.1 = .lt

/-- The second does not come before the first exactly if the first is smaller or equal. -/
theorem comesBefore_eq_false_iff (x y : List (Option String) × NoteId) :
    comesBefore order y x = false ↔ (compareByTerms order x.1 y.1).isLE := by
  rw [comesBefore, ← compareByTerms_swap]
  cases compareByTerms order x.1 y.1 <;> decide

theorem sortNotes_eq {s : NoteSet} {sorted : List (List (Option String) × NoteId)}
    (h : sortByRuns (comesBefore order) (keyed scope memo s order) = some sorted) :
    ((sortNotes scope.graph s order).run memo).1 =
      .ok { NoteSet.ofIds (sorted.map Prod.snd) with sorted := true } := by
  have hsorted : sortByRuns (fun x y => compareByTerms order x.1 y.1 = .lt)
      (keyed scope memo s order) = some sorted := h
  rw [(delivers_sortNotes scope memo s order).fst, inOrder, hsorted]

/-- Reading the values to order by keeps the members and their order. -/
theorem map_snd_keyed (s : NoteSet) : (keyed scope memo s order).map Prod.snd = s.ids := by
  rw [keyed, List.map_map]
  exact List.map_id' s.ids

/-- Comparing the values that were read is comparing the notes. -/
theorem compareByTerms_of_mem_keyed {s : NoteSet} {x y : List (Option String) × NoteId}
    (hx : x ∈ keyed scope memo s order) (hy : y ∈ keyed scope memo s order) :
    compareByTerms order x.1 y.1 = compareNotes scope memo order x.2 y.2 := by
  obtain ⟨n, -, rfl⟩ := List.mem_map.1 hx
  obtain ⟨m, -, rfl⟩ := List.mem_map.1 hy
  rfl

theorem sortsAmong_of_transitiveOn (h : TransitiveOn (compareNotes scope memo order) notes) :
    SortsAmong scope memo order notes := by
  intro s hs hmem
  have hnotes : ∀ x ∈ keyed scope memo s order, x.2 ∈ notes := fun x hx =>
    hmem x.2 (map_snd_keyed s ▸ List.mem_map_of_mem hx)
  have htrans : ∀ x ∈ keyed scope memo s order, ∀ y ∈ keyed scope memo s order,
      ∀ z ∈ keyed scope memo s order, comesBefore order y x = false →
        comesBefore order z y = false → comesBefore order z x = false := by
    intro x hx y hy z hz
    rw [comesBefore_eq_false_iff, comesBefore_eq_false_iff, comesBefore_eq_false_iff,
      compareByTerms_of_mem_keyed hx hy, compareByTerms_of_mem_keyed hy hz,
      compareByTerms_of_mem_keyed hx hz]
    exact h _ (hnotes x hx) _ (hnotes y hy) _ (hnotes z hz)
  have hasymm : ∀ x ∈ keyed scope memo s order, ∀ y ∈ keyed scope memo s order,
      comesBefore order x y = true → comesBefore order y x = false := by
    intro x _ y _ hxy
    rw [comesBefore_eq_false_iff, of_decide_eq_true hxy]
    rfl
  obtain ⟨sorted, hsorted, horder⟩ := pairwise_sortByRuns_of_mem htrans hasymm
  have hperm := sortByRuns_perm hsorted
  have hids : (sorted.map Prod.snd).Perm s.ids :=
    (hperm.map Prod.snd).trans (.of_eq (map_snd_keyed s))
  have hmembers : (NoteSet.ofIds (sorted.map Prod.snd)).ids = sorted.map Prod.snd :=
    NoteSet.ids_ofIds (hids.nodup_iff.2 hs.nodup)
  refine ⟨_, sortNotes_eq hsorted, rfl, (List.Perm.of_eq hmembers).trans hids, ?_⟩
  change (NoteSet.ofIds (sorted.map Prod.snd)).ids.Pairwise _
  rw [hmembers, List.pairwise_map]
  refine horder.imp_of_mem fun {x y} hx hy hxy => ?_
  rwa [← compareByTerms_of_mem_keyed (hperm.mem_iff.1 hx) (hperm.mem_iff.1 hy),
    ← comesBefore_eq_false_iff]

/-- Few notes are left as they are if none comes before the one in front of it. -/
theorem sortNotes_of_isChain {ns : List NoteId} (hfew : ns.length ≤ 20) (hns : ns.Nodup)
    (h : ns.IsChain fun n m => (compareNotes scope memo order n m).isLE) :
    ((sortNotes scope.graph (.ofIds ns) order).run memo).1 =
      .ok { NoteSet.ofIds ns with sorted := true } := by
  have hids := NoteSet.ids_ofIds hns
  have hkept : sortByRuns (comesBefore order) (keyed scope memo (.ofIds ns) order) =
      some (keyed scope memo (.ofIds ns) order) := by
    rw [keyed, hids]
    refine sortByRuns_of_isChain (by rwa [List.length_map]) (List.isChain_map_of_isChain _ ?_ h)
    exact fun n m hnm => (comesBefore_eq_false_iff _ _).2 hnm
  rw [sortNotes_eq hkept, map_snd_keyed, hids]

theorem transitiveOn_of_sortsAmong (h : SortsAmong scope memo order notes) :
    TransitiveOn (compareNotes scope memo order) notes := by
  intro n hn m hm k hk hnm hmk
  by_cases hdifferent : [n, m, k].Nodup
  · -- the sort leaves the three notes as they are
    have hids := NoteSet.ids_ofIds hdifferent
    have hmem : ∀ l ∈ (NoteSet.ofIds [n, m, k]).ids, l ∈ notes := by
      rw [hids]
      simp [hn, hm, hk]
    obtain ⟨sorted, hsorted, -, -, horder⟩ := h (.ofIds [n, m, k]) (NoteSet.inStep_ofIds _) hmem
    rw [sortNotes_of_isChain (by simp) hdifferent
      (.cons_cons hnm (.cons_cons hmk (.singleton k)))] at hsorted
    obtain rfl := Except.ok.inj hsorted
    change (NoteSet.ofIds [n, m, k]).ids.Pairwise _ at horder
    rw [hids] at horder
    exact (List.pairwise_cons.1 horder).1 k (by simp)
  · -- two of the notes are the same
    have hsome : n = m ∨ m = k ∨ n = k := by
      by_contra hne
      simp_all
    obtain rfl | rfl | rfl := hsome
    · exact hmk
    · exact hnm
    · exact isLE_compareNotes_self n

/-- **Two values can always be compared, and exchanging them reverses their order. The order is
transitive exactly among values whose numbers rise around every text.** Numbers among themselves
have the order of the decimals that they are. So all sets of some notes are sorted by a list of
keys exactly if the order of these notes is transitive. For that it is enough that the numbers rise
under every key, and with a single key they have to. -/
theorem ordering_by_values (values : Set (Option String)) (scope : Scope) (memo : Memo)
    (notes : Set NoteId) :
    (∀ a b, (compareValues a b).swap = compareValues b a ∧
      ((compareValues a b).isLE ∨ (compareValues b a).isLE)) ∧
    (∀ a b d e, IsDecimal a d → IsDecimal b e → d.value ≤ e.value →
      (compareValues (some a) (some b)).isLE) ∧
    (TransitiveOn compareValues values ↔ NumbersRise (textsOf values)) ∧
    (∀ order, SortsAmong scope memo order notes ↔
      TransitiveOn (compareNotes scope memo order) notes) ∧
    (∀ order, (∀ term ∈ order, NumbersRise (textsOf (keyValue scope memo term.key '' notes))) →
      SortsAmong scope memo order notes) ∧
    ∀ term, SortsAmong scope memo [term] notes ↔
      NumbersRise (textsOf (keyValue scope memo term.key '' notes)) := by
  have henough : ∀ order,
      (∀ term ∈ order, NumbersRise (textsOf (keyValue scope memo term.key '' notes))) →
        SortsAmong scope memo order notes := fun order hrise =>
    sortsAmong_of_transitiveOn (transitiveOn_compareNotes fun term hterm =>
      (transitiveOn_compareValues_iff _).2 (hrise term hterm))
  refine ⟨fun a b => ⟨compareValues_swap a b, isLE_compareValues_total a b⟩,
    fun _ _ _ _ => isLE_compareValues_of_isDecimal, transitiveOn_compareValues_iff values,
    fun order => ⟨transitiveOn_of_sortsAmong, sortsAmong_of_transitiveOn⟩, henough,
    fun term => ⟨fun h => ?_, fun hrise => henough [term] (by simpa using hrise)⟩⟩
  have hnotes := transitiveOn_of_sortsAmong h
  simp only [TransitiveOn, compareNotes_cons, compareNotes_nil, Ordering.then_eq] at hnotes
  exact (transitiveOn_compareValues_iff _).1 (transitiveOn_compareUnder_iff.1 hnotes)

/-- The three titles follow each other in a circle. -/
def circleGraph : Graph :=
  (Vault.ofSnapshot { notes := [{ id := "a", title := "9" }, { id := "b", title := "10" },
    { id := "c", title := "1a" }] }).graph

/-- The order by title. -/
def titleOrder : List OrderTerm := [{ key := .property .title }]

/-- Two notes at a time are put in order, but the three are left so that the first comes after the
last. -/
theorem lost_circleGraph :
    (compareValues (some "9") (some "10") = .lt ∧ compareValues (some "10") (some "1a") = .lt ∧
      compareValues (some "9") (some "1a") = .gt) ∧
    (∀ ns ∈ [["a", "b"], ["b", "a"]],
      ((sortNotes circleGraph (.ofIds ns) titleOrder).run ∅).1.map NoteSet.ids = .ok ["a", "b"]) ∧
    (∀ ns ∈ [["b", "c"], ["c", "b"]],
      ((sortNotes circleGraph (.ofIds ns) titleOrder).run ∅).1.map NoteSet.ids = .ok ["b", "c"]) ∧
    (∀ ns ∈ [["a", "c"], ["c", "a"]],
      ((sortNotes circleGraph (.ofIds ns) titleOrder).run ∅).1.map NoteSet.ids = .ok ["c", "a"]) ∧
    ((sortNotes circleGraph (.ofIds ["a", "b", "c"]) titleOrder).run ∅).1.map NoteSet.ids =
      .ok ["a", "b", "c"] := by
  decide +kernel

end Search

end Zettel
