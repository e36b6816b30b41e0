import Mathlib.Data.List.Nodup
import Zettel.NoteSet

/-!
# Sets of notes in step

The list and the index of a set of notes hold the same notes, each of them once. Every operation
keeps them in step, and then the members of its result are what its name says, in the order of the
members that it was given.

Main statements: `Built.inStep`, the list and the index of every set that the operations build are
in step, and `Built.members_in_order`, how each operation lists its result.
-/

namespace Zettel.NoteSet

variable {s t : NoteSet} {n m : NoteId} {ns : List NoteId} {p : NoteId → Bool}

/-- The list and the index hold the same notes, and the list holds each once. -/
structure InStep (s : NoteSet) : Prop where
  nodup : s.ids.Nodup
  has_iff : ∀ n, s.has n = true ↔ n ∈ s.ids

/-- The index tells which ids there are. -/
theorem InStep.has_eq (h : s.InStep) (n : NoteId) : s.has n = decide (n ∈ s.ids) := by
  rw [Bool.eq_iff_iff, h.has_iff, decide_eq_true_iff]

/-! ## Adding -/

theorem inStep_empty : empty.InStep where
  nodup := List.nodup_nil
  has_iff n := by simp [empty, has]

/-- To add a member adds nothing else, whether it was there or not. -/
theorem InStep.mem_add (h : s.InStep) : m ∈ (s.add n).2.ids ↔ m ∈ s.ids ∨ m = n := by
  rw [ids_add]
  split_ifs with hn
  · refine ⟨Or.inl, fun hm => hm.elim id ?_⟩
    rintro rfl
    exact (h.has_iff m).1 hn
  · simp

theorem InStep.add (h : s.InStep) (n : NoteId) : (s.add n).2.InStep where
  nodup := by
    rw [ids_add]
    split_ifs with hn
    · exact h.nodup
    · rw [h.has_iff] at hn
      exact (List.nodup_cons.2 ⟨hn, h.nodup⟩).perm (List.perm_append_singleton _ _).symm
  has_iff m := by
    rw [has_add, h.mem_add, Bool.or_eq_true, decide_eq_true_eq, h.has_iff, or_comm, eq_comm]

/-- Index and list stay in step when many are added. -/
theorem InStep.addIds (h : s.InStep) (ns : List NoteId) : (s.addIds ns).InStep :=
  List.foldlRecOn ns _ h fun _ h n _ => h.add n

theorem InStep.mem_addIds (h : s.InStep) : m ∈ (s.addIds ns).ids ↔ m ∈ s.ids ∨ m ∈ ns := by
  induction ns generalizing s with
  | nil => simp [NoteSet.addIds]
  | cons n ns ih =>
    have hcons : s.addIds (n :: ns) = (s.add n).2.addIds ns := rfl
    rw [hcons, ih (h.add n), h.mem_add, List.mem_cons, or_assoc]

/-- Of notes that differ from one another, those that are new come behind the members. -/
theorem InStep.ids_addIds (h : s.InStep) (hns : ns.Nodup) :
    (s.addIds ns).ids = s.ids ++ ns.filter (· ∉ s.ids) := by
  induction ns generalizing s with
  | nil => simp [NoteSet.addIds]
  | cons n ns ih =>
    obtain ⟨hn, hns⟩ := List.nodup_cons.1 hns
    have hcons : s.addIds (n :: ns) = (s.add n).2.addIds ns := rfl
    have hrest : ns.filter (· ∉ (s.add n).2.ids) = ns.filter (· ∉ s.ids) := by
      refine List.filter_congr fun m hm => ?_
      have hne : m ≠ n := fun e => hn (e ▸ hm)
      simp [h.mem_add, hne]
    rw [hcons, ih (h.add n) hns, hrest, ids_add]
    by_cases hmem : n ∈ s.ids
    · rw [if_pos ((h.has_iff n).2 hmem), List.filter_cons_of_neg (by simpa using hmem)]
    · rw [if_neg (mt (h.has_iff n).1 hmem), List.filter_cons_of_pos (by simpa using hmem),
        List.append_assoc, List.singleton_append]

/-- A set of listed ids has its index and its list in step, though ids be listed twice. -/
theorem inStep_ofIds (ns : List NoteId) : (ofIds ns).InStep := inStep_empty.addIds ns

/-- Different notes keep their order in a set. -/
theorem ids_ofIds (hns : ns.Nodup) : (ofIds ns).ids = ns := by
  rw [ofIds, inStep_empty.ids_addIds hns]
  simp

@[simp]
theorem mem_ofIds : m ∈ (ofIds ns).ids ↔ m ∈ ns := by
  rw [ofIds, inStep_empty.mem_addIds]
  simp

theorem InStep.addAll (h : s.InStep) (t : NoteSet) : (s.addAll t).InStep := h.addIds t.ids

theorem InStep.mem_addAll (h : s.InStep) : m ∈ (s.addAll t).ids ↔ m ∈ s.ids ∨ m ∈ t.ids :=
  h.mem_addIds

/-! ## Choosing -/

/-- A filtered set is built anew, so it is in step whatever it was filtered from. -/
theorem inStep_filter (s : NoteSet) (p : NoteId → Bool) : (s.filter p).InStep := inStep_ofIds _

@[simp]
theorem mem_filter : m ∈ (s.filter p).ids ↔ m ∈ s.ids ∧ p m = true := by
  rw [filter, mem_ofIds, List.mem_filter]

/-- Members are chosen in their order. -/
theorem InStep.ids_filter (h : s.InStep) (p : NoteId → Bool) :
    (s.filter p).ids = s.ids.filter p := ids_ofIds (h.nodup.filter p)

/-- The members in common stand in the order of the first set. -/
theorem InStep.ids_intersection (h : s.InStep) (ht : t.InStep) :
    (s.intersection t).ids = s.ids.filter (· ∈ t.ids) := by
  rw [intersection, h.ids_filter]
  exact List.filter_congr fun n _ => ht.has_eq n

/-- The members that are left keep their order. -/
theorem InStep.ids_minus (h : s.InStep) (ht : t.InStep) :
    (s.minus t).ids = s.ids.filter (· ∉ t.ids) := by
  rw [minus, h.ids_filter]
  refine List.filter_congr fun n _ => ?_
  rw [ht.has_eq, decide_not]

theorem InStep.mem_minus (ht : t.InStep) : m ∈ (s.minus t).ids ↔ m ∈ s.ids ∧ m ∉ t.ids := by
  rw [minus, mem_filter, Bool.not_eq_true', ← Bool.not_eq_true, ht.has_iff]

/-! ## Joining and cutting -/

/-- Whether an order was asked for makes no difference. -/
theorem InStep.withSorted (h : s.InStep) (b : Bool) : { s with sorted := b }.InStep :=
  ⟨h.nodup, h.has_iff⟩

theorem InStep.union (h : s.InStep) (t : NoteSet) : (s.union t).InStep :=
  (h.withSorted false).addAll t

/-- The members of the first set come first, those that only the second one has follow. -/
theorem InStep.ids_union (h : s.InStep) (ht : t.InStep) :
    (s.union t).ids = s.ids ++ t.ids.filter (· ∉ s.ids) :=
  (h.withSorted false).ids_addIds ht.nodup

/-- Dropping notes from the index drops these and no others. -/
theorem contains_foldl_erase (ns : List NoteId) (index : Std.TreeSet NoteId) (m : NoteId) :
    (ns.foldl Std.TreeSet.erase index).contains m = true ↔ index.contains m = true ∧ m ∉ ns := by
  induction ns generalizing index with
  | nil => simp
  | cons n ns ih =>
    have herase : (index.erase n).contains m = true ↔ m ≠ n ∧ index.contains m = true := by
      rw [Std.TreeSet.contains_erase, Bool.and_eq_true, bne_iff_ne, ne_eq,
        Std.LawfulEqCmp.compare_eq_iff_eq, eq_comm]
    rw [List.foldl_cons, ih, herase, List.mem_cons, not_or]
    exact ⟨fun ⟨⟨hne, hm⟩, hns⟩ => ⟨hm, hne, hns⟩, fun ⟨hm, hne, hns⟩ => ⟨⟨hne, hm⟩, hns⟩⟩

theorem InStep.truncate (h : s.InStep) (k : Nat) : (s.truncate k).InStep where
  nodup := h.nodup.sublist (List.take_sublist k _)
  has_iff m := by
    have hsplit : m ∈ s.ids ↔ m ∈ s.ids.take k ∨ m ∈ s.ids.drop k := by
      rw [← List.mem_append, List.take_append_drop]
    have hdisjoint : m ∈ s.ids.take k → m ∉ s.ids.drop k := fun htake hdrop =>
      List.disjoint_take_drop h.nodup (Nat.le_refl k) htake hdrop
    have hhas : (s.truncate k).has m = true ↔ s.has m = true ∧ m ∉ s.ids.drop k :=
      contains_foldl_erase _ _ _
    rw [hhas, h.has_iff, hsplit]
    constructor
    · rintro ⟨htake | hdrop, hnot⟩
      · exact htake
      · exact absurd hdrop hnot
    · exact fun htake => ⟨Or.inl htake, hdisjoint htake⟩

/-! ## Sets that are built -/

/-- The set comes about by the operations. Between them it may be noted that an order was asked
for. -/
inductive Built : NoteSet → Prop
  | ofIds (ns : List NoteId) : Built (ofIds ns)
  | add {s : NoteSet} (hs : Built s) (n : NoteId) : Built (s.add n).2
  | addAll {s t : NoteSet} (hs : Built s) (ht : Built t) : Built (s.addAll t)
  | union {s t : NoteSet} (hs : Built s) (ht : Built t) : Built (s.union t)
  | intersection {s t : NoteSet} (hs : Built s) (ht : Built t) : Built (s.intersection t)
  | minus {s t : NoteSet} (hs : Built s) (ht : Built t) : Built (s.minus t)
  | truncate {s : NoteSet} (hs : Built s) (k : Nat) : Built (s.truncate k)
  | withSorted {s : NoteSet} (hs : Built s) (b : Bool) : Built { s with sorted := b }

/-- **The list and the index of every set that is built are in step.** -/
theorem Built.inStep (h : s.Built) : s.InStep := by
  induction h with
  | ofIds ns => exact inStep_ofIds ns
  | add _ n ih => exact ih.add n
  | addAll _ _ ih _ => exact ih.addAll _
  | union _ _ ih _ => exact ih.union _
  | intersection _ _ _ _ => exact inStep_filter _ _
  | minus _ _ _ _ => exact inStep_filter _ _
  | truncate _ k ih => exact ih.truncate k
  | withSorted _ b ih => exact ih.withSorted b

/-- **The sets that are built keep list and index in step, and every operation lists its result in
the order of the members that it was given.** -/
theorem Built.members_in_order (hs : s.Built) (ht : t.Built) :
    s.ids.Nodup ∧ (∀ n, s.has n = true ↔ n ∈ s.ids) ∧
    (∀ n, ((s.add n).1 = true ↔ n ∉ s.ids) ∧
      (s.add n).2.ids = if n ∈ s.ids then s.ids else s.ids ++ [n]) ∧
    (s.intersection t).ids = s.ids.filter (· ∈ t.ids) ∧
    (s.minus t).ids = s.ids.filter (· ∉ t.ids) ∧
    (s.union t).ids = s.ids ++ t.ids.filter (· ∉ s.ids) ∧
    (s.addAll t).ids = s.ids ++ t.ids.filter (· ∉ s.ids) ∧
    ∀ k, (s.truncate k).ids = s.ids.take k := by
  have h := hs.inStep
  have ht' := ht.inStep
  refine ⟨h.nodup, h.has_iff, fun n => ⟨?_, ?_⟩, h.ids_intersection ht', h.ids_minus ht',
    h.ids_union ht', h.ids_addIds ht'.nodup, fun _ => rfl⟩
  · rw [add_fst, Bool.not_eq_true', ← Bool.not_eq_true, h.has_iff]
  · rw [ids_add]
    exact if_congr (h.has_iff n) rfl rfl

/-- What a cut dropped from the index is new again. -/
theorem members_in_order_cutSet : let s := (ofIds ["c", "a", "c", "b"]).truncate 2
    let t := ofIds ["d", "b", "a"]
    s.Built ∧ t.Built ∧ (s.has "b" = true ↔ "b" ∈ s.ids) ∧
    (s.union t).ids = s.ids ++ t.ids.filter (· ∉ s.ids) ∧
    (s.union t).ids = ["c", "a", "d", "b"] := by
  have hs := (Built.ofIds ["c", "a", "c", "b"]).truncate 2
  have ht := Built.ofIds ["d", "b", "a"]
  obtain ⟨-, hhas, -, -, -, hunion, -⟩ := hs.members_in_order ht
  exact ⟨hs, ht, hhas "b", hunion, by decide +kernel⟩

end Zettel.NoteSet
