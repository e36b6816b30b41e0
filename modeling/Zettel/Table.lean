/-!
# Tables

A table holds one value for each of finitely many keys and lists its entries in the order in which
the keys arrived. A value stored under a key that is there already takes the old one's place.

Main statements: `get?_insert`, `get?_modify`, `get?_erase` and `get?_mapValues`, what an operation
does to the look-up, and `get?_eq_some_iff`, the look-up finds exactly the entries.
-/

namespace Zettel

universe u v

/-- Entries with distinct keys. -/
structure Table (κ : Type u) (α : Type v) where
  entries : List (κ × α)
  nodup : (entries.map Prod.fst).Nodup

namespace Table

variable {κ : Type u} {α : Type v}

/-! ## Views -/

/-- The keys, in the order of arrival. -/
def keys (t : Table κ α) : List κ := t.entries.map Prod.fst

/-- The values, in the order of their keys. -/
def values (t : Table κ α) : List α := t.entries.map Prod.snd

/-- The number of keys. -/
def size (t : Table κ α) : Nat := t.entries.length

/-- The table without entries. -/
def empty : Table κ α := ⟨[], List.nodup_nil⟩

instance : EmptyCollection (Table κ α) := ⟨empty⟩

instance : Inhabited (Table κ α) := ⟨empty⟩

variable [DecidableEq κ]

/-- The value stored under `k`. -/
def get? (t : Table κ α) (k : κ) : Option α := (t.entries.find? (·.1 = k)).map Prod.snd

/-- There is a value under `k`. -/
def contains (t : Table κ α) (k : κ) : Bool := (t.get? k).isSome

/-! ## Operations -/

/-- Changes the value under `k`, if there is one. -/
def modify (t : Table κ α) (k : κ) (f : α → α) : Table κ α where
  entries := t.entries.map fun e => if e.1 = k then (e.1, f e.2) else e
  nodup := by
    have : (t.entries.map fun e => if e.1 = k then (e.1, f e.2) else e).map Prod.fst =
        t.entries.map Prod.fst := by
      rw [List.map_map]
      refine List.map_congr_left fun e _ => ?_
      simp only [Function.comp_apply]
      split <;> rfl
    rw [this]
    exact t.nodup

/-- Stores `a` under `k`. -/
def insert (t : Table κ α) (k : κ) (a : α) : Table κ α :=
  if h : k ∈ t.keys then t.modify k fun _ => a
  else ⟨t.entries ++ [(k, a)], by
    rw [List.map_append, List.nodup_append]
    refine ⟨t.nodup, by simp, fun x hx y hy => ?_⟩
    rw [List.map_singleton, List.mem_singleton] at hy
    subst hy
    exact fun e => h (e ▸ hx)⟩

/-- Drops the value under `k`. -/
def erase (t : Table κ α) (k : κ) : Table κ α where
  entries := t.entries.filter (·.1 ≠ k)
  nodup := t.nodup.sublist (List.filter_sublist.map _)

omit [DecidableEq κ] in
/-- Changes every value. -/
def mapValues {β : Type v} (t : Table κ α) (f : α → β) : Table κ β where
  entries := t.entries.map fun e => (e.1, f e.2)
  nodup := by
    have : (t.entries.map fun e => (e.1, f e.2)).map Prod.fst = t.entries.map Prod.fst := by
      simp [List.map_map, Function.comp_def]
    rw [this]
    exact t.nodup

/-! ## The look-up and the entries -/

private theorem find?_key_eq_some_iff {l : List (κ × α)} (h : (l.map Prod.fst).Nodup) {k : κ}
    {a : α} : (l.find? (·.1 = k)).map Prod.snd = some a ↔ (k, a) ∈ l := by
  induction l with
  | nil => simp
  | cons e l ih =>
    obtain ⟨k', a'⟩ := e
    rw [List.map_cons, List.nodup_cons] at h
    by_cases hk : k' = k
    · subst hk
      have hn : ∀ b, (k', b) ∉ l := fun b hb => h.1 (List.mem_map.2 ⟨_, hb, rfl⟩)
      simp [hn, eq_comm]
    · have hk' : ¬k = k' := fun e => hk e.symm
      simp [hk, hk', ih h.2]

/-- The look-up finds exactly the entries. -/
theorem get?_eq_some_iff {t : Table κ α} {k : κ} {a : α} :
    t.get? k = some a ↔ (k, a) ∈ t.entries :=
  find?_key_eq_some_iff t.nodup

/-- A key is one under which there is a value. -/
theorem mem_keys_iff {t : Table κ α} {k : κ} : k ∈ t.keys ↔ ∃ a, t.get? k = some a := by
  simp [keys, get?_eq_some_iff]

theorem get?_eq_none_iff {t : Table κ α} {k : κ} : t.get? k = none ↔ k ∉ t.keys := by
  rw [mem_keys_iff, Option.eq_none_iff_forall_ne_some]
  simp

theorem contains_iff {t : Table κ α} {k : κ} : t.contains k = true ↔ k ∈ t.keys := by
  rw [contains, Option.isSome_iff_exists, mem_keys_iff]

omit [DecidableEq κ] in
theorem nodup_keys (t : Table κ α) : t.keys.Nodup := t.nodup

/-- A value is stored under some key. -/
theorem mem_values_iff {t : Table κ α} {a : α} : a ∈ t.values ↔ ∃ k, t.get? k = some a := by
  simp [values, get?_eq_some_iff]

/-! ## What the operations do to the look-up -/

@[simp]
theorem get?_empty (k : κ) : (∅ : Table κ α).get? k = none := rfl

@[simp]
theorem keys_modify (t : Table κ α) (k : κ) (f : α → α) : (t.modify k f).keys = t.keys := by
  rw [keys, keys, modify, List.map_map]
  refine List.map_congr_left fun e _ => ?_
  simp only [Function.comp_apply]
  split <;> rfl

theorem get?_modify (t : Table κ α) (k j : κ) (f : α → α) :
    (t.modify k f).get? j = if j = k then (t.get? k).map f else t.get? j := by
  obtain ⟨l, hl⟩ := t
  simp only [get?, modify]
  clear hl
  induction l with
  | nil => simp
  | cons e l ih =>
    obtain ⟨k', a⟩ := e
    by_cases hjk : j = k
    · subst hjk
      by_cases hk : k' = j
      · simp [hk]
      · simpa [hk] using ih
    · by_cases hk : k' = k
      · have : ¬k' = j := fun e => hjk (e.symm.trans hk)
        simpa [hk, hjk, this, Ne.symm hjk] using ih
      · by_cases hj : k' = j
        · subst hj
          simp [hk]
        · simpa [hk, hj, hjk] using ih

/-- There is nothing to change under a key that is not there. -/
theorem modify_of_not_mem {t : Table κ α} {k : κ} (h : k ∉ t.keys) (f : α → α) :
    t.modify k f = t := by
  obtain ⟨l, hl⟩ := t
  rw [modify, mk.injEq]
  calc l.map (fun e => if e.1 = k then (e.1, f e.2) else e)
      = l.map id := by
        refine List.map_congr_left fun e he => if_neg fun hk => h ?_
        exact hk ▸ List.mem_map_of_mem he
    _ = l := List.map_id l

theorem get?_insert (t : Table κ α) (k j : κ) (a : α) :
    (t.insert k a).get? j = if j = k then some a else t.get? j := by
  by_cases h : k ∈ t.keys
  · obtain ⟨b, hb⟩ := mem_keys_iff.1 h
    simp [insert, h, get?_modify, hb]
  · have hn : t.entries.find? (·.1 = k) = none := by
      simpa [get?] using get?_eq_none_iff.2 h
    simp only [insert, h, get?, dif_neg, not_false_eq_true, List.find?_append]
    by_cases hj : j = k
    · subst hj
      simp [hn]
    · have : ¬k = j := fun e => hj e.symm
      simp [hj, this]

@[simp]
theorem get?_insert_self (t : Table κ α) (k : κ) (a : α) : (t.insert k a).get? k = some a := by
  simp [get?_insert]

theorem get?_erase (t : Table κ α) (k j : κ) :
    (t.erase k).get? j = if j = k then none else t.get? j := by
  refine Option.ext fun a => ?_
  rw [get?_eq_some_iff, erase, List.mem_filter]
  split
  · next hj => simp [hj]
  · next hj => simp [get?_eq_some_iff, hj]

theorem get?_mapValues {β : Type v} (t : Table κ α) (f : α → β) (k : κ) :
    (t.mapValues f).get? k = (t.get? k).map f := by
  obtain ⟨l, hl⟩ := t
  simp only [get?, mapValues]
  clear hl
  induction l with
  | nil => simp
  | cons e l ih =>
    by_cases hk : e.1 = k
    · simp [hk]
    · simpa [hk] using ih

end Table

end Zettel
