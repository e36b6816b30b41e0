/-!
# Ranges of code points

A set of characters is kept as a list of inclusive ranges of code points, in ascending order. Long
tables are written as text, with the ends in hexadecimal: `41-5A 61-7A AA`.

The ends of a range are characters. Between `U+D7FF` and `U+E000` there are none, so that the one is
next to the other here, although ranges that end and begin there are kept apart.

Main statements: `has_union`, `has_inter` and `has_minus`, which numbers the results have.
-/

namespace Zettel.Text

/-- Inclusive ranges of code points. -/
abbrev Ranges := List (Nat × Nat)

namespace Ranges

/-- The number `n` lies in one of the ranges. -/
def has (rs : Ranges) (n : Nat) : Bool := rs.any fun r => r.1 ≤ n && n ≤ r.2

/-- The character `c` lies in one of the ranges. -/
def contains (rs : Ranges) (c : Char) : Bool := rs.has c.toNat

theorem has_cons (r : Nat × Nat) (rs : Ranges) (n : Nat) :
    has (r :: rs) n = ((r.1 ≤ n && n ≤ r.2) || rs.has n) := rfl

theorem has_append (rs qs : Ranges) (n : Nat) : has (rs ++ qs) n = (rs.has n || qs.has n) := by
  simp [has]

/-- The largest code point. -/
def greatest : Nat := 0x10FFFF

/-- The code point of the next character. -/
def next (n : Nat) : Nat := if n = 0xD7FF then 0xE000 else n + 1

/-- The code point of the last character before. -/
def previous (n : Nat) : Nat := if n = 0xE000 then 0xD7FF else n - 1

/-! ## Sums -/

/-- Adds `r` to sorted ranges that begin no earlier: ranges that meet or touch become one. -/
def join (r : Nat × Nat) : Ranges → Ranges
  | [] => [r]
  | q :: rest =>
    if q.1 ≤ r.2 + 1 ∧ r.1 ≤ q.2 + 1 then join (min r.1 q.1, max r.2 q.2) rest
    else r :: join q rest

/-- Sorted ranges with those made one that meet or touch. -/
def joined : Ranges → Ranges
  | [] => []
  | r :: rest => join r rest

/-- The range `r` does not begin after `q`. -/
def beginsFirst (r q : Nat × Nat) : Bool := r.1 < q.1 || (r.1 = q.1 && r.2 ≤ q.2)

/-- Ranges in any order, in ascending order. -/
def sorted (rs : Ranges) : Ranges := joined (rs.mergeSort beginsFirst)

/-- What lies in one of two sets. -/
def union (rs qs : Ranges) : Ranges := joined (List.merge rs qs beginsFirst)

theorem has_join (r : Nat × Nat) (rs : Ranges) (n : Nat) : has (join r rs) n = has (r :: rs) n := by
  induction rs generalizing r with
  | nil => rfl
  | cons q rest ih =>
    rw [join]
    split
    · next h =>
      have hull : ((min r.1 q.1 ≤ n && n ≤ max r.2 q.2) : Bool)
          = ((r.1 ≤ n && n ≤ r.2) || (q.1 ≤ n && n ≤ q.2)) := by
        rw [Bool.eq_iff_iff]
        simp only [Bool.or_eq_true, Bool.and_eq_true, decide_eq_true_eq]
        omega
      rw [ih, has_cons, has_cons, has_cons, hull, Bool.or_assoc]
    · rw [has_cons, ih, has_cons, has_cons, has_cons]

theorem has_joined (rs : Ranges) (n : Nat) : has (joined rs) n = has rs n := by
  cases rs with
  | nil => rfl
  | cons r rest => exact has_join r rest n

theorem has_of_perm {rs qs : Ranges} (h : rs.Perm qs) (n : Nat) : has rs n = has qs n := by
  rw [Bool.eq_iff_iff]
  simp only [has, List.any_eq_true]
  exact ⟨fun ⟨r, m, p⟩ => ⟨r, h.mem_iff.mp m, p⟩, fun ⟨r, m, p⟩ => ⟨r, h.mem_iff.mpr m, p⟩⟩

/-- Sorting changes no member. -/
theorem has_sorted (rs : Ranges) (n : Nat) : has (sorted rs) n = has rs n := by
  rw [sorted, has_joined]
  exact has_of_perm (List.mergeSort_perm rs beginsFirst) n

/-- A sum has what one of the two has. -/
theorem has_union (rs qs : Ranges) (n : Nat) : has (union rs qs) n = (has rs n || has qs n) := by
  rw [union, has_joined, has_of_perm (List.merge_perm_append beginsFirst) n, has_append]

/-! ## Common parts and differences -/

/-- What two ranges have in common. -/
def overlap? (r q : Nat × Nat) : Option (Nat × Nat) :=
  let first := max r.1 q.1
  let last := min r.2 q.2
  if first ≤ last then some (first, last) else none

/-- What lies in both of two sets. -/
def inter (rs qs : Ranges) : Ranges := rs.flatMap fun r => qs.filterMap (overlap? r)

theorem has_overlap (r : Nat × Nat) (qs : Ranges) (n : Nat) :
    has (qs.filterMap (overlap? r)) n = ((r.1 ≤ n && n ≤ r.2) && has qs n) := by
  induction qs with
  | nil => simp [has]
  | cons q rest ih =>
    have one : has (overlap? r q).toList n
        = ((r.1 ≤ n && n ≤ r.2) && (q.1 ≤ n && n ≤ q.2)) := by
      rw [overlap?, Bool.eq_iff_iff]
      split <;> simp only [Option.toList, has, List.any_cons, List.any_nil, Bool.or_false,
        Bool.and_eq_true, Bool.false_eq_true, false_iff, decide_eq_true_eq] <;> omega
    rw [has_cons, Bool.and_or_distrib_left, ← ih, ← one, ← has_append, List.filterMap_cons]
    cases overlap? r q <;> rfl

/-- A common part has what both have. -/
theorem has_inter (rs qs : Ranges) (n : Nat) : has (inter rs qs) n = (has rs n && has qs n) := by
  induction rs with
  | nil => rfl
  | cons r rest ih =>
    rw [inter, List.flatMap_cons, has_append, has_overlap, has_cons, ← inter, ih]
    cases has qs n <;> simp

/-- What is left of the range `r` without the ranges `qs`. -/
def cut (r : Nat × Nat) : Ranges → Ranges
  | [] => [r]
  | q :: rest =>
    if q.2 < r.1 ∨ r.2 < q.1 then cut r rest
    else
      (if r.1 < q.1 then cut (r.1, previous q.1) rest else [])
        ++ if q.2 < r.2 then cut (next q.2, r.2) rest else []

/-- What lies in the first set and not in the second. -/
def minus (rs qs : Ranges) : Ranges := rs.flatMap fun r => cut r qs

/-- What lies in one of two sets and not in the other. -/
def differ (rs qs : Ranges) : Ranges := minus (union rs qs) (inter rs qs)

theorem toNat_lt_or_gt (c : Char) : c.toNat < 0xD800 ∨ 0xDFFF < c.toNat := by
  rcases c.valid with h | h
  · exact Or.inl h
  · exact Or.inr h.1

theorem contains_cut (r : Nat × Nat) (qs : Ranges) (c : Char) :
    contains (cut r qs) c = ((r.1 ≤ c.toNat && c.toNat ≤ r.2) && !contains qs c) := by
  have hc := toNat_lt_or_gt c
  induction qs generalizing r with
  | nil => simp [cut, contains, has]
  | cons q rest ih =>
    have both : contains (q :: rest) c
        = ((q.1 ≤ c.toNat && c.toNat ≤ q.2) || contains rest c) := rfl
    rw [cut, both]
    split
    · next h =>
      rw [ih, Bool.eq_iff_iff]
      cases contains rest c
      · simp only [Bool.not_false, Bool.and_true, Bool.or_false, Bool.and_eq_true,
          Bool.not_eq_true', Bool.and_eq_false_iff, decide_eq_true_eq, decide_eq_false_iff_not]
        omega
      · simp
    · next h =>
      rw [contains, has_append]
      have left : has (if r.1 < q.1 then cut (r.1, previous q.1) rest else []) c.toNat
          = ((r.1 ≤ c.toNat && c.toNat < q.1) && !contains rest c) := by
        split
        · rw [← contains, ih]
          congr 1
          rw [previous, Bool.eq_iff_iff]
          simp only [Bool.and_eq_true, decide_eq_true_eq]
          split <;> omega
        · rw [Bool.eq_iff_iff]
          simp only [has, List.any_nil, Bool.and_eq_true, Bool.false_eq_true, false_iff,
            decide_eq_true_eq]
          omega
      have right : has (if q.2 < r.2 then cut (next q.2, r.2) rest else []) c.toNat
          = ((q.2 < c.toNat && c.toNat ≤ r.2) && !contains rest c) := by
        split
        · rw [← contains, ih]
          congr 1
          rw [next, Bool.eq_iff_iff]
          simp only [Bool.and_eq_true, decide_eq_true_eq]
          split <;> omega
        · rw [Bool.eq_iff_iff]
          simp only [has, List.any_nil, Bool.and_eq_true, Bool.false_eq_true, false_iff,
            decide_eq_true_eq]
          omega
      rw [left, right, Bool.eq_iff_iff]
      cases contains rest c
      · simp only [Bool.not_false, Bool.and_true, Bool.or_false, Bool.or_eq_true, Bool.and_eq_true,
          Bool.not_eq_true', Bool.and_eq_false_iff, decide_eq_true_eq, decide_eq_false_iff_not]
        omega
      · simp

/-- A difference has what the first set has and the second has not. -/
theorem has_minus (rs qs : Ranges) (c : Char) :
    contains (minus rs qs) c = (contains rs c && !contains qs c) := by
  induction rs with
  | nil => rfl
  | cons r rest ih =>
    have both : contains (r :: rest) c
        = ((r.1 ≤ c.toNat && c.toNat ≤ r.2) || contains rest c) := rfl
    rw [minus, List.flatMap_cons, contains, has_append, ← contains, contains_cut, ← contains,
      ← minus, ih, both]
    cases contains qs c <;> simp

/-! ## Complements -/

/-- The characters above `last` that lie in none of the ranges. What lies between two ranges is
given from the character after the one to the character before the other; where the two follow
each other these are the ends of the ranges themselves, as happens around `U+E000`. -/
def gaps (last : Nat) : Ranges → Ranges
  | [] => if last < greatest then [(next last, greatest)] else []
  | (a, b) :: rest => (min (next last) (previous a), max (next last) (previous a)) :: gaps b rest

/-- The characters that lie in none of the ranges. -/
def complement : Ranges → Ranges
  | [] => [(0, greatest)]
  | (a, b) :: rest => (if 0 < a then [(0, previous a)] else []) ++ gaps b rest

/-! ## Written form -/

/-- The value of a hexadecimal digit. -/
def hexDigit? (c : Char) : Option Nat :=
  if c.isDigit then some (c.toNat - '0'.toNat)
  else if 'A' ≤ c ∧ c ≤ 'F' then some (c.toNat - 'A'.toNat + 10)
  else if 'a' ≤ c ∧ c ≤ 'f' then some (c.toNat - 'a'.toNat + 10)
  else none

/-- Reads ranges from characters: `first` is the end before a dash, and `n` the number being read.
What is neither a digit nor a dash parts ranges. -/
def scan (first n : Option Nat) : List Char → Ranges
  | [] => n.elim [] fun n => [(first.getD n, n)]
  | '-' :: rest => scan n none rest
  | c :: rest =>
    match hexDigit? c, n with
    | some d, n => scan first (some (16 * n.getD 0 + d)) rest
    | none, some n => (first.getD n, n) :: scan none none rest
    | none, none => scan none none rest

/-- The ranges that a table's text stands for. -/
def ofText (table : String) : Ranges := scan none none table.toList

example : ofText "41-5A 61-7a  AA" = [(0x41, 0x5A), (0x61, 0x7A), (0xAA, 0xAA)] := by decide +kernel

example : complement [(0x30, 0x39), (0x41, greatest)] = [(0, 0x2F), (0x3A, 0x40)] := by
  decide +kernel

end Ranges

end Zettel.Text
