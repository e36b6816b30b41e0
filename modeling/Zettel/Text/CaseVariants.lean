import Zettel.Text.CaseVariants.Table

/-!
# Ignoring case

Two characters are the same when case is ignored if they lie in one class of simple case folding.
A class is named by its least member.

Main statements: `mem_caseVariants_self`, a character is one of its own variants,
`eq_of_sameIgnoringCase`, one without cases is the only one, and `has_ignoringCase`, ignoring case
takes nothing away from a set.
-/

namespace Zettel.Text

open CaseVariants

/-- The least character that differs from `c` in case only. -/
def caseClass (c : Char) : Char :=
  match runs.findSome? (·.image? c.toNat) with
  | some n => Char.ofNat n
  | none => c

/-- The characters that differ from `c` in case only, `c` included. -/
def caseVariants (c : Char) : List Char :=
  let least := caseClass c
  c :: (least :: (runs.filterMap (·.source? least.toNat)).map Char.ofNat).filter (· ≠ c)

/-- The characters `c` and `d` differ in case at most. -/
def sameIgnoringCase (c d : Char) : Bool := caseClass c = caseClass d

theorem mem_caseVariants_self (c : Char) : c ∈ caseVariants c := List.mem_cons_self

/-- The Kelvin sign is a variant of the letter. -/
example : caseVariants 'k' = ['k', 'K', Char.ofNat 0x212A] := by decide +kernel

example : caseVariants '1' = ['1'] := by decide +kernel

/-- No run covers the code point `n` or pairs another one with it. -/
def IsCaseless (n : Nat) : Prop :=
  ∀ r ∈ runs, ¬(r.first ≤ n ∧ n ≤ r.last) ∧ ¬(r.image ≤ n ∧ n ≤ r.image + (r.last - r.first))

instance (n : Nat) : Decidable (IsCaseless n) :=
  inferInstanceAs (Decidable (∀ r ∈ runs, _ ∧ _))

theorem toNat_ofNat_of_image? {r : CaseRun} (hr : r ∈ runs) {m n : Nat}
    (h : r.image? m = some n) : (Char.ofNat n).toNat = n := by
  have hvalid : ∀ r ∈ runs, r.image + (r.last - r.first) < 0xD800 ∨
      0xDFFF < r.image ∧ r.image + (r.last - r.first) < 0x110000 := by decide +kernel
  rw [CaseRun.image?] at h
  split at h
  · next hm =>
    cases h
    have hn : (r.image + (m - r.first)).isValidChar := by
      have := hvalid r hr
      unfold Nat.isValidChar
      omega
    rw [Char.ofNat, dif_pos hn]
    rfl
  · cases h

/-- A character without cases is the same as itself alone. -/
theorem eq_of_sameIgnoringCase {c d : Char} (hd : IsCaseless d.toNat)
    (h : sameIgnoringCase c d = true) : c = d := by
  have hclass : caseClass d = d := by
    have hnone : runs.findSome? (·.image? d.toNat) = none := by
      refine List.findSome?_eq_none_iff.2 fun r hr => if_neg fun hcovered => ?_
      exact (hd r hr).1 ⟨hcovered.1, hcovered.2.1⟩
    rw [caseClass, hnone]
  have hsame : caseClass c = d := (of_decide_eq_true h).trans hclass
  rw [caseClass] at hsame
  split at hsame
  · next n hn =>
    obtain ⟨r, hr, himage⟩ := List.exists_of_findSome?_eq_some hn
    have hnat : n = d.toNat := by rw [← hsame, toNat_ofNat_of_image? hr himage]
    rw [CaseRun.image?] at himage
    split at himage
    · next hcovered =>
      cases himage
      exact absurd (by omega) (hd r hr).2
    · cases himage
  · exact hsame

/-! ## Sets -/

/-- The set with what the runs pair with its members. -/
def withImages (runs : List CaseRun) (rs : Ranges) : Ranges :=
  (rs ++ runs.flatMap fun r => rs.flatMap r.images).sorted

/-- The characters that differ in case at most from one in the set. -/
def ignoringCase (rs : Ranges) : Ranges :=
  withImages (runs.map CaseRun.inverse) (withImages runs rs)

/-- The pairs of ASCII letters. -/
def asciiRun : CaseRun := ⟨0x61, 0x7A, 1, 0x41⟩

/-- The same, where only ASCII letters have a case. -/
def ignoringAsciiCase (rs : Ranges) : Ranges :=
  withImages [asciiRun, asciiRun.inverse] rs

theorem has_withImages {runs : List CaseRun} {rs : Ranges} {n : Nat} (h : rs.has n = true) :
    (withImages runs rs).has n = true := by
  rw [withImages, Ranges.has_sorted, Ranges.has_append, h]
  rfl

/-- Ignoring case takes nothing away from a set. -/
theorem has_ignoringCase {rs : Ranges} {n : Nat} (h : rs.has n = true) :
    (ignoringCase rs).has n = true :=
  has_withImages (has_withImages h)

end Zettel.Text
