import Mathlib.Data.Nat.Bitwise
import Zettel.Text.Lowercase

/-!
# Small letters stay as they are

Text in small letters is its own text in small letters. The capitals and the small letters of the
table are kept as the bits of two numbers, so that one look at these shows them to be apart.

Main statement: `lowercase_lowercase`.
-/

namespace Zettel.Text

/-! ## Code points as bits -/

/-- The number whose bits are set at the given places. -/
def bitsAt (ns : List Nat) : Nat := ns.foldl (fun bits n => bits ||| 1 <<< n) 0

theorem testBit_bitsAt (ns : List Nat) (i : Nat) : (bitsAt ns).testBit i = decide (i ∈ ns) := by
  have hloop : ∀ bits, (ns.foldl (fun bits n => bits ||| 1 <<< n) bits).testBit i =
      (bits.testBit i || decide (i ∈ ns)) := by
    induction ns with
    | nil => simp
    | cons n ns ih =>
      intro bits
      rw [List.foldl_cons, ih, Nat.testBit_or, Nat.one_shiftLeft, Nat.testBit_two_pow,
        Bool.or_assoc]
      simp only [List.mem_cons, Bool.decide_or, eq_comm]
  rw [bitsAt, hloop, Nat.zero_testBit, Bool.false_or]

/-- Places without a common bit are apart. -/
theorem not_mem_of_bitsAt {ns ms : List Nat} (h : bitsAt ns &&& bitsAt ms = 0) {i : Nat}
    (hi : i ∈ ms) : i ∉ ns := by
  intro hns
  have hbit := congrArg (Nat.testBit · i) h
  simp [Nat.testBit_and, testBit_bitsAt, hi, hns] at hbit

/-! ## The table -/

namespace CaseRun

/-- The steps of a run. -/
def steps (r : CaseRun) : List Nat := List.range ((r.last - r.first) / r.stride + 1)

/-- The code points that a run covers. -/
def sources (r : CaseRun) : List Nat := r.steps.map fun k => r.first + r.stride * k

/-- The code points that these are paired with. -/
def targets (r : CaseRun) : List Nat := r.steps.map fun k => r.image + r.stride * k

theorem mem_of_image? {r : CaseRun} {n m : Nat} (h : r.image? n = some m) :
    n ∈ r.sources ∧ m ∈ r.targets := by
  rw [image?] at h
  split_ifs at h with hn
  obtain ⟨hfirst, hlast, hmod⟩ := hn
  obtain rfl := Option.some.inj h
  have hstep : r.stride * ((n - r.first) / r.stride) = n - r.first :=
    Nat.mul_div_cancel' (Nat.dvd_of_mod_eq_zero hmod)
  have hmem : (n - r.first) / r.stride ∈ r.steps := by
    rw [steps, List.mem_range, Nat.lt_succ_iff]
    exact Nat.div_le_div_right (by omega)
  refine ⟨List.mem_map.2 ⟨_, hmem, ?_⟩, List.mem_map.2 ⟨_, hmem, ?_⟩⟩ <;> omega

end CaseRun

namespace Lowercase

/-- Code points that small letters differ from. -/
def capitalPoints : List Nat :=
  0x130 :: List.range' 0x41 26 ++ capitals.flatMap CaseRun.sources

/-- Code points of the small letters in the table. -/
def smallPoints : List Nat := capitals.flatMap CaseRun.targets

theorem bitsAt_capitalPoints : bitsAt capitalPoints &&& bitsAt smallPoints = 0 := by
  decide +kernel

end Lowercase

open Lowercase

/-! ## Text -/

theorem lowerChar_toLower : ∀ n < 0x80,
    lowerChar (Char.ofNat n).toLower = [(Char.ofNat n).toLower] := by
  decide +kernel

/-- A character that is no capital is its own small letter. -/
theorem lowerChar_of_not_mem {d : Char} (hd : d.toNat ∉ capitalPoints) : lowerChar d = [d] := by
  simp only [capitalPoints, List.cons_append, List.mem_cons, List.mem_append, not_or] at hd
  obtain ⟨hdot, hlatin, htable⟩ := hd
  rw [lowerChar]
  split_ifs with hascii heq
  · have hlower : d.toLower = d := by
      refine dif_neg ?_
      rintro ⟨hfirst, hlast⟩
      rw [ge_iff_le, UInt32.le_iff_toNat_le] at hfirst
      rw [UInt32.le_iff_toNat_le] at hlast
      exact hlatin (List.mem_range'_1.2 ⟨hfirst, Nat.lt_succ_of_le hlast⟩)
    rw [hlower]
  · subst heq
    exact absurd rfl hdot
  · have hnone : capitals.findSome? (·.image? d.toNat) = none := by
      rw [List.findSome?_eq_none_iff]
      intro r hr
      refine Option.eq_none_iff_forall_ne_some.2 fun m hm => htable ?_
      exact List.mem_flatMap.2 ⟨r, hr, (CaseRun.mem_of_image? hm).1⟩
    rw [hnone]

/-- The small letters of a character are their own small letters. -/
theorem lowerChar_of_mem {c d : Char} (hd : d ∈ lowerChar c) : lowerChar d = [d] := by
  rw [lowerChar] at hd
  split_ifs at hd with hascii hdot
  · obtain rfl := List.mem_singleton.1 hd
    simpa using lowerChar_toLower c.toNat hascii
  · simp only [List.mem_cons, List.not_mem_nil, or_false] at hd
    rcases hd with rfl | rfl <;> decide +kernel
  · cases hfound : capitals.findSome? (·.image? c.toNat) with
    | none =>
      rw [hfound] at hd
      obtain rfl := List.mem_singleton.1 hd
      rw [lowerChar, if_neg hascii, if_neg hdot, hfound]
    | some n =>
      rw [hfound] at hd
      obtain rfl := List.mem_singleton.1 hd
      obtain ⟨r, hr, hn⟩ := List.exists_of_findSome?_eq_some hfound
      have hsmall : n ∈ smallPoints := List.mem_flatMap.2 ⟨r, hr, (CaseRun.mem_of_image? hn).2⟩
      by_cases hvalid : n.isValidChar
      · have hpoint : (Char.ofNat n).toNat = n := by
          rw [Char.ofNat, dif_pos hvalid]
          rfl
        refine lowerChar_of_not_mem ?_
        rw [hpoint]
        exact not_mem_of_bitsAt bitsAt_capitalPoints hsmall
      · rw [Char.ofNat, dif_neg hvalid]
        decide +kernel

/-- What stands in a text in small letters is its own small letter. -/
theorem lowerChar_of_mem_lowerFrom {before cs : List Char} {d : Char}
    (hd : d ∈ lowerFrom before cs) : lowerChar d = [d] := by
  induction cs generalizing before with
  | nil => exact absurd hd (by simp [lowerFrom])
  | cons c cs ih =>
    rw [lowerFrom, List.mem_append] at hd
    rcases hd with hd | hd
    · split_ifs at hd
      · obtain rfl := List.mem_singleton.1 hd
        decide +kernel
      · obtain rfl := List.mem_singleton.1 hd
        decide +kernel
      · exact lowerChar_of_mem hd
    · exact ih hd

/-- **Text in small letters stays as it is.** -/
theorem lowercase_lowercase (s : String) : lowercase (lowercase s) = lowercase s := by
  have hsmall : ∀ d ∈ lowerL s.toList, lowerChar d = [d] := fun d hd =>
    lowerChar_of_mem_lowerFrom hd
  have hsigma : capitalSigma ∉ lowerL s.toList := by
    intro hmem
    exact absurd (hsmall _ hmem) (by decide +kernel)
  rw [lowercase, lowercase, String.toList_ofList, lowerL_eq_flatMap hsigma]
  congr 1
  conv_rhs => rw [← List.flatMap_singleton' (lowerL s.toList)]
  rw [List.flatMap_def, List.flatMap_def, List.map_congr_left hsmall]

end Zettel.Text
