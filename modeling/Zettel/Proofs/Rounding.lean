import Mathlib.Algebra.Order.Field.Power
import Mathlib.Algebra.Order.Field.Rat
import Mathlib.Data.Nat.Log
import Mathlib.Tactic.Linarith
import Mathlib.Tactic.Positivity
import Mathlib.Tactic.Ring
import Zettel.Number

/-!
# Rounding keeps the order of decimals

Reading a decimal rounds it, and the rounding depends on how large it is. Still a decimal that is
not greater than another is not read as a greater number; so numbers have the order of the decimals
they were read from, except that different decimals may be read as one number.

Main statement: `Decimal.units?_le`, the numbers that decimals are read as keep their order.
-/

namespace Zettel.Decimal

/-! ## Rounding to an integer -/

/-- The same fraction is rounded the same way. -/
theorem roundHalfEven_mul_right (num den : Nat) {k : Nat} (hk : 0 < k) :
    roundHalfEven (num * k) (den * k) = roundHalfEven num den := by
  have hlt : ∀ a b : Nat, a * k < b * k ↔ a < b := fun a b => Nat.mul_lt_mul_right hk
  simp only [roundHalfEven, Nat.mul_div_mul_right num den hk, Nat.mul_mod_mul_right, ← mul_assoc,
    hlt]

/-- A whole number is not rounded. -/
theorem roundHalfEven_one (n : Nat) : roundHalfEven n 1 = n := by
  simp [roundHalfEven, Nat.mod_one]

/-- Rounding keeps the order of fractions. -/
theorem roundHalfEven_mono {num den num' den' : Nat} (hden : 0 < den) (hden' : 0 < den')
    (h : num * den' ≤ num' * den) : roundHalfEven num den ≤ roundHalfEven num' den' := by
  rw [← roundHalfEven_mul_right num den hden', ← roundHalfEven_mul_right num' den' hden,
    mul_comm den' den]
  exact roundHalfEven_le h

/-! ## Rounding to 53 bits -/

/-- How many bits of `num / den` there are beyond the first 53. -/
def spareBits (num den : Nat) : Nat := (num / den).log2 - 52

/-- The integer nearest to `num / den` with at most 53 significant bits. -/
def roundBits (num den : Nat) : Nat :=
  roundHalfEven num (den <<< spareBits num den) <<< spareBits num den

section Bits

variable {num den num' den' : Nat}

/-- Whole parts of fractions are ordered as the fractions are. -/
theorem div_le_div_of_mul_le (hden : 0 < den) (hden' : 0 < den')
    (h : num * den' ≤ num' * den) : num / den ≤ num' / den' := by
  rw [Nat.le_div_iff_mul_le hden']
  refine Nat.le_of_mul_le_mul_right ?_ hden
  calc num / den * den' * den = num / den * den * den' := Nat.mul_right_comm _ _ _
    _ ≤ num * den' := Nat.mul_le_mul_right den' (Nat.div_mul_le_self num den)
    _ ≤ num' * den := h

/-- A larger fraction has no fewer bits that do not fit. -/
theorem spareBits_mono (hden : 0 < den) (hden' : 0 < den') (h : num * den' ≤ num' * den) :
    spareBits num den ≤ spareBits num' den' := by
  rw [spareBits, spareBits, Nat.log2_eq_log_two, Nat.log2_eq_log_two]
  exact Nat.sub_le_sub_right (Nat.log_mono_right (div_le_div_of_mul_le hden hden' h)) 52

theorem roundBits_le (hden : 0 < den) : roundBits num den ≤ 2 ^ (53 + spareBits num den) := by
  have hlt : num / den < 2 ^ (53 + spareBits num den) := by
    rcases Nat.eq_zero_or_pos (num / den) with hzero | hpos
    · rw [hzero]
      positivity
    · rw [← Nat.log2_lt hpos.ne', spareBits]
      omega
  rw [Nat.div_lt_iff_lt_mul hden] at hlt
  rw [roundBits, Nat.shiftLeft_eq, Nat.shiftLeft_eq, pow_add]
  refine Nat.mul_le_mul_right _ ?_
  calc roundHalfEven num (den * 2 ^ spareBits num den)
    _ ≤ roundHalfEven (2 ^ 53) 1 := by
      refine roundHalfEven_mono (by positivity) Nat.one_pos ?_
      calc num * 1 ≤ 2 ^ (53 + spareBits num den) * den := by omega
        _ = 2 ^ 53 * (den * 2 ^ spareBits num den) := by ring
    _ = 2 ^ 53 := roundHalfEven_one _

theorem le_roundBits (hden : 0 < den) (h : 0 < spareBits num den) :
    2 ^ (52 + spareBits num den) ≤ roundBits num den := by
  have hne : num / den ≠ 0 := by
    intro hzero
    rw [spareBits, hzero, Nat.log2_zero] at h
    omega
  have hle : 2 ^ (52 + spareBits num den) ≤ num / den := by
    rw [← Nat.le_log2 hne]
    rw [spareBits] at h ⊢
    omega
  rw [Nat.le_div_iff_mul_le hden] at hle
  rw [roundBits, Nat.shiftLeft_eq, Nat.shiftLeft_eq, pow_add]
  refine Nat.mul_le_mul_right _ ?_
  calc 2 ^ 52 = roundHalfEven (2 ^ 52) 1 := (roundHalfEven_one _).symm
    _ ≤ roundHalfEven num (den * 2 ^ spareBits num den) := by
      refine roundHalfEven_mono Nat.one_pos (by positivity) ?_
      calc 2 ^ 52 * (den * 2 ^ spareBits num den) = 2 ^ (52 + spareBits num den) * den := by ring
        _ ≤ num * 1 := by omega

/-- Rounding keeps the order, also where more bits are rounded away: there is a power of two in
between. -/
theorem roundBits_mono (hden : 0 < den) (hden' : 0 < den') (h : num * den' ≤ num' * den) :
    roundBits num den ≤ roundBits num' den' := by
  rcases Nat.eq_or_lt_of_le (spareBits_mono hden hden' h) with heq | hlt
  · rw [roundBits, roundBits, ← heq, Nat.shiftLeft_eq, Nat.shiftLeft_eq, Nat.shiftLeft_eq,
      Nat.shiftLeft_eq]
    refine Nat.mul_le_mul_right _ (roundHalfEven_mono (by positivity) (by positivity) ?_)
    rw [← mul_assoc, ← mul_assoc]
    exact Nat.mul_le_mul_right _ h
  · calc roundBits num den ≤ 2 ^ (53 + spareBits num den) := roundBits_le hden
      _ ≤ 2 ^ (52 + spareBits num' den') := Nat.pow_le_pow_right (by decide) (by omega)
      _ ≤ roundBits num' den' := le_roundBits hden' (Nat.zero_lt_of_lt hlt)

end Bits

/-! ## Decimals -/

/-- How large a decimal is, whatever its sign. -/
def size (d : Decimal) : ℚ := d.digits * 10 ^ d.exponent

/-- The number that a decimal is, with nothing rounded away. -/
def value (d : Decimal) : ℚ := if d.negative then -d.size else d.size

theorem size_nonneg (d : Decimal) : 0 ≤ d.size := by
  rw [size]
  positivity

theorem size_eq_zero (d : Decimal) (h : d.digits = 0) : d.size = 0 := by
  rw [size, h, Nat.cast_zero, zero_mul]

variable {d e : Decimal}

theorem magnitude_mono (h : d.size ≤ e.size) :
    magnitude d.digits d.exponent ≤ magnitude e.digits e.exponent := by
  have hsplit : ∀ n : Int, (10 : ℚ) ^ n = 10 ^ n.toNat / 10 ^ (-n).toNat := by
    intro n
    rw [← zpow_natCast, ← zpow_natCast, ← zpow_sub₀ (by norm_num)]
    congr 1
    omega
  refine roundBits_mono (Nat.pow_pos (by decide)) (Nat.pow_pos (by decide)) ?_
  rw [size, size, hsplit, hsplit, ← mul_div_assoc, ← mul_div_assoc,
    div_le_div_iff₀ (by positivity) (by positivity)] at h
  have hnat : d.digits * 10 ^ d.exponent.toNat * 10 ^ (-e.exponent).toNat ≤
      e.digits * 10 ^ e.exponent.toNat * 10 ^ (-d.exponent).toNat := by
    exact_mod_cast h
  change (d.digits * 10 ^ d.exponent.toNat) <<< 1074 * 10 ^ (-e.exponent).toNat ≤
    (e.digits * 10 ^ e.exponent.toNat) <<< 1074 * 10 ^ (-d.exponent).toNat
  generalize 1074 = bits
  rw [Nat.shiftLeft_eq, Nat.shiftLeft_eq]
  calc d.digits * 10 ^ d.exponent.toNat * 2 ^ bits * 10 ^ (-e.exponent).toNat
    _ = d.digits * 10 ^ d.exponent.toNat * 10 ^ (-e.exponent).toNat * 2 ^ bits := by ring
    _ ≤ e.digits * 10 ^ e.exponent.toNat * 10 ^ (-d.exponent).toNat * 2 ^ bits :=
      Nat.mul_le_mul_right _ hnat
    _ = e.digits * 10 ^ e.exponent.toNat * 2 ^ bits * 10 ^ (-d.exponent).toNat := by ring

/-- The number of digits before the decimal point, or less by the zeros after it. -/
def places (d : Decimal) : Int := (Nat.toDigits 10 d.digits).length + d.exponent

/-- A decimal is below the power of ten that its places tell. -/
theorem size_lt (d : Decimal) : d.size < 10 ^ d.places := by
  have hdigits : d.digits < 10 ^ (Nat.toDigits 10 d.digits).length :=
    (Nat.length_toDigits_le_iff (by decide) Nat.length_toDigits_pos).1 (Nat.le_refl _)
  rw [size, places, zpow_add₀ (by norm_num), zpow_natCast]
  exact mul_lt_mul_of_pos_right (by exact_mod_cast hdigits) (by positivity)

theorem le_size (h : d.digits ≠ 0) : 10 ^ (d.places - 1) ≤ d.size := by
  have hpos : 0 < (Nat.toDigits 10 d.digits).length := Nat.length_toDigits_pos
  have hdigits : 10 ^ ((Nat.toDigits 10 d.digits).length - 1) ≤ d.digits := by
    rcases Nat.eq_zero_or_pos ((Nat.toDigits 10 d.digits).length - 1) with hzero | hmore
    · rw [hzero, pow_zero]
      exact Nat.pos_of_ne_zero h
    · rw [← Nat.not_lt, ← Nat.length_toDigits_le_iff (by decide) hmore]
      omega
  have hexponent : d.places - 1 =
      ((Nat.toDigits 10 d.digits).length - 1 : Nat) + d.exponent := by
    rw [places]
    omega
  rw [size, hexponent, zpow_add₀ (by norm_num), zpow_natCast]
  exact mul_le_mul_of_nonneg_right (by exact_mod_cast hdigits) (by positivity)

/-- A larger decimal has no fewer places before the point. -/
theorem places_mono (hd : d.digits ≠ 0) (h : d.size ≤ e.size) : d.places ≤ e.places := by
  have hlt : (10 : ℚ) ^ (d.places - 1) < 10 ^ e.places :=
    ((le_size hd).trans h).trans_lt e.size_lt
  rw [zpow_lt_zpow_iff_right₀ (by norm_num)] at hlt
  omega

/-! ## Reading -/

/-- The size that a decimal is read as. -/
def readSize (d : Decimal) : Nat :=
  if d.digits = 0 ∨ d.places < -330 then 0 else magnitude d.digits d.exponent

theorem units?_eq {x : Int} (h : d.units? = some x) :
    x = if d.negative then -(d.readSize : Int) else d.readSize := by
  rw [units?] at h
  rw [readSize, places]
  split at h
  · next hnone =>
    rw [if_pos hnone, ← Option.some.inj h]
    simp
  · next hsome =>
    rw [if_neg hsome]
    dsimp only at h
    split at h
    · cases h
    · split at h
      · cases h
      · exact (Option.some.inj h).symm

theorem readSize_mono (h : d.size ≤ e.size) : d.readSize ≤ e.readSize := by
  rw [readSize, readSize]
  split
  · exact Nat.zero_le _
  · next hd =>
    rw [not_or] at hd
    have hplaces := places_mono hd.1 h
    have he : e.digits ≠ 0 := by
      intro hzero
      have hpos : 0 < d.size := (zpow_pos (by norm_num) _).trans_le (le_size hd.1)
      rw [e.size_eq_zero hzero] at h
      exact hpos.not_ge h
    rw [if_neg (by omega)]
    exact magnitude_mono h

/-- A size that is not positive is read as zero. -/
theorem readSize_eq_zero (h : d.size ≤ 0) : d.readSize = 0 := by
  have hzero : (⟨false, 0, 0⟩ : Decimal).readSize = 0 := rfl
  rw [← Nat.le_zero, ← hzero]
  refine readSize_mono (h.trans ?_)
  exact size_nonneg _

/-- **A decimal that is not greater than another is not read as a greater number.** -/
theorem units?_le {x y : Int} (hd : d.units? = some x) (he : e.units? = some y)
    (h : d.value ≤ e.value) : x ≤ y := by
  rw [units?_eq hd, units?_eq he]
  have hd0 := d.size_nonneg
  have he0 := e.size_nonneg
  unfold value at h
  split_ifs at h ⊢
  · exact neg_le_neg (Int.ofNat_le.2 (readSize_mono (neg_le_neg_iff.1 h)))
  · omega
  · rw [readSize_eq_zero (h.trans (neg_nonpos.2 he0)), readSize_eq_zero (by linarith)]
    rfl
  · exact Int.ofNat_le.2 (readSize_mono h)

end Zettel.Decimal
