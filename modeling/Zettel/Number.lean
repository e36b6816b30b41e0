import Zettel.Text.Blank

/-!
# Numbers in text

Values that read as decimal numbers are compared as numbers. A number has the precision of the
binary64 format: it is the multiple of 2^-1074 nearest to the decimal among those with at most 53
significant bits, and it is kept as that multiple. So `0.1` and `0.10` are one number, as are two
integers above 2^53 that round alike.

Main statements: `roundHalfEven_le`, rounding keeps the order of numerators, and
`ofText?_eq_none_of_blank`, blank text is no number.
-/

namespace Zettel

/-! ## Decimals -/

/-- The decimal `± digits · 10 ^ exponent`. -/
structure Decimal where
  negative : Bool
  digits : Nat
  exponent : Int
  deriving DecidableEq, Repr

namespace Decimal

/-- The number that decimal digits stand for. -/
def natOfDigits (cs : List Char) : Nat := cs.foldl (fun n c => 10 * n + (c.toNat - '0'.toNat)) 0

/-- Splits off a sign: whether it is a minus, and what follows it. -/
def splitSign : List Char → Bool × List Char
  | '-' :: rest => (true, rest)
  | '+' :: rest => (false, rest)
  | rest => (false, rest)

/-- Reads what follows the digits: nothing, or `e` with an integer. -/
def exponent? : List Char → Option Int
  | [] => some 0
  | c :: rest =>
    let (negative, digits) := splitSign rest
    if (c = 'e' ∨ c = 'E') ∧ digits ≠ [] ∧ digits.all Char.isDigit then
      some (if negative then -natOfDigits digits else natOfDigits digits)
    else none

/-- Splits off the digits after a decimal point, if there is a point. -/
def splitFraction : List Char → List Char × List Char
  | '.' :: rest => (rest.takeWhile Char.isDigit, rest.dropWhile Char.isDigit)
  | rest => ([], rest)

/-- Reads a decimal: a sign, digits with a decimal point anywhere among them, and an exponent, of
which only one digit must be there. -/
def ofChars? (cs : List Char) : Option Decimal :=
  let (negative, cs) := splitSign cs
  let whole := cs.takeWhile Char.isDigit
  let (fraction, cs) := splitFraction (cs.dropWhile Char.isDigit)
  if whole = [] ∧ fraction = [] then none
  else (exponent? cs).map fun e =>
    ⟨negative, natOfDigits (whole ++ fraction), e - fraction.length⟩

/-! ## Rounding -/

/-- The integer nearest to `num / den`, and the even one of two that are equally near. -/
def roundHalfEven (num den : Nat) : Nat :=
  let q := num / den
  let r := num % den
  if 2 * r < den then q else if den < 2 * r then q + 1 else q + q % 2

/-- Rounding keeps the order of numerators. -/
theorem roundHalfEven_le {a b den : Nat} (h : a ≤ b) :
    roundHalfEven a den ≤ roundHalfEven b den := by
  have hq : a / den ≤ b / den := Nat.div_le_div_right h
  have ha := Nat.div_add_mod a den
  have hb := Nat.div_add_mod b den
  rcases Nat.lt_or_eq_of_le hq with hlt | heq
  · simp only [roundHalfEven]
    split <;> split <;> (try split) <;> (try split) <;> omega
  · rw [heq] at ha
    have hr : a % den ≤ b % den := by omega
    simp only [roundHalfEven, heq]
    split <;> split <;> (try split) <;> (try split) <;> omega

/-- The number of units of 2^-1074 that is nearest to `digits · 10 ^ exponent`; more than 53
significant bits are rounded away. -/
def magnitude (digits : Nat) (exponent : Int) : Nat :=
  let num := (digits * Nat.pow 10 exponent.toNat) <<< 1074
  let den := Nat.pow 10 (-exponent).toNat
  let spare := (num / den).log2 - 52
  roundHalfEven num (den <<< spare) <<< spare

/-- The number of units that the decimal stands for; `none` from 2^1024 on. Exponents beyond any
number of the format are told apart by the count of digits. -/
def units? (d : Decimal) : Option Int :=
  let places : Int := (Nat.toDigits 10 d.digits).length
  if d.digits = 0 ∨ places + d.exponent < -330 then some 0
  else if 310 < places + d.exponent then none
  else
    let m := magnitude d.digits d.exponent
    if 1 <<< (1024 + 1074) ≤ m then none else some (if d.negative then -m else m)

end Decimal

/-! ## Reading a value -/

namespace Number

/-- The number that a text stands for, in units of 2^-1074; blanks around it do not count. -/
def ofText? (s : String) : Option Int :=
  (Decimal.ofChars? (Text.trimL s.toList)).bind Decimal.units?

/-- The largest count that is read, 2^64 - 1. -/
def maxCount : Nat := 0xFFFFFFFFFFFFFFFF

/-- The count that a text stands for: digits, perhaps after a plus sign, up to `maxCount`. -/
def count? (s : String) : Option Nat :=
  let digits := match s.toList with
    | '+' :: rest => rest
    | rest => rest
  if digits ≠ [] ∧ digits.all Char.isDigit ∧ Decimal.natOfDigits digits ≤ maxCount then
    some (Decimal.natOfDigits digits)
  else none

/-- Blank text is no number. -/
theorem ofText?_eq_none_of_blank {s : String} (h : Text.isBlankText s) : ofText? s = none := by
  have : Text.trimL s.toList = [] := by
    have hd : s.toList.dropWhile Text.isBlank = [] := by
      have h := List.all_eq_true.1 h
      generalize s.toList = cs at h
      induction cs with
      | nil => rfl
      | cons c cs ih => rw [List.dropWhile_cons_of_pos (h c List.mem_cons_self),
          ih fun d hd => h d (List.mem_cons_of_mem _ hd)]
    simp [Text.trimL, hd]
  simp [ofText?, this, Decimal.ofChars?, Decimal.splitSign, Decimal.splitFraction]

example : ofText? "1e3" = ofText? " 1000.0 " := by decide +kernel

example : ofText? "9007199254740993" = ofText? "9007199254740992" := by decide +kernel

example : (ofText? "1.7976931348623157e308").isSome ∧ ofText? "1.8e308" = none := by decide +kernel

end Number

end Zettel
