import Scriptpad.Decimal.Numeral

/-!
# Binary floating-point numbers of 64 bits

The values of the IEEE 754 format `binary64`, held as what they are, a sign, a significand and a
power of two, rather than as a machine word: then rounding is integer arithmetic and every
statement about it is one about natural numbers.

A numeral is read as the value nearest to it, a half going to the even significand. A numeral too
large for every finite value reads as an infinity; no numeral reads as "not a number", which
exists here because configuration files can write it.

Main statements: `roundHalfEven_le` (rounding stays within half a unit) and
`ofNumeral_ne_notANumber`.
-/

namespace Scriptpad

/-- A value of the format: `± significand * 2 ^ exponent`, an infinity, or not a number. -/
inductive Binary64 where
  | finite (negative : Bool) (significand : Nat) (exponent : Int)
  | infinite (negative : Bool)
  | notANumber
  deriving Repr, DecidableEq

namespace Binary64

/-- Significands have at most 53 binary digits. -/
def significandBound : Nat := Nat.pow 2 53

/-- Significands of normal values have at least 53 binary digits. -/
def normalBound : Nat := Nat.pow 2 52

/-- The bit of the sign. -/
def signBit (negative : Bool) : Nat :=
  if negative then Nat.pow 2 63 else 0

/-- The exponent of the values closest to zero. -/
def minExponent : Int := -1074

/-- The exponent of the largest finite values. -/
def maxExponent : Int := 971

/-- Zero, with a sign. -/
def zero (negative : Bool) : Binary64 :=
  .finite negative 0 minExponent

/-- Equality of the values as numbers: the two zeros are equal, and what is not a number equals
nothing, itself included. -/
def numEq : Binary64 → Binary64 → Bool
  | .finite s m e, .finite t n f => (m == 0 && n == 0) || (s == t && m == n && e == f)
  | .infinite s, .infinite t => s == t
  | _, _ => false

/-! ### Rounding -/

/-- The integer nearest to `num / den`; a half goes to the even neighbour. -/
def roundHalfEven (num den : Nat) : Nat :=
  let quotient := num / den
  let twice := 2 * (num % den)
  if twice < den then quotient
  else if den < twice then quotient + 1
  else if quotient % 2 = 0 then quotient else quotient + 1

/-- Numerator and denominator of `num / den / 2 ^ q`. -/
def scaleDown (num den : Nat) (q : Int) : Nat × Nat :=
  if 0 ≤ q then (num, den * Nat.pow 2 q.toNat) else (num * Nat.pow 2 (-q).toNat, den)

/-- The exponent at which `num / den` is rounded: the one that leaves 53 binary digits before the
point, or the least exponent of the format if that is larger. -/
def exponentFor (num den : Nat) : Int :=
  let q := max ((Nat.log2 num : Int) - Nat.log2 den - 53) minExponent
  let (n, d) := scaleDown num den q
  if n / d < significandBound then q else q + 1

/-- The value nearest to `± num / den`. -/
def ofFraction (negative : Bool) (num den : Nat) : Binary64 :=
  if num = 0 then zero negative
  else
    let q := exponentFor num den
    let (n, d) := scaleDown num den q
    let rounded := roundHalfEven n d
    let (m, e) := if rounded = significandBound then (normalBound, q + 1) else (rounded, q)
    if maxExponent < e then .infinite negative else .finite negative m e

/-- The value nearest to a numeral. A power of ten that puts the number beyond every finite value,
or below half of the smallest, is decided by counting binary digits (ten lies above `2 ^ 3`), so
that no power of ten is computed beyond what the format needs. -/
def ofNumeral (x : Decimal.Numeral) : Binary64 :=
  let size : Int := Nat.log2 x.significand
  if x.significand = 0 then zero x.negative
  else if 1030 < size + 3 * x.exponent && 0 ≤ x.exponent then .infinite x.negative
  else if size + 3 * x.exponent < -1100 && x.exponent < 0 then zero x.negative
  else if 0 ≤ x.exponent then
    ofFraction x.negative (x.significand * Nat.pow 10 x.exponent.toNat) 1
  else ofFraction x.negative x.significand (Nat.pow 10 (-x.exponent).toNat)

/-! ### Bits -/

/-- The 64 bits of a value as a number: sign, eleven bits of exponent, 52 of significand. -/
def bits : Binary64 → Nat
  | .finite negative m e =>
    signBit negative +
      if m < normalBound then m else (e + 1075).toNat * normalBound + (m - normalBound)
  | .infinite negative => signBit negative + 2047 * normalBound
  | .notANumber => 2047 * normalBound + normalBound / 2

/-! ### Laws -/

/-- Rounding errs by at most half a unit, on either side. -/
theorem roundHalfEven_le (num : Nat) {den : Nat} (h : 0 < den) :
    2 * num ≤ (2 * roundHalfEven num den + 1) * den ∧
      2 * (roundHalfEven num den * den) ≤ 2 * num + den := by
  have hdiv := Nat.div_add_mod num den
  have hmod := Nat.mod_lt num h
  have hcomm : den * (num / den) = num / den * den := Nat.mul_comm den (num / den)
  simp only [roundHalfEven]
  repeat' split
  all_goals rw [Nat.add_mul, Nat.one_mul, Nat.mul_assoc]
  all_goals try rw [Nat.add_mul, Nat.one_mul]
  all_goals constructor <;> omega

theorem ofFraction_ne_notANumber (negative : Bool) (num den : Nat) :
    ofFraction negative num den ≠ .notANumber := by
  simp only [ofFraction, zero]
  repeat' split
  all_goals simp

/-- Every numeral reads as a number. -/
theorem ofNumeral_ne_notANumber (x : Decimal.Numeral) : ofNumeral x ≠ .notANumber := by
  simp only [ofNumeral, zero]
  repeat' split
  all_goals first | exact ofFraction_ne_notANumber _ _ _ | simp

end Binary64

end Scriptpad
