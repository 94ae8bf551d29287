import Scriptpad.Text.Basic

/-!
# Decimal numerals

The written form of numbers: digits with an optional sign for an integer, and for other numbers
digits with at most one point and an optional power of ten. Reading is exact: a numeral is kept as
a sign, a natural number and a power of ten, and rounding is left to the type of number that it
is read for.

Main statement: `integer?_render`, an integer reads back from its text.
-/

namespace Scriptpad.Decimal

/-! ### Digits -/

/-- Whether the character is one of `0` to `9`. -/
def isDigit (c : Char) : Bool :=
  '0'.toNat ≤ c.toNat && c.toNat ≤ '9'.toNat

/-- The number that a digit stands for. -/
def digitValue (c : Char) : Nat :=
  c.toNat - '0'.toNat

/-- The number that a row of digits stands for, the first digit counting most. -/
def ofDigits (digits : Text) : Nat :=
  digits.foldl (fun n c ↦ 10 * n + digitValue c) 0

/-- The digits of a natural number, without leading zeros; `0` for zero. -/
def digits (n : Nat) : Text :=
  Nat.toDigits 10 n

/-! ### Integers -/

/-- The natural number written by one or more digits and nothing else. -/
def natural? (t : Text) : Option Nat :=
  if t ≠ [] && t.all isDigit then some (ofDigits t) else none

/-- The integer written by an optional sign and one or more digits. -/
def integer? : Text → Option Int
  | '-' :: t => (natural? t).map fun n ↦ -(n : Int)
  | '+' :: t => (natural? t).map fun n ↦ (n : Int)
  | t => (natural? t).map fun n ↦ (n : Int)

/-- The shortest text of an integer: its digits, after `-` if it is negative. -/
def render : Int → Text
  | .ofNat n => digits n
  | .negSucc n => '-' :: digits (n + 1)

/-- The integers that 64 bits with a sign can hold. -/
def IsWord (i : Int) : Prop :=
  -0x8000000000000000 ≤ i ∧ i < 0x8000000000000000

instance (i : Int) : Decidable (IsWord i) := inferInstanceAs (Decidable (_ ∧ _))

/-! ### Numerals -/

/-- The number `± significand * 10 ^ exponent`. -/
structure Numeral where
  negative : Bool
  significand : Nat
  exponent : Int
  deriving Repr, DecidableEq

/-- The power of ten after the digits: nothing, or `e` or `E` and an integer. -/
def power? : Text → Option Int
  | [] => some 0
  | c :: t => if c = 'e' || c = 'E' then integer? t else none

/-- The number without a sign: digits, of which a point may leave one side empty but not both, and
an optional power of ten. -/
def magnitude? (negative : Bool) (t : Text) : Option Numeral :=
  let whole := t.takeWhile isDigit
  let afterWhole := t.dropWhile isDigit
  let (fraction, afterFraction) :=
    match afterWhole with
    | '.' :: rest => (rest.takeWhile isDigit, rest.dropWhile isDigit)
    | rest => ([], rest)
  if whole = [] && fraction = [] then none
  else (power? afterFraction).map fun e ↦
    { negative, significand := ofDigits (whole ++ fraction), exponent := e - fraction.length }

/-- The number that a text writes, if it is a decimal numeral with an optional sign. -/
def numeral? : Text → Option Numeral
  | '-' :: t => magnitude? true t
  | '+' :: t => magnitude? false t
  | t => magnitude? false t

/-! ### Reading back -/

theorem isDigit_digitChar {d : Nat} (h : d < 10) :
    isDigit (Nat.digitChar d) = true ∧ digitValue (Nat.digitChar d) = d := by
  have : d = 0 ∨ d = 1 ∨ d = 2 ∨ d = 3 ∨ d = 4 ∨ d = 5 ∨ d = 6 ∨ d = 7 ∨ d = 8 ∨ d = 9 := by omega
  rcases this with h | h | h | h | h | h | h | h | h | h <;> subst h <;> decide

theorem ofDigits_append_singleton (t : Text) (c : Char) :
    ofDigits (t ++ [c]) = 10 * ofDigits t + digitValue c := by
  simp [ofDigits]

theorem digits_of_lt {n : Nat} (h : n < 10) : digits n = [Nat.digitChar n] :=
  Nat.toDigits_of_lt_base h

theorem digits_eq_append {n : Nat} (h : 10 ≤ n) :
    digits n = digits (n / 10) ++ [Nat.digitChar (n % 10)] :=
  Nat.toDigits_of_base_le (by decide) h

theorem digits_ne_nil (n : Nat) : digits n ≠ [] := by
  by_cases h : n < 10
  · simp [digits_of_lt h]
  · simp [digits_eq_append (Nat.le_of_not_lt h)]

theorem all_isDigit_digits (n : Nat) : (digits n).all isDigit = true := by
  induction n using Nat.strongRecOn with
  | _ n ih =>
    by_cases h : n < 10
    · simp [digits_of_lt h, (isDigit_digitChar h).1]
    · have hle : 10 ≤ n := Nat.le_of_not_lt h
      have := ih (n / 10) (by omega)
      rw [digits_eq_append hle, List.all_append, this]
      simp [(isDigit_digitChar (d := n % 10) (by omega)).1]

theorem ofDigits_digits (n : Nat) : ofDigits (digits n) = n := by
  induction n using Nat.strongRecOn with
  | _ n ih =>
    by_cases h : n < 10
    · simp [digits_of_lt h, ofDigits, (isDigit_digitChar h).2]
    · have hle : 10 ≤ n := Nat.le_of_not_lt h
      rw [digits_eq_append hle, ofDigits_append_singleton, ih (n / 10) (by omega),
        (isDigit_digitChar (d := n % 10) (by omega)).2]
      omega

theorem natural?_digits (n : Nat) : natural? (digits n) = some n := by
  simp [natural?, digits_ne_nil, all_isDigit_digits, ofDigits_digits]

theorem integer?_of_natural? {t : Text} {n : Nat} (h : natural? t = some n) :
    integer? t = some (n : Int) := by
  unfold integer?
  split
  · simp [natural?, isDigit] at h
  · simp [natural?, isDigit] at h
  · simp [h]

/-- An integer reads back from its text. -/
theorem integer?_render (i : Int) : integer? (render i) = some i := by
  cases i with
  | ofNat n => exact integer?_of_natural? (natural?_digits n)
  | negSucc n =>
    simp only [render, integer?, natural?_digits]
    rfl

end Scriptpad.Decimal
