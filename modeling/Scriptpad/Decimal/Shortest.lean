import Scriptpad.Decimal.Binary64

/-!
# The shortest decimal of a binary value

The text of a binary value is the decimal with the fewest digits that reads back as the value. The
reals that read back as a given value fill an interval around it, which holds its two ends exactly
if the significand is even. The decimals with a given last place form a grid; going from coarse
grids to fine ones, the first grid with a point in the interval has the fewest digits, and of the
two points beside the value the nearer one is taken, the upper one when both are equally near.

The decimal is written out with all its places, never with a power of ten, and a whole number has
no point.
-/

namespace Scriptpad.Binary64

/-! ### Digits -/

/-- The decimal `digits * 10 ^ exponent`. -/
structure Decimal where
  digits : Nat
  exponent : Int
  deriving Repr, DecidableEq

/-- The ends of the interval of reals that round to `m * 2 ^ e`, and the value itself, in quarters
of `2 ^ e`. The lower half of the interval is half as long where the spacing of the values
changes. -/
def quarters (m : Nat) (e : Int) : Nat × Nat × Nat :=
  let down := if m = normalBound && minExponent < e then 1 else 2
  (4 * m - down, 4 * m, 4 * m + 2)

/-- The multiple of `10 ^ k` in the interval of reals that round to `m * 2 ^ e` and nearest to
`m * 2 ^ e`, given as the factor of `10 ^ k`; of two equally near ones the larger. -/
def onGrid? (m : Nat) (e k : Int) : Option Nat :=
  let (low, value, high) := quarters m e
  let step := Nat.pow 10 k.toNat * Nat.pow 2 (2 - e).toNat
  let unit := Nat.pow 2 (e - 2).toNat * Nat.pow 10 (-k).toNat
  let inside (x : Nat) : Bool :=
    if m % 2 = 0 then low * unit ≤ x && x ≤ high * unit else low * unit < x && x < high * unit
  let c := value * unit / step
  let below := c * step
  let above := (c + 1) * step
  match inside below, inside above with
  | true, true => some (if above - value * unit ≤ value * unit - below then c + 1 else c)
  | true, false => some c
  | false, true => some (c + 1)
  | false, false => none

/-- The places of the last digit that a finite value can need, from coarse to fine. -/
def places : List Int :=
  (List.range 652).map fun (i : Nat) ↦ (310 : Int) - i

/-- The decimal with the fewest digits that rounds to `m * 2 ^ e`, the nearest of those. -/
def shortest (m : Nat) (e : Int) : Decimal :=
  (places.findSome? fun k ↦ (onGrid? m e k).map fun c ↦ ⟨c, k⟩).getD ⟨m, 0⟩

/-! ### Text -/

/-- A decimal written out with all its places. -/
def Decimal.text (d : Decimal) : Text :=
  let ds := Scriptpad.Decimal.digits d.digits
  if 0 ≤ d.exponent then ds ++ List.replicate d.exponent.toNat '0'
  else
    let places := (-d.exponent).toNat
    let padded := List.replicate (places + 1 - ds.length) '0' ++ ds
    let whole := padded.take (padded.length - places)
    let fraction := (padded.drop (padded.length - places)).reverse.dropWhile (· == '0')
    if fraction = [] then whole else whole ++ '.' :: fraction.reverse

/-- The text of a value: the shortest decimal that reads back as it, with a minus sign for negative
values and for negative zero. -/
def text : Binary64 → Text
  | .finite negative m e =>
    (if negative then ['-'] else []) ++ if m = 0 then ['0'] else (shortest m e).text
  | .infinite negative => (if negative then ['-'] else []) ++ "inf".toList
  | .notANumber => "NaN".toList

example : text (ofNumeral ⟨false, 25, -2⟩) = "0.25".toList := by decide +kernel

example : text (ofNumeral ⟨false, 1, 23⟩) = "100000000000000000000000".toList := by decide +kernel

example : text (ofNumeral ⟨true, 1, -7⟩) = "-0.0000001".toList := by decide +kernel

end Scriptpad.Binary64
