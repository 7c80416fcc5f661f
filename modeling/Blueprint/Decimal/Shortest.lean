import Blueprint.Decimal.Binary64

/-!
# The fewest digits that read back

A decimal stands for a binary64 number when it lies among the reals that round
to it.  `Decimal.shortest` picks a decimal with the fewest digits that does, and
the closest of those to the number; of two equally close ones the even one.

The search tries one digit, two digits and so on up to seventeen, each time the
two neighbours of the number among the decimals with that many digits.
-/

namespace Blueprint

/-- The decimal number `digits * 10 ^ exponent`. -/
structure Decimal where
  /-- The digits as a whole number. -/
  digits : Nat
  /-- The power of ten of the last digit. -/
  exponent : Int
deriving DecidableEq

namespace Decimal

/-- How a decimal compares with a multiple of `2^-1076`. -/
def compareQuarters (decimal : Decimal) (quarters : Nat) : Ordering :=
  compare (decimal.digits * Nat.pow 10 decimal.exponent.toNat * Nat.pow 2 1076)
    (quarters * Nat.pow 10 (-decimal.exponent).toNat)

/-- The ends of the interval of reals that round to a magnitude, in multiples of
`2^-1076`.  Below a power of two the neighbour is half as far away. -/
def roundingEnds (units : Nat) : Nat × Nat :=
  let gap := Nat.pow 2 (Binary64.spacing units)
  let below := if gap = 1 ∨ units ≠ Nat.pow 2 units.log2 then 2 * gap else gap
  (4 * units - below, 4 * units + 2 * gap)

/-- Whether a decimal lies among the reals that round to a magnitude.  The ends
belong to it exactly if its last bit is even. -/
def readsBack (units : Nat) (decimal : Decimal) : Bool :=
  let ends := roundingEnds units
  let even := units / Nat.pow 2 (Binary64.spacing units) % 2 == 0
  match decimal.compareQuarters ends.1, decimal.compareQuarters ends.2 with
  | .gt, .lt => true
  | .eq, .lt | .gt, .eq => even
  | _, _ => false

/-- Whether a magnitude is below `10 ^ exponent`. -/
def belowPowerOfTen (units : Nat) (exponent : Int) : Bool :=
  units * Nat.pow 10 (-exponent).toNat < Nat.pow 10 exponent.toNat * Nat.pow 2 1074

/-- The least power of ten above a positive magnitude: a guess from the number
of bits, which is too low by at most two. -/
def scale (units : Nat) : Int :=
  let guess : Int := ((units.log2 : Int) - 1074) * 30103 / 100000
  if belowPowerOfTen units guess then guess
  else if belowPowerOfTen units (guess + 1) then guess + 1
  else guess + 2

/-- A decimal that reads back among the two neighbours of a magnitude on the grid
of multiples of `10 ^ exponent`. -/
def onGrid? (units : Nat) (exponent : Int) : Option Decimal :=
  let numerator := units * Nat.pow 10 (-exponent).toNat
  let divisor := Nat.pow 2 1074 * Nat.pow 10 exponent.toNat
  let low := numerator / divisor
  let lower : Decimal := ⟨low, exponent⟩
  let upper : Decimal := ⟨low + 1, exponent⟩
  match readsBack units lower, readsBack units upper with
  | false, false => none
  | true, false => some lower
  | false, true => some upper
  | true, true =>
      match compare (2 * numerator) ((2 * low + 1) * divisor) with
      | .lt => some lower
      | .gt => some upper
      | .eq => some (if low % 2 = 0 then lower else upper)

/-- Move trailing zeros of the digits into the exponent, at most `limit` of them. -/
def stripZeros : (limit : Nat) → Decimal → Decimal
  | 0, decimal => decimal
  | limit + 1, decimal =>
      if decimal.digits ≠ 0 ∧ decimal.digits % 10 = 0 then
        stripZeros limit ⟨decimal.digits / 10, decimal.exponent + 1⟩
      else decimal

/-- A magnitude with all its digits. -/
def exactly (units : Nat) : Decimal :=
  ⟨units * Nat.pow 5 1074, -1074⟩

/-- The decimal with the fewest digits that stands for a positive magnitude. -/
def shortest (units : Nat) : Decimal :=
  let top := scale units
  let found := (List.range 17).findSome? fun digit => onGrid? units (top - (digit + 1 : Nat))
  stripZeros 18 (found.getD (exactly units))

end Decimal

end Blueprint
