/-!
# Finite binary64 numbers

Every finite number of the 64-bit binary format is a whole multiple of the
smallest positive one, `2^-1074`.  A `Binary64` is a sign and that multiple, so
rounding, comparing and multiplying are exact arithmetic on natural numbers.

Zero has two signs.  They are two values of the type and are told apart by
equality; `Binary64.Same` is numerical equality, under which they agree.
-/

namespace Blueprint

/-- The exponent of the distance between neighbours around a multiple of
`2^-1074`: 53 significant bits are kept. -/
def Binary64.spacing (units : Nat) : Nat :=
  units.log2 - 52

/-- The multiples of `2^-1074` that the format holds: below `2^1024`, and with
at most 53 significant bits. -/
def Binary64.Representable (units : Nat) : Prop :=
  units.log2 < 2098 ∧ units % Nat.pow 2 (Binary64.spacing units) = 0

instance (units : Nat) : Decidable (Binary64.Representable units) :=
  inferInstanceAs (Decidable (_ ∧ _))

/-- A finite binary64 number: a sign and a multiple of `2^-1074`. -/
structure Binary64 where
  /-- Whether the sign is minus. -/
  negative : Bool
  /-- The magnitude as a multiple of `2^-1074`. -/
  units : Nat
  /-- The magnitude is one that the format holds. -/
  representable : Binary64.Representable units
deriving DecidableEq

namespace Binary64

/-- The zero of a sign. -/
def zero (negative : Bool) : Binary64 :=
  ⟨negative, 0, by decide, Nat.zero_mod _⟩

instance : Inhabited Binary64 :=
  ⟨zero false⟩

/-- Numerical equality: the two zeros agree. -/
def Same (left right : Binary64) : Prop :=
  left.units = right.units ∧ (left.units = 0 ∨ left.negative = right.negative)

instance (left right : Binary64) : Decidable (Same left right) :=
  inferInstanceAs (Decidable (_ ∧ _))

/-- The number of a sign and magnitude, if the format holds it. -/
def ofUnits? (negative : Bool) (units : Nat) : Option Binary64 :=
  if fits : Representable units then some ⟨negative, units, fits⟩ else none

/-- The multiple of `2^-1074` closest to a quotient among those with 53
significant bits; of two equally close ones the one with the even last bit.  The
divisor is positive. -/
def nearestUnits (numerator divisor : Nat) : Nat :=
  let scaled := numerator * Nat.pow 2 1074
  let gap := spacing (scaled / divisor)
  let step := divisor * Nat.pow 2 gap
  let below := scaled / step
  let twice := 2 * (scaled % step)
  let chosen :=
    if twice < step then below
    else if step < twice then below + 1
    else below + below % 2
  chosen * Nat.pow 2 gap

/-- The closest number to a quotient; none beyond the largest finite one. -/
def ofQuotient? (negative : Bool) (numerator divisor : Nat) : Option Binary64 :=
  ofUnits? negative (nearestUnits numerator divisor)

/-- The closest number to a product of magnitudes, with the sign of the first. -/
def mul? (left right : Binary64) : Option Binary64 :=
  ofQuotient? left.negative (left.units * right.units) (Nat.pow 2 2148)

/-- The closest number to a quotient of magnitudes, with the sign of the first. -/
def div? (left right : Binary64) : Option Binary64 :=
  ofQuotient? left.negative left.units right.units

/-- The closest number to `digits * 10 ^ exponent`; none beyond the largest
finite one.  Exponents far outside the format's range are decided by size
alone. -/
def ofDecimal? (negative : Bool) (digits : Nat) (exponent : Int) : Option Binary64 :=
  let magnitude := exponent + (digits.log2 / 3 : Nat)
  if digits = 0 then some (zero negative)
  else if magnitude < -1500 then some (zero negative)
  else if 1500 < exponent then none
  else ofQuotient? negative (digits * Nat.pow 10 exponent.toNat)
    (Nat.pow 10 (-exponent).toNat)

/-- A power of ten up to `10 ^ 308`, rounded to the closest number. -/
def powerOfTen (exponent : Nat) : Binary64 :=
  (ofQuotient? false (Nat.pow 10 exponent) 1).getD (zero false)

/-- Read `significand * 10 ^ exponent` in two roundings: the significand is
rounded first, and then its product with, or quotient by, a power of ten.
Powers below `10 ^ -308` are divided out in portions of 308.  None beyond the
largest finite number. -/
def ofScaled? (significand : Binary64) (exponent : Int) : Option Binary64 :=
  if 0 ≤ exponent then
    if significand.units = 0 then some significand
    else if exponent ≤ 308 then significand.mul? (powerOfTen exponent.toNat)
    else none
  else if -308 ≤ exponent then significand.div? (powerOfTen (-exponent).toNat)
  else if significand.units = 0 then some significand
  else (significand.div? (powerOfTen 308)).bind fun smaller => ofScaled? smaller (exponent + 308)
termination_by (-exponent).toNat

end Binary64

end Blueprint
