/-!
# The nearest floating-point number

`nearest?` rounds a fraction of natural numbers to the floating-point number nearest to it, a tie
going to the even mantissa; what is too large has none.  The rounding is exact arithmetic: the
fraction is brought to a mantissa of 53 bits, or to fewer where the exponent is at its least.
-/

namespace Shortcode.Decimal

/-- The least exponent of a mantissa. -/
def leastExponent : Int := -1074

/-- The greatest exponent of a mantissa of 53 bits. -/
def greatestExponent : Int := 971

/-- The natural number nearest to a fraction, an even one of two. -/
def roundedQuotient (numerator denominator : Nat) : Nat :=
  let quotient := numerator / denominator
  let twice := 2 * (numerator % denominator)
  if twice > denominator || (twice == denominator && quotient % 2 == 1) then quotient + 1
  else quotient

/-- The numerator and the denominator of a fraction over a power of two. -/
def overPowerOfTwo (numerator denominator : Nat) (exponent : Int) : Nat × Nat :=
  (numerator * Nat.pow 2 (-exponent).toNat, denominator * Nat.pow 2 exponent.toNat)

/-- The exponent for which a positive fraction has a mantissa of 53 bits, or the least one. -/
def mantissaExponent (numerator denominator : Nat) : Int :=
  let estimate : Int := Int.ofNat numerator.log2 - Int.ofNat denominator.log2 - 52
  let (above, below) := overPowerOfTwo numerator denominator estimate
  max leastExponent (if above / below < Nat.pow 2 52 then estimate - 1 else estimate)

/-- The floating-point number `mantissa · 2 ^ exponent`, of a mantissa of at most 53 bits. -/
def packed? (mantissa : Nat) (exponent : Int) : Option Float :=
  let (mantissa, exponent) :=
    if mantissa == Nat.pow 2 53 then (Nat.pow 2 52, exponent + 1) else (mantissa, exponent)
  if exponent > greatestExponent then none
  else if mantissa < Nat.pow 2 52 then some (Float.ofBits (UInt64.ofNat mantissa))
  else
    let place := (exponent + 1075).toNat
    some (Float.ofBits (UInt64.ofNat (place * Nat.pow 2 52 + (mantissa - Nat.pow 2 52))))

/-- The floating-point number nearest to a fraction, unless that is too large. -/
def nearest? (numerator denominator : Nat) : Option Float :=
  if numerator == 0 then some 0
  else
    let exponent := mantissaExponent numerator denominator
    let (above, below) := overPowerOfTwo numerator denominator exponent
    packed? (roundedQuotient above below) exponent

/-- The floating-point number nearest to an integer, unless that is too large. -/
def nearestToInt? (number : Int) : Option Float :=
  (nearest? number.natAbs 1).map fun size => if number < 0 then -size else size

/-- More decimal places than any floating-point number has before or behind its point. -/
def placeLimit : Nat := 400

/-- The floating-point number nearest to `digits · 10 ^ exponent`; infinite if it is too large.
Exponents that leave no doubt are not worked out. -/
def ofScientific (digits : Nat) (exponent : Int) : Float :=
  if digits == 0 || exponent < -(Int.ofNat (digits.log2 + placeLimit)) then 0
  else if exponent > Int.ofNat placeLimit then 1.0 / 0.0
  else
    (nearest? (digits * Nat.pow 10 exponent.toNat) (Nat.pow 10 (-exponent).toNat)).getD (1.0 / 0.0)

end Shortcode.Decimal
