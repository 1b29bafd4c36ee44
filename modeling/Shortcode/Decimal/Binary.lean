/-!
# Binary fractions

A finite floating-point number is a sign and a product `mantissa · 2 ^ exponent`.  Decoding the
bits makes every later step exact arithmetic on natural numbers and integers.
-/

namespace Shortcode.Decimal

/-- The number `mantissa · 2 ^ exponent`, negated if `negative`. -/
structure Binary where
  negative : Bool
  mantissa : Nat
  exponent : Int
deriving DecidableEq, Repr

/-- What the 64 bits of a floating-point number stand for. -/
inductive Decoded where
  | finite (number : Binary)
  | infinite (negative : Bool)
  | invalid
deriving DecidableEq, Repr

/-- Decodes the sign bit, the eleven bits of the exponent and the 52 bits of the fraction. -/
def Decoded.ofBits (bits : Nat) : Decoded :=
  let negative := bits / Nat.pow 2 63 % 2 == 1
  let exponent : Nat := bits / Nat.pow 2 52 % Nat.pow 2 11
  let fraction : Nat := bits % Nat.pow 2 52
  if exponent == 2047 then
    if fraction == 0 then .infinite negative else .invalid
  else if exponent == 0 then .finite ⟨negative, fraction, -1074⟩
  else .finite ⟨negative, Nat.pow 2 52 + fraction, Int.ofNat exponent - 1075⟩

/-- Decodes a floating-point number. -/
def decode (number : Float) : Decoded := .ofBits number.toBits.toNat

/-- The number as a fraction of an integer and a positive natural number. -/
def Binary.fraction (number : Binary) : Int × Nat :=
  let numerator := number.mantissa * Nat.pow 2 number.exponent.toNat
  let denominator := Nat.pow 2 (-number.exponent).toNat
  (if number.negative then -(numerator : Int) else (numerator : Int), denominator)

end Shortcode.Decimal
