import Mathlib
import Shortcode.Decimal.Binary
import Shortcode.Decimal.Nearest

/-!
# The bits of floating-point numbers

A finite floating-point number keeps the bits it is made from, so what
`packed?` makes of a mantissa and an exponent is decoded to just these.
-/

namespace Shortcode.Decimal

open Float.Model
open UnpackedFloat hiding pack unpack

/-! ## From bits to parts and back -/

section Parts

variable (bits : BitVec Format.binary64.numBits)

theorem toNat_unpackMantissa :
    (unpackMantissa bits).toNat = bits.toNat % 2 ^ 52 := by
  simp [unpackMantissa, BitVec.extractLsb]

theorem toNat_unpackExponent :
    (unpackExponent bits).toNat = bits.toNat / 2 ^ 52 % 2 ^ 11 := by
  simp [unpackExponent, BitVec.extractLsb, Nat.shiftRight_eq_div_pow]

theorem toNat_unpackSign :
    (unpackSign bits).toNat = bits.toNat / 2 ^ 63 := by
  have inside : bits.toNat < 2 ^ 64 := bits.isLt
  simp [unpackSign, BitVec.extractLsb, Nat.shiftRight_eq_div_pow]
  omega

theorem toNat_packComponents (sign : Sign) (exponent : BitVec 11)
    (mantissa : BitVec 52) :
    (packComponents Format.binary64 sign exponent mantissa).toNat =
      sign.toBitVec.toNat * 2 ^ 63 + exponent.toNat * 2 ^ 52 +
        mantissa.toNat := by
  unfold packComponents
  rw [BitVec.toNat_append, BitVec.toNat_append,
    ← Nat.shiftLeft_add_eq_or_of_lt mantissa.isLt,
    ← Nat.shiftLeft_add_eq_or_of_lt exponent.isLt, Nat.shiftLeft_eq,
    Nat.shiftLeft_eq]
  simp
  omega

theorem packComponents_unpack :
    packComponents Format.binary64 (Sign.ofBitVec (unpackSign bits))
      (unpackExponent bits) (unpackMantissa bits) = bits := by
  have sign : (Sign.ofBitVec (unpackSign bits)).toBitVec =
      unpackSign bits := by
    generalize unpackSign bits = sign
    revert sign
    decide
  apply BitVec.eq_of_toNat_eq
  rw [toNat_packComponents, sign, toNat_unpackSign, toNat_unpackExponent,
    toNat_unpackMantissa]
  omega

end Parts

section Packing

variable {exponent : BitVec 11} {mantissa : BitVec 52}

theorem log2_lt_of_ne_zero (nonzero : mantissa ≠ 0#52) :
    mantissa.toNat.log2 < 52 := by
  rw [Nat.log2_lt]
  · exact mantissa.isLt
  · intro zero
    exact nonzero (BitVec.eq_of_toNat_eq zero)

theorem toNat_leadingBit_append :
    (1#1 ++ mantissa).toNat = 2 ^ 52 + mantissa.toNat := by
  rw [BitVec.toNat_append, ← Nat.shiftLeft_add_eq_or_of_lt mantissa.isLt,
    Nat.shiftLeft_eq]
  simp

theorem log2_leadingBit_append : (1#1 ++ mantissa).toNat.log2 = 52 := by
  have below := mantissa.isLt
  rw [toNat_leadingBit_append, Nat.log2_eq_iff (by omega)]
  omega

theorem pack_subnormal (sign : Sign) (nonzero : mantissa ≠ 0#52)
    (positive : 0 < mantissa.toNat) :
    UnpackedFloat.pack Format.binary64
        (.finite sign mantissa.toNat (-1074) positive) =
      packComponents Format.binary64 sign 0#11 mantissa := by
  have short := log2_lt_of_ne_zero nonzero
  have notFull : ¬ mantissa.toNat.log2 + 1 = 1 + 52 := by omega
  simp [UnpackedFloat.pack, Format.exponentBias, Format.mantissaBits, notFull]

theorem pack_normal (sign : Sign) (finite : exponent.toNat ≠ 2047)
    (positive : 0 < (1#1 ++ mantissa).toNat) :
    UnpackedFloat.pack Format.binary64
        (.finite sign (1#1 ++ mantissa).toNat
          (exponent.toNat - (1023 + 52)) positive) =
      packComponents Format.binary64 sign exponent mantissa := by
  have below : exponent.toNat < 2 ^ 11 := exponent.isLt
  have inside : ¬ 2 ^ 11 ≤ exponent.toNat + 1 := by omega
  have bias : Format.exponentBias Format.binary64 = 1023 := rfl
  have biased : ((exponent.toNat : Int) - (1023 + 52) + (1023 : Nat) +
      (52 : Nat)).toNat = exponent.toNat := by omega
  have low : BitVec.ofNat 52 (1#1 ++ mantissa).toNat = mantissa := by
    rw [toNat_leadingBit_append]
    apply BitVec.eq_of_toNat_eq
    have small := mantissa.isLt
    rw [BitVec.toNat_ofNat]
    omega
  simp only [UnpackedFloat.pack, bias, biased, inside, if_false,
    Format.mantissaBits, log2_leadingBit_append, low, BitVec.ofNat_toNat,
    BitVec.setWidth_eq]
  rfl

end Packing

theorem pack_unpack {bits : BitVec Format.binary64.numBits}
    (finite : bits.toNat / 2 ^ 52 % 2 ^ 11 ≠ 2047) :
    UnpackedFloat.pack Format.binary64
      (UnpackedFloat.unpack Format.binary64 bits) = bits := by
  rw [← toNat_unpackExponent] at finite
  have known : unpackExponent bits ≠ -1#_ := by
    intro same
    exact finite (congrArg BitVec.toNat same)
  refine Eq.trans ?_ (packComponents_unpack bits)
  simp only [UnpackedFloat.unpack, known, if_false]
  split
  · rename_i zero
    rw [zero]
    split
    · rename_i nothing
      rw [nothing]
      rfl
    · rename_i nonzero
      exact pack_subnormal _ nonzero _
  · exact pack_normal _ finite _

theorem toBits_ofBits {bits : UInt64}
    (finite : bits.toNat / 2 ^ 52 % 2 ^ 11 ≠ 2047) :
    (Float.ofBits bits).toBits = bits := by
  change UInt64.ofBitVec (UnpackedFloat.pack Format.binary64
    (UnpackedFloat.unpack Format.binary64 bits.toBitVec)) = bits
  rw [pack_unpack finite]

/-! ## Decoding -/

theorem decode_ofBits {bits : Nat} (inside : bits < 2 ^ 64)
    (finite : bits / 2 ^ 52 % 2 ^ 11 ≠ 2047) :
    decode (Float.ofBits (UInt64.ofNat bits)) = .ofBits bits := by
  have same : (UInt64.ofNat bits).toNat = bits :=
    UInt64.toNat_ofNat_of_lt' inside
  rw [decode, toBits_ofBits (by rwa [same]), same]

theorem decode_fraction {fraction : Nat} (inside : fraction < 2 ^ 52) :
    decode (Float.ofBits (UInt64.ofNat fraction)) =
      .finite ⟨false, fraction, leastExponent⟩ := by
  have place : fraction / 2 ^ 52 = 0 := Nat.div_eq_of_lt inside
  have sign : fraction / 2 ^ 63 = 0 := Nat.div_eq_of_lt (by omega)
  rw [decode_ofBits (by omega) (by rw [place]; decide)]
  simp only [Decoded.ofBits, Nat.pow_eq, place, sign, Nat.mod_eq_of_lt inside]
  rfl

theorem decode_place {place fraction : Nat} (positive : 0 < place)
    (finite : place < 2047) (inside : fraction < 2 ^ 52) :
    decode (Float.ofBits (UInt64.ofNat (place * 2 ^ 52 + fraction))) =
      .finite ⟨false, 2 ^ 52 + fraction, place - 1075⟩ := by
  have high : (place * 2 ^ 52 + fraction) / 2 ^ 52 = place := by omega
  have sign : (place * 2 ^ 52 + fraction) / 2 ^ 63 = 0 := by omega
  have low : (place * 2 ^ 52 + fraction) % 2 ^ 52 = fraction := by omega
  have small : place % 2 ^ 11 = place := by omega
  have notAll : (place == 2047) = false := beq_false_of_ne (by omega)
  have notNone : (place == 0) = false := beq_false_of_ne (by omega)
  rw [decode_ofBits (by omega) (by rw [high, small]; omega)]
  simp only [Decoded.ofBits, Nat.pow_eq, high, sign, low, small, notAll,
    notNone]
  rfl

/-- The number could be that of a floating-point number. -/
structure Binary.Fits (number : Binary) : Prop where
  mantissa : number.mantissa < 2 ^ 53
  least : leastExponent ≤ number.exponent

theorem fits_of_decode {float : Float} {number : Binary}
    (decoded : decode float = .finite number) : number.Fits := by
  unfold decode at decoded
  generalize float.toBits.toNat = bits at decoded
  have short : bits % 2 ^ 52 < 2 ^ 52 := Nat.mod_lt _ (by decide)
  simp only [Decoded.ofBits, Nat.pow_eq, beq_iff_eq] at decoded
  split at decoded
  · split at decoded <;> cases decoded
  · split at decoded
    · cases decoded
      exact ⟨Nat.lt_trans short (by decide), Int.le_refl _⟩
    · cases decoded
      constructor
      · exact Nat.add_lt_add_left short (2 ^ 52)
      · simp only [leastExponent, Int.ofNat_eq_natCast]
        omega

/-! ## Packing a mantissa -/

theorem packed?_carry (exponent : Int) :
    packed? (2 ^ 53) exponent = packed? (2 ^ 52) (exponent + 1) := by
  simp [packed?]

/-- A mantissa of at most 53 bits is packed as it is, unless its exponent is too
large. -/
theorem packed?_cases {mantissa : Nat} {exponent : Int}
    (short : mantissa < 2 ^ 53) (least : leastExponent ≤ exponent)
    (full : exponent = leastExponent ∨ 2 ^ 52 ≤ mantissa) :
    packed? mantissa exponent = none ∧ greatestExponent < exponent ∨
      ∃ float, packed? mantissa exponent = some float ∧
        decode float = .finite ⟨false, mantissa, exponent⟩ ∧
        exponent ≤ greatestExponent := by
  have noCarry : (mantissa == Nat.pow 2 53) = false :=
    beq_false_of_ne (Nat.ne_of_lt short)
  unfold packed?
  simp only [noCarry, Bool.false_eq_true, if_false]
  split
  · rename_i large
    exact .inl ⟨rfl, large⟩
  · rename_i inside
    right
    split
    · rename_i small
      have lowest := full.resolve_right (Nat.not_le_of_lt small)
      subst lowest
      exact ⟨_, rfl, decode_fraction small, Int.not_lt.mp inside⟩
    · rename_i notSmall
      refine ⟨_, rfl, ?_, Int.not_lt.mp inside⟩
      have large : 2 ^ 52 ≤ mantissa := Nat.not_lt.mp notSmall
      unfold leastExponent at least
      unfold greatestExponent at inside
      have placed : (((exponent + 1075).toNat : Nat) : Int) - 1075 = exponent :=
        by omega
      rw [Nat.pow_eq, decode_place (by omega) (by omega) (by omega),
        Nat.add_sub_cancel' large, placed]

end Shortcode.Decimal
