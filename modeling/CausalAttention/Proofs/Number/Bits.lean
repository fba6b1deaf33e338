import Mathlib
import CausalAttention.Proofs.Number.Truncation

/-!
The bits of doubles. The bits of a finite double are kept when it is made of them, so a significand
and an exponent that are written into bits are read back from them.
-/

set_option autoImplicit false

namespace CausalAttention

theorem twoTo_toNat (exponent : Int) :
    ((twoTo exponent.toNat : Nat) : ℚ) = 2 ^ exponent * (twoTo (-exponent).toNat : Nat) := by
  rw [cast_twoTo, cast_twoTo, ← zpow_add₀ two_ne_zero]
  congr 1
  omega

section Bits

open Float.Model Float.Model.UnpackedFloat

theorem toNat_unpackExponent (bits : BitVec Format.binary64.numBits) :
    (unpackExponent bits).toNat = bits.toNat / twoTo 52 % twoTo 11 := by
  simp only [unpackExponent, BitVec.toNat_cast, BitVec.extractLsb_toNat,
    Nat.shiftRight_eq_div_pow]
  rfl

theorem unpackExponent_ne {bits : UInt64} (finite : bits.toNat / twoTo 52 % twoTo 11 ≠ 2047) :
    @unpackExponent .binary64 bits.toBitVec ≠ -1#_ := by
  intro same
  apply finite
  rw [← UInt64.toNat_toBitVec, ← toNat_unpackExponent, same]
  rfl

theorem toBits_ofBits {bits : UInt64} (finite : bits.toNat / twoTo 52 % twoTo 11 ≠ 2047) :
    (Float.ofBits bits).toBits = bits := by
  have exponent := unpackExponent_ne finite
  have number : @isNaNBits .binary64 bits.toBitVec = false :=
    decide_eq_false fun undefined => exponent undefined.1
  have packed := @pack_unpack .binary64 bits.toBitVec (by decide)
  rw [number] at packed
  exact congrArg UInt64.ofBitVec packed

end Bits

namespace DyadicValue

theorem ofFloat_ofBits (negative : Bool) {magnitude : Nat} (finite : magnitude < 2047 * twoTo 52) :
    ofFloat (Float.ofBits (UInt64.ofNat (if negative then twoTo 63 + magnitude else magnitude))) =
      if magnitude < twoTo 52 then .finite negative magnitude (-1074)
      else .finite negative (twoTo 52 + magnitude % twoTo 52)
        ((magnitude / twoTo 52 : Nat) - 1075) := by
  have fractions : twoTo 52 = 4503599627370496 := rfl
  have exponents : twoTo 11 = 2048 := rfl
  have signs : twoTo 63 = 9223372036854775808 := rfl
  generalize written : (if negative then twoTo 63 + magnitude else magnitude) = word
  have sign : decide (twoTo 63 ≤ word) = negative := by
    subst written
    cases negative with
    | false => simp only [Bool.false_eq_true, if_false, decide_eq_false_iff_not]; omega
    | true => simp only [if_true, decide_eq_true_eq]; omega
  rw [fractions] at finite ⊢
  have fraction : word % 4503599627370496 = magnitude % 4503599627370496 := by
    subst written
    split <;> omega
  have biased : word / 4503599627370496 % 2048 = magnitude / 4503599627370496 := by
    subst written
    split <;> omega
  have read : (UInt64.ofNat word).toNat = word := by
    apply UInt64.toNat_ofNat_of_lt'
    change word < 18446744073709551616
    subst written
    split <;> omega
  have finiteBits : magnitude / 4503599627370496 ≠ 2047 := by omega
  unfold ofFloat
  rw [toBits_ofBits (by rw [read, fractions, exponents, biased]; exact finiteBits), read]
  simp only [fractions, exponents, sign, fraction, biased, if_neg finiteBits]
  by_cases subnormal : magnitude < 4503599627370496
  · rw [if_pos (by omega), if_pos subnormal, Nat.mod_eq_of_lt subnormal]
  · rw [if_neg (by omega), if_neg subnormal]

/-- The significand of a double has all of its digits unless the exponent is the least. -/
theorem normalised {significand : Nat} {exponent unit : Int} (nonzero : significand ≠ 0)
    (precise : significand.log2 ≤ 52)
    (united : unit = max (-1074) (exponent + (significand.log2 : Int) - 52))
    (within : unit ≤ exponent) :
    significand * twoTo (exponent - unit).toNat < twoTo 53 ∧
      (twoTo 52 ≤ significand * twoTo (exponent - unit).toNat ∨ unit = -1074) := by
  have lower : twoTo significand.log2 ≤ significand := Nat.log2_self_le nonzero
  have upper : significand < twoTo (significand.log2 + 1) := Nat.lt_log2_self
  have join (first second : Nat) : twoTo first * twoTo second = twoTo (first + second) :=
    (Nat.pow_add 2 first second).symm
  have mono {first second : Nat} (le : first ≤ second) : twoTo first ≤ twoTo second :=
    Nat.pow_le_pow_right (Nat.succ_pos 1) le
  constructor
  · calc significand * twoTo (exponent - unit).toNat
        < twoTo (significand.log2 + 1) * twoTo (exponent - unit).toNat :=
          Nat.mul_lt_mul_of_pos_right upper (twoTo_pos _)
      _ = twoTo (significand.log2 + 1 + (exponent - unit).toNat) := join _ _
      _ ≤ twoTo 53 := mono (by omega)
  · by_cases least : unit = -1074
    · exact Or.inr least
    · left
      calc twoTo 52 = twoTo (significand.log2 + (exponent - unit).toNat) := by
            congr 1
            omega
        _ = twoTo significand.log2 * twoTo (exponent - unit).toNat := (join _ _).symm
        _ ≤ significand * twoTo (exponent - unit).toNat := Nat.mul_le_mul_right _ lower

theorem rational?_floatOfScaled (negative : Bool) {significand : Nat} {exponent : Int}
    (precise : significand < twoTo 53) (least : -1074 ≤ exponent)
    (bounded : (significand : ℚ) * 2 ^ exponent < 2 ^ (1024 : Int)) :
    (ofFloat (floatOfScaled negative significand exponent)).rational? =
      some (scaled negative significand exponent) := by
  have fractions : twoTo 52 = 4503599627370496 := rfl
  have precision : twoTo 53 = 9007199254740992 := rfl
  unfold floatOfScaled
  by_cases zero : significand = 0
  · simp only [if_pos zero]
    rw [ofFloat_ofBits negative (by rw [fractions]; decide), if_pos (by omega)]
    simp [rational?, scaled, signed, zero]
  · have logarithm : significand.log2 ≤ 52 := by
      have below := (Nat.log2_lt zero).mpr precise
      omega
    simp only [if_neg zero]
    generalize united : max (-1074) (exponent + (significand.log2 : Int) - 52) = unit
    have within : unit ≤ exponent := by omega
    have unshifted : (unit - exponent).toNat = 0 := by omega
    rw [unshifted, twoTo_zero, Nat.div_one]
    obtain ⟨below, leads⟩ := normalised zero logarithm united.symm within
    have joined := mul_zpow_eq significand within
    generalize significand * twoTo (exponent - unit).toNat = fraction at *
    have same : scaled negative fraction unit = scaled negative significand exponent := by
      cases negative with
      | false => simpa [scaled, signed] using joined.symm
      | true => simpa [scaled, signed] using joined.symm
    rw [← same]
    rw [precision] at below
    rw [fractions] at leads ⊢
    by_cases subnormal : fraction < 4503599627370496
    · obtain rfl : unit = -1074 := leads.resolve_left (by omega)
      have start : ((-1074 : Int) + 1074).toNat * 4503599627370496 + fraction = fraction := by
        simp
      rw [start, ofFloat_ofBits negative (by rw [fractions]; omega), fractions, if_pos subnormal]
      rfl
    · have bound : unit ≤ 971 := by
        by_contra greater
        have large : (2 : ℚ) ^ (1024 : Int) ≤ fraction * 2 ^ unit := by
          calc (2 : ℚ) ^ (1024 : Int) ≤ 2 ^ (52 + unit) :=
                zpow_le_zpow_right₀ one_le_two (by omega)
            _ = ((4503599627370496 : Nat) : ℚ) * 2 ^ unit := by
                rw [zpow_add₀ two_ne_zero]
                norm_num
            _ ≤ fraction * 2 ^ unit := by
                gcongr
                omega
        exact absurd (joined ▸ bounded) (not_lt_of_ge large)
      have quotient : ((unit + 1074).toNat * 4503599627370496 + fraction) / 4503599627370496 =
          (unit + 1075).toNat := by
        omega
      have remainder : ((unit + 1074).toNat * 4503599627370496 + fraction) % 4503599627370496 =
          fraction - 4503599627370496 := by
        omega
      have exponentEq : ((unit + 1075).toNat : Int) - 1075 = unit := by omega
      have fractionEq : 4503599627370496 + (fraction - 4503599627370496) = fraction := by omega
      rw [ofFloat_ofBits negative (by rw [fractions]; omega), fractions, if_neg (by omega), quotient,
        remainder, exponentEq, fractionEq]
      rfl

end DyadicValue

theorem fields_of_rational? {value : Float} {number : ℚ}
    (finite : (DyadicValue.ofFloat value).rational? = some number) :
    value.toBits.toNat / twoTo 52 % twoTo 11 ≠ 2047 ∧
      ∃ negative magnitude exponent, number = DyadicValue.scaled negative magnitude exponent ∧
        magnitude < twoTo 53 ∧ -1074 ≤ exponent ∧ exponent ≤ 971 := by
  have fractions : twoTo 52 = 4503599627370496 := rfl
  have precision : twoTo 53 = 9007199254740992 := rfl
  have exponents : twoTo 11 = 2048 := rfl
  unfold DyadicValue.ofFloat at finite
  simp only [fractions, exponents] at finite ⊢
  split at finite
  · split at finite
    · contradiction
    · contradiction
  · rename_i encoded
    refine ⟨encoded, ?_⟩
    split at finite
    · exact ⟨_, _, _, (Option.some.inj finite).symm, by omega, by omega, by omega⟩
    · exact ⟨_, _, _, (Option.some.inj finite).symm, by omega, by omega, by omega⟩

open Float.Model Float.Model.UnpackedFloat in
theorem isFinite_of_rational? {value : Float} {number : ℚ}
    (finite : (DyadicValue.ofFloat value).rational? = some number) : value.isFinite = true := by
  have exponent := unpackExponent_ne (fields_of_rational? finite).1
  change (UnpackedFloat.unpack .binary64 value.toBits.toBitVec).isFinite = true
  rw [UnpackedFloat.unpack]
  simp only [if_neg exponent]
  split
  · split <;> rfl
  · rfl

end CausalAttention
