import CausalAttention.Number.Dyadic

/-!
Binary floating-point formats and correctly rounded conversion into them.

A quotient of natural numbers is rounded once, to nearest with ties to the even neighbour,
on the grid of a chosen format. Every narrower format is contained in the doubles, so the
rounded value is handed back as a double.
-/

set_option autoImplicit false

namespace CausalAttention

def roundQuotient (numerator denominator : Nat) : Nat :=
  let quotient := numerator / denominator
  let twice := 2 * (numerator % denominator)
  if twice < denominator then quotient
  else if denominator < twice then quotient + 1
  else quotient + quotient % 2

/-- A binary format. Its finite values are `±m · 2 ^ q` with `m < 2 ^ precision` and
`leastExponent ≤ q`, all of them below `2 ^ bound`. -/
structure BinaryFormat where
  precision : Nat
  leastExponent : Int
  bound : Int

namespace BinaryFormat

def half : BinaryFormat := ⟨11, -24, 16⟩

def brain : BinaryFormat := ⟨8, -133, 128⟩

def single : BinaryFormat := ⟨24, -149, 128⟩

def double : BinaryFormat := ⟨53, -1074, 1024⟩

def leadingExponent (numerator denominator : Nat) : Int :=
  let estimate : Int := (numerator.log2 : Int) - (denominator.log2 : Int)
  if numerator * twoTo (-estimate).toNat < denominator * twoTo estimate.toNat then estimate - 1
  else estimate

/-- Rounds a quotient to the format. The result is a significand with its exponent, or
nothing when the rounded value reaches the bound of the format. -/
def round? (format : BinaryFormat) (numerator denominator : Nat) : Option (Nat × Int) :=
  if numerator = 0 then some (0, format.leastExponent)
  else
    let leading := leadingExponent numerator denominator
    let unit := max format.leastExponent (leading + 1 - format.precision)
    let significand :=
      roundQuotient (numerator * twoTo (-unit).toNat) (denominator * twoTo unit.toNat)
    if format.bound < unit ∨ twoTo (format.bound - unit).toNat ≤ significand then none
    else some (significand, unit)

end BinaryFormat

def signedInfinity (negative : Bool) : Float :=
  Float.ofBits (if negative then 0xFFF0000000000000 else 0x7FF0000000000000)

def undefinedFloat : Float := Float.ofBits 0x7FF8000000000000

/-- The double `±significand · 2 ^ exponent`, for a significand of at most 54 bits whose
value is a double. -/
def floatOfScaled (negative : Bool) (significand : Nat) (exponent : Int) : Float :=
  let unit := max (-1074) (exponent + significand.log2 - 52)
  let fraction := significand * twoTo (exponent - unit).toNat / twoTo (unit - exponent).toNat
  let magnitude := if significand = 0 then 0 else (unit + 1074).toNat * twoTo 52 + fraction
  Float.ofBits (UInt64.ofNat (if negative then twoTo 63 + magnitude else magnitude))

def BinaryFormat.ofQuotient (format : BinaryFormat) (negative : Bool)
    (numerator denominator : Nat) : Float :=
  match format.round? numerator denominator with
  | some (significand, exponent) => floatOfScaled negative significand exponent
  | none => signedInfinity negative

def BinaryFormat.ofInteger (format : BinaryFormat) (value : Int) : Float :=
  format.ofQuotient (decide (value < 0)) value.natAbs 1

def BinaryFormat.ofFloat (format : BinaryFormat) (value : Float) : Float :=
  match DyadicValue.ofFloat value with
  | .finite negative magnitude exponent =>
      format.ofQuotient negative (magnitude * twoTo exponent.toNat) (twoTo (-exponent).toNat)
  | .infinite _ | .undefined => value

/-- The exact remainder of a division toward zero, with the sign of the dividend. The remainder
by an infinite number is the dividend itself, and there is none of an infinite number. -/
def floatRemainder (dividend divisor : Float) : Float :=
  let left := DyadicValue.ofFloat dividend
  let right := DyadicValue.ofFloat divisor
  match left, right with
  | .finite negative leftMagnitude leftExponent, .finite _ rightMagnitude rightExponent =>
      let least := min leftExponent rightExponent
      let remainder := (leftMagnitude * twoTo (leftExponent - least).toNat) %
        (rightMagnitude * twoTo (rightExponent - least).toNat)
      BinaryFormat.double.ofQuotient negative (remainder * twoTo least.toNat)
        (twoTo (-least).toNat)
  | .finite _ _ _, .infinite _ => dividend
  | _, _ => undefinedFloat

end CausalAttention
