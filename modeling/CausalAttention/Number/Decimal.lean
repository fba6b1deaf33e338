import CausalAttention.Number.Binary

/-!
Decimal notation of doubles: the fewest digits that read back, a fixed number of decimal
places, and reading a decimal numeral.
-/

set_option autoImplicit false

namespace CausalAttention

structure Decimal where
  coefficient : Nat
  exponent : Int

/-- The numbers that round to one double, all over a common denominator. -/
structure RoundingInterval where
  lower : Nat
  value : Nat
  upper : Nat
  denominator : Nat
  closed : Bool

namespace RoundingInterval

/-- The interval around the positive double `magnitude · 2 ^ exponent`. The gap below a
power of two is half as wide as the gap above it, and the ends belong to the interval when
the significand is even. -/
def ofDouble (magnitude : Nat) (exponent : Int) : RoundingInterval :=
  let scale := twoTo (exponent - 2).toNat
  let below := if magnitude = twoTo 52 ∧ -1074 < exponent then 1 else 2
  { lower := (4 * magnitude - below) * scale
    value := 4 * magnitude * scale
    upper := (4 * magnitude + 2) * scale
    denominator := twoTo (2 - exponent).toNat
    closed := magnitude % 2 = 0 }

def inUnits (interval : RoundingInterval) (exponent : Int) : RoundingInterval :=
  let scale := tenTo (-exponent).toNat
  { lower := interval.lower * scale
    value := interval.value * scale
    upper := interval.upper * scale
    denominator := interval.denominator * tenTo exponent.toNat
    closed := interval.closed }

def covers (interval : RoundingInterval) (candidate : Nat) : Bool :=
  let scaled := candidate * interval.denominator
  if interval.closed then interval.lower ≤ scaled && scaled ≤ interval.upper
  else interval.lower < scaled && scaled < interval.upper

/-- The whole number of units in the interval that is nearest to the value, if one of the
two neighbours of the value lies in the interval. -/
def nearest? (interval : RoundingInterval) : Option Nat :=
  let below := interval.value / interval.denominator
  let above := below + 1
  let toBelow := interval.value - below * interval.denominator
  let toAbove := above * interval.denominator - interval.value
  let preferred := if toBelow < toAbove ∨ (toBelow = toAbove ∧ below % 2 = 0) then below else above
  let other := if preferred = below then above else below
  if interval.covers preferred then some preferred
  else if interval.covers other then some other
  else none

def leadingExponent (interval : RoundingInterval) : Int :=
  let binary := BinaryFormat.leadingExponent interval.value interval.denominator
  let estimate := Int.fdiv (binary * 30103) 100000
  let atLeast (exponent : Int) : Bool :=
    interval.denominator * tenTo exponent.toNat ≤ interval.value * tenTo (-exponent).toNat
  if atLeast (estimate + 1) then estimate + 1
  else if atLeast estimate then estimate
  else estimate - 1

/-- Tries grids of more and more digits and takes the first that has a point in the
interval. -/
def shortestFrom (interval : RoundingInterval) (leading : Int) : Nat → Nat → Decimal
  | 0, digits => ⟨interval.value / interval.denominator, digits⟩
  | tries + 1, digits =>
      let exponent := leading + 1 - (digits : Int)
      match (interval.inUnits exponent).nearest? with
      | some coefficient => ⟨coefficient, exponent⟩
      | none => shortestFrom interval leading tries (digits + 1)

def shortest (interval : RoundingInterval) : Decimal :=
  shortestFrom interval interval.leadingExponent 17 1

end RoundingInterval

structure DecimalNotation where
  leastPositional : Int
  greatestPositional : Int
  exponentDigits : Nat
  undefinedText : String
  infiniteText : String

/-- Numbers from `10 ^ -4` up to `10 ^ 16` are written positionally, and an exponent has a
sign and at least two digits. -/
def plainNotation : DecimalNotation :=
  { leastPositional := -4
    greatestPositional := 15
    exponentDigits := 2
    undefinedText := "nan"
    infiniteText := "inf" }

def padDigits (width : Nat) (digits : String) : String :=
  String.ofList (List.replicate (width - digits.length) '0') ++ digits

def DecimalNotation.unsigned (style : DecimalNotation) (number : Decimal) : String :=
  let digits := (toString number.coefficient).toList
  let count : Int := digits.length
  let leading := number.exponent + count - 1
  if style.leastPositional ≤ leading ∧ leading ≤ style.greatestPositional then
    if 0 ≤ number.exponent then
      String.ofList (digits ++ List.replicate number.exponent.toNat '0') ++ ".0"
    else if 0 ≤ leading then
      let whole := (leading + 1).toNat
      String.ofList (digits.take whole) ++ "." ++ String.ofList (digits.drop whole)
    else
      "0." ++ String.ofList (List.replicate (-leading - 1).toNat '0' ++ digits)
  else
    let fraction := (digits.drop 1).reverse.dropWhile (· = '0')
    let significand :=
      String.ofList (digits.take 1) ++
        (if fraction.isEmpty then "" else "." ++ String.ofList fraction.reverse)
    significand ++ (if leading < 0 then "e-" else "e+") ++
      padDigits style.exponentDigits (toString leading.natAbs)

/-- Writes a double with the fewest digits that read back. -/
def DecimalNotation.write (style : DecimalNotation) (value : Float) : String :=
  match DyadicValue.ofFloat value with
  | .undefined => style.undefinedText
  | .infinite negative => (if negative then "-" else "") ++ style.infiniteText
  | .finite negative magnitude exponent =>
      let sign := if negative then "-" else ""
      if magnitude = 0 then sign ++ "0.0"
      else sign ++ style.unsigned (RoundingInterval.ofDouble magnitude exponent).shortest

/-- Writes a finite double rounded to a number of decimal places, a tie going to the even
neighbour, without a sign when the rounded value is zero. Nothing for other doubles. -/
def writeRounded? (places : Nat) (value : Float) : Option String :=
  match DyadicValue.ofFloat value with
  | .undefined | .infinite _ => none
  | .finite negative magnitude exponent =>
      let scaled :=
        roundQuotient (magnitude * twoTo exponent.toNat * tenTo places) (twoTo (-exponent).toNat)
      let whole := toString (scaled / tenTo places)
      let fraction := if places = 0 then "0" else padDigits places (toString (scaled % tenTo places))
      some ((if negative ∧ scaled ≠ 0 then "-" else "") ++ whole ++ "." ++ fraction)

/-- The double nearest to `±coefficient · 10 ^ exponent`. Exponents far outside the range of
doubles are settled without computing the power. -/
def floatOfDecimal (negative : Bool) (coefficient : Nat) (exponent : Int) : Float :=
  let size : Int := ((coefficient.log2 : Int) * 30103) / 100000 + exponent
  if coefficient = 0 ∨ size < -400 then floatOfScaled negative 0 0
  else if 400 < size then signedInfinity negative
  else
    BinaryFormat.double.ofQuotient negative (coefficient * tenTo exponent.toNat)
      (tenTo (-exponent).toNat)

end CausalAttention
