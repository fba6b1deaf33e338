import CausalAttention.Failure

/-!
Numbers in settings, as they were written: whole, or with a fraction.

Two whole numbers are divided exactly. As soon as one of two numbers has a fraction, both are
taken as doubles, which a whole number can be too large for.

A requirement on a number that is violated is a failure with a stated cause.
-/

set_option autoImplicit false

namespace CausalAttention

inductive Numeral where
  | whole (value : Int)
  | fractional (value : Float)

def Setting.numeral? : Setting → Option Numeral
  | .int number => some (.whole number)
  | .bool flag => some (.whole (if flag then 1 else 0))
  | .float number => some (.fractional number)
  | _ => none

namespace Numeral

def value : Numeral → DyadicValue
  | whole number => .ofInteger number
  | fractional number => .ofFloat number

def toFloat : Numeral → Except Failure Float
  | whole number =>
      let nearest := BinaryFormat.double.ofInteger number
      if nearest.isFinite then .ok nearest else .error .numberTooLarge
  | fractional number => .ok number

def toFloats (left right : Numeral) : Except Failure (Float × Float) := do
  let leftNumber ← left.toFloat
  let rightNumber ← right.toFloat
  return (leftNumber, rightNumber)

def isMultipleOf (dividend divisor : Numeral) : Except Failure Bool :=
  match dividend, divisor with
  | whole left, whole right => .ok (left % right = 0)
  | _, _ => do
      let (left, right) ← dividend.toFloats divisor
      return floatRemainder left right == 0.0

/-- The quotient of two doubles, rounded down. The remainder is taken off first, so that what is
divided is close to a multiple of the divisor. -/
def floorQuotient (dividend divisor : Float) : Float :=
  let remainder := floatRemainder dividend divisor
  let quotient := (dividend - remainder) / divisor
  let lowered :=
    if !(remainder == 0.0) && (decide (divisor < 0.0) != decide (remainder < 0.0)) then
      quotient - 1.0
    else quotient
  if lowered == 0.0 then
    if (dividend / divisor).toBits < 0x8000000000000000 then 0.0 else -0.0
  else
    let nearest := lowered.floor
    if 0.5 < lowered - nearest then nearest + 1.0 else nearest

end Numeral

def Setting.number (setting : Setting) : Except Failure DyadicValue :=
  match setting.number? with
  | some number => .ok number
  | none => .error .wrongKind

/-- Requires a number to be at least one. An undefined value is not below one. -/
def requirePositive (setting : Setting) (failure : Failure) : Except Failure Unit := do
  let number ← Setting.number setting
  require (!number.isLess (.ofInteger 1)) failure

theorem requirePositive_int (number : Int) (failure : Failure) :
    requirePositive (.int number) failure = if 1 ≤ number then .ok () else .error failure := by
  simp only [requirePositive, Setting.number, Value.number?, require,
    DyadicValue.isLess_ofInteger, bind, Except.bind]
  by_cases positive : 1 ≤ number
  · simp [positive]
  · simp [positive, Int.not_le.mp positive]

end CausalAttention
