import CausalAttention.Arithmetic
import CausalAttention.Number.Binary

/-!
Machine numbers: whole numbers that wrap at the width of their type, and floating-point
numbers that are rounded to the format of their type after every operation.
-/

set_option autoImplicit false

namespace CausalAttention

/-- A value of any element type. A double holds the values of every floating type. -/
inductive MachineNumber where
  | whole (value : Int)
  | real (value : Float)

namespace MachineNumber

def toFloat : MachineNumber → Float
  | whole value => BinaryFormat.double.ofInteger value
  | real value => value

def isNonzero : MachineNumber → Bool
  | whole value => value ≠ 0
  | real value => !(DyadicValue.ofFloat value).isEqual (.ofInteger 0)

def isPositive : MachineNumber → Bool
  | whole value => 0 < value
  | real value => 0.0 < value

/-- Rounds a double to a floating type. The sixteen-bit types are reached by way of single
precision. -/
def roundTo (type : ElementType) (value : Float) : Float :=
  match type with
  | .float16 => BinaryFormat.half.ofFloat (BinaryFormat.single.ofFloat value)
  | .bfloat16 => BinaryFormat.brain.ofFloat (BinaryFormat.single.ofFloat value)
  | .float32 => BinaryFormat.single.ofFloat value
  | .float64 | .int64 | .int32 | .uint8 | .bool => value

def wrap (type : ElementType) (value : Int) : Int :=
  match type with
  | .int64 => Int.bmod value (twoTo 64)
  | .int32 => Int.bmod value (twoTo 32)
  | .uint8 => value % twoTo 8
  | .bool => if value = 0 then 0 else 1
  | .float32 | .float64 | .float16 | .bfloat16 => value

def ofInteger (type : ElementType) (value : Int) : MachineNumber :=
  match type with
  | .float64 => real (BinaryFormat.double.ofInteger value)
  | .float32 => real (BinaryFormat.single.ofInteger value)
  | .float16 | .bfloat16 => real (roundTo type (BinaryFormat.single.ofInteger value))
  | .int64 | .int32 | .uint8 | .bool => whole (wrap type value)

/-- The integer part of a double that lies within a signed width; the least integer of that
width stands for every other double. -/
def truncate (width : Nat) (value : Float) : Int :=
  let least : Int := -(twoTo (width - 1) : Int)
  match (DyadicValue.ofFloat value).truncated? with
  | some integer => if least ≤ integer ∧ integer < -least then integer else least
  | none => least

def truncationWidth (type : ElementType) : Nat :=
  if type = .int32 then 32 else 64

def convert (type : ElementType) (number : MachineNumber) : MachineNumber :=
  match number with
  | whole value => ofInteger type value
  | real value =>
      if type.isFloating then real (roundTo type value)
      else if type = .bool then whole (if number.isNonzero then 1 else 0)
      else whole (wrap type (truncate (truncationWidth type) value))

def combine (onReals : Float → Float → Float) (onIntegers : Int → Int → Int)
    (type : ElementType) (left right : MachineNumber) : MachineNumber :=
  if type.isFloating then real (roundTo type (onReals left.toFloat right.toFloat))
  else
    match left, right with
    | whole leftValue, whole rightValue => whole (wrap type (onIntegers leftValue rightValue))
    | _, _ => whole 0

def atLeast (bound number : MachineNumber) : MachineNumber :=
  if number.toFloat < bound.toFloat then bound else number

/-- Exponentials of the distances to the greatest entry, scaled by the inverse of their sum, with
every step rounded to the type. A row in which every entry is negative infinity, or some entry is
undefined or positive infinity, becomes undefined throughout. -/
def softmax (type : ElementType) (row : List MachineNumber) : List MachineNumber :=
  let values := row.map toFloat
  let greatest := values.foldl (fun best value => if best < value then value else best)
    (signedInfinity true)
  let exponentials := values.map fun value => roundTo type (roundTo type (value - greatest)).exp
  let total := exponentials.foldl (fun sum value => roundTo type (sum + value)) 0.0
  let scale := roundTo type (1.0 / total)
  exponentials.map fun value => real (roundTo type (value * scale))

end MachineNumber

instance : Arithmetic MachineNumber where
  default := .whole 0
  ofInteger := MachineNumber.ofInteger
  convert := MachineNumber.convert
  add := MachineNumber.combine (· + ·) (· + ·)
  multiply := MachineNumber.combine (· * ·) (· * ·)
  atLeast := MachineNumber.atLeast
  softmax := MachineNumber.softmax
  isNonzero := MachineNumber.isNonzero
  isPositive := MachineNumber.isPositive

end CausalAttention
