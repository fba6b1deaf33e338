import CausalAttention.Number.Machine
import CausalAttention.Numeral
import CausalAttention.Rearrange

/-!
Fillers: the numbers that stand in windows in front of the sequence.

A filler is given as a number of any type and is converted to the element type of the tensor,
whose range has to hold it.
-/

set_option autoImplicit false

namespace CausalAttention

/-- The least and the greatest finite value of a type, as doubles: the greatest integer of
sixty-four bits is rounded up. -/
def ElementType.finiteRange (type : ElementType) : Int × Int :=
  let upTo (greatest : Nat) : Int × Int := (-(greatest : Int), greatest)
  match type with
  | float64 => upTo (twoTo 1024 - twoTo 971)
  | float32 => upTo (twoTo 128 - twoTo 104)
  | bfloat16 => upTo (twoTo 128 - twoTo 120)
  | float16 => upTo (twoTo 16 - twoTo 5)
  | int64 => upTo (twoTo 63)
  | int32 => (-(twoTo 31 : Int), (twoTo 31 - 1 : Nat))
  | uint8 => (0, 255)
  | bool => (0, 1)

/-- Whether a number can fill a tensor of a type. Every number has a truth value, and every
floating type has infinite and undefined values. -/
def DyadicValue.canFill (type : ElementType) (value : DyadicValue) : Bool :=
  if type = .bool then true
  else
    match value with
    | .finite _ _ _ =>
        (ofInteger type.finiteRange.1).isAtMost value &&
          value.isAtMost (ofInteger type.finiteRange.2)
    | .infinite _ | .undefined => type.isFloating

/-- Windows of a tensor in which a number fills the slots in front of the sequence. Where
nothing is filled it does not matter whether the number can fill. -/
def TypedTensor.lookBack (blockLength window : Int) (filler : Numeral) (slotsFirst : Bool)
    (typed : TypedTensor MachineNumber) : Except Failure (TypedTensor MachineNumber) := do
  typed.tensor.requireRank 2 3
  Memory.requireSizes [window]
  let number ← filler.toFloat
  let entry := MachineNumber.convert typed.elementType (.real number)
  Memory.requireRoom typed.elementType
    (typed.shape.set 1 (typed.tensor.extent 1 + window).toNat)
  let padded ← typed.tensor.lead window entry
  require (window ≤ 0 || (DyadicValue.ofFloat number).canFill typed.elementType) .valueOutOfRange
  Memory.requireCounts [window + blockLength, blockLength]
  let spread ← padded.blockWindows blockLength window slotsFirst
  return ⟨typed.elementType, spread⟩

end CausalAttention
