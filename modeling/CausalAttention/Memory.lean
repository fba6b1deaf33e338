import CausalAttention.Tensor.Typed

/-!
What a machine can hold: sizes of sixty-three bits, and tensors up to a number of bytes.

The operations of the other modules are defined for tensors of any size. The requirements here
say for which sizes a machine carries them out, and with which cause it fails for the others.
-/

set_option autoImplicit false

namespace CausalAttention

def ElementType.byteCount : ElementType → Nat
  | .float64 | .int64 => 8
  | .float32 | .int32 => 4
  | .float16 | .bfloat16 => 2
  | .uint8 | .bool => 1

namespace Memory

def isWord (number : Int) : Bool :=
  -(twoTo 63 : Int) ≤ number && number < (twoTo 63 : Int)

def requireSizes (sizes : List Int) : Except Failure Unit :=
  require (sizes.all isWord) .sizeOutOfRange

def requireCounts (counts : List Int) : Except Failure Unit :=
  require (counts.all isWord) .countOutOfRange

/-- Whether the number of entries is found by multiplying a volume by sizes, from left to right
and in words without sign. -/
def isCountableFrom (volume : Nat) : Shape → Bool
  | [] => volume < twoTo 63
  | size :: rest => volume * size < twoTo 64 && isCountableFrom (volume * size) rest

/-- The steps from one entry to the next along every axis, as they come out in wrapping words.
An empty axis counts as one of size one. -/
def strides : Shape → List Int
  | [] => []
  | [_] => [1]
  | _ :: size :: rest =>
      let inner := strides (size :: rest)
      Int.bmod ((max size 1 : Nat) * inner.headD 1) (twoTo 64) :: inner

def requireView (shape : Shape) : Except Failure Unit :=
  require (isCountableFrom 1 shape && (strides shape).all (0 ≤ ·)) .invalidSize

def byteLimit : Nat :=
  twoTo 34

/-- Requires a tensor of a shape to have room in memory, and the steps along its axes to be
words. -/
def requireRoom (elementType : ElementType) (shape : Shape) : Except Failure Unit :=
  let firstStep := Shape.volume ((shape.drop 1).map (max 1))
  require (isCountableFrom 1 shape && firstStep < twoTo 63 &&
    Shape.volume shape * elementType.byteCount < byteLimit) .tensorTooLarge

/-- The cause for which the window of an empty sequence does not fit. The window itself is the
block of such a sequence. -/
def emptyWindowFailure (batch : Nat) (window : Int) : Failure :=
  if !isWord window then .sizeOutOfRange
  else if batch = 0 && !isWord (2 * window) then .countOutOfRange
  else .windowDoesNotFit

def requireSquare (elementType : ElementType) (size : Nat) : Except Failure Unit := do
  requireSizes [size]
  requireRoom elementType [size, size]

end Memory

end CausalAttention
