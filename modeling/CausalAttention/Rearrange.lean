import CausalAttention.Memory

/-!
Regrouping of tensors: the heads of the features, and the windows and the blocks of a sequence.

The feature axis is the concatenation of the features of all heads. Splitting gives the heads
an axis of their own in front of the positions; merging puts their features side by side
again. Windows and blocks act on tensors whose second axis runs through the sequence, with or
without a feature axis behind it.

A typed tensor is regrouped within what a machine can hold: the sizes that a caller chooses
have to be words, and the result has to be a view of the entries.
-/

set_option autoImplicit false

namespace CausalAttention.Tensor

variable {α : Type} [Inhabited α]

omit [Inhabited α] in
def splitSizes (heads headSize : Int) (tensor : Tensor α) : Except Failure (List Int) := do
  tensor.requireRank 3 4
  let features := tensor.extent (tensor.rank - 1)
  if (features : Int) ≠ heads * headSize then
    .error (.headsMismatch features (.int heads) (.int headSize))
  else return (tensor.shape.dropLast.map fun (size : Nat) => (size : Int)) ++ [heads, headSize]

/-- `[batch, positions, features]` becomes `[batch, heads, positions, head features]`, and
with blocks in front of the positions likewise. -/
def splitHeads (heads headSize : Int) (tensor : Tensor α) : Except Failure (Tensor α) := do
  let sizes ← tensor.splitSizes heads headSize
  let grouped ← tensor.reshape sizes
  return grouped.swapAxes (tensor.rank - 2)

omit [Inhabited α] in
def mergeSizes (heads headSize : Int) (tensor : Tensor α) : Except Failure (List Int) := do
  tensor.requireRank 4 5
  let outer := (Shape.swapAt (tensor.rank - 3) tensor.shape).take (tensor.rank - 2)
  return (outer.map fun (size : Nat) => (size : Int)) ++ [heads * headSize]

def mergeHeads (heads headSize : Int) (tensor : Tensor α) : Except Failure (Tensor α) := do
  let sizes ← tensor.mergeSizes heads headSize
  (tensor.swapAxes (tensor.rank - 3)).reshape sizes

def lead (window : Int) (filler : α) (tensor : Tensor α) : Except Failure (Tensor α) := do
  tensor.requireRank 2 3
  tensor.padFront 1 window filler

/-- The windows of a sequence that has positions in front of it, one for every block. Their
slots come last, or in front of the features when `slotsFirst` holds. -/
def blockWindows (blockLength window : Int) (slotsFirst : Bool) (tensor : Tensor α) :
    Except Failure (Tensor α) := do
  let spread ← tensor.windows 1 (window + blockLength) blockLength
  if slotsFirst then spread.transpose else return spread

/-- For every block the positions of the block itself, after as many positions in front of it
as the window has. Positions before the sequence hold the filler. -/
def lookBack (blockLength window : Int) (filler : α) (slotsFirst : Bool) (tensor : Tensor α) :
    Except Failure (Tensor α) := do
  let padded ← tensor.lead window filler
  padded.blockWindows blockLength window slotsFirst

omit [Inhabited α] in
def sequenceSizes (outer inner : Int) (features : Option Int) (tensor : Tensor α) :
    Except Failure (List Int) :=
  match tensor.shape with
  | [] => .error .axisOutOfRange
  | [batch, _] => .ok [batch, outer, inner]
  | [batch, _, size] => .ok [batch, outer, inner, features.getD size]
  | _ => .error (.unexpectedRank 2 3 tensor.rank)

omit [Inhabited α] in
def splitSequence (outer inner : Int) (features : Option Int) (tensor : Tensor α) :
    Except Failure (Tensor α) := do
  let sizes ← tensor.sequenceSizes outer inner features
  tensor.reshape sizes

end CausalAttention.Tensor

namespace CausalAttention.TypedTensor

variable {α : Type} [Inhabited α]

omit [Inhabited α] in
def regroup (sizes : Except Failure (List Int)) (change : Tensor α → Except Failure (Tensor α))
    (typed : TypedTensor α) : Except Failure (TypedTensor α) := do
  let requested ← sizes
  Memory.requireSizes requested
  let result ← typed.relayout change
  Memory.requireView (requested.map Int.toNat)
  Memory.requireView result.shape
  return result

def splitHeads (heads headSize : Int) (typed : TypedTensor α) : Except Failure (TypedTensor α) :=
  typed.regroup (typed.tensor.splitSizes heads headSize) (Tensor.splitHeads heads headSize)

def mergeHeads (heads headSize : Int) (typed : TypedTensor α) : Except Failure (TypedTensor α) :=
  typed.regroup (typed.tensor.mergeSizes heads headSize) (Tensor.mergeHeads heads headSize)

omit [Inhabited α] in
def splitSequence (outer inner : Int) (features : Option Int) (typed : TypedTensor α) :
    Except Failure (TypedTensor α) :=
  typed.regroup (typed.tensor.sequenceSizes outer inner features)
    (Tensor.splitSequence outer inner features)

end CausalAttention.TypedTensor
