import CausalAttention.Layer.Basic
import CausalAttention.Mask
import CausalAttention.Numeral

/-!
Running a layer.

In a global layer every query reaches its own position and all positions before it. The cache
holds the keys and the values of earlier positions with the heads already split.

In a local layer every query reaches the positions of a window that ends with its own. The
sequence is cut into blocks, and the queries of a block attend to the block and to the window
in front of it. The cache holds hidden states; with a cache the layer takes one new token,
whose keys lie in the last block.
-/

set_option autoImplicit false

namespace CausalAttention

def Setting.windowSize (setting : Setting) : Except Failure Int :=
  match setting with
  | .int size => .ok size
  | _ => .error .wrongKind

namespace Layer

variable {α : Type} [Arithmetic α]

def extendKeysValues (past : Option (Cache α)) (key value : TypedTensor α) :
    Except Failure (TypedTensor α × TypedTensor α) :=
  match past with
  | none => .ok (key, value)
  | some [pastKey, pastValue] => do
      let keys ← pastKey.append (-2) key
      let values ← pastValue.append (-2) value
      return (keys, values)
  | some _ => .error .wrongCount

def runGlobal (layer : Layer α) (limit : Nat) (input : LayerInput α) :
    Except Failure (LayerOutput α) := do
  let queryFeatures ← input.hidden.linear layer.parameters.query
  let keyFeatures ← input.hidden.linear layer.parameters.key
  let valueFeatures ← input.hidden.linear layer.parameters.value
  let query ← layer.split queryFeatures
  let newKey ← layer.split keyFeatures
  let newValue ← layer.split valueFeatures
  let (key, value) ← extendKeysValues input.past newKey newValue
  let keyCount := key.positionCount
  if limit < keyCount then .error (.sequenceTooLong keyCount limit)
  else do
    let visible := causalMask query.positionCount keyCount
    let additive ← match input.attentionMask with
      | none => pure none
      | some mask => (additiveMask .float32 mask).map some
    let attended ← Attended.ofMasked query key value visible layer.maskedBias
      layer.attentionDropout additive input.headMask
    let output ← layer.finish attended.output none
    let present := if input.useCache then some [key, value] else none
    return { output, present, weights := attended.weights }

def extendHidden (past : Option (Cache α)) (hidden : TypedTensor α) (count : Nat) :
    Except Failure (TypedTensor α × Nat) :=
  match past with
  | none => .ok (hidden, 0)
  | some cache =>
      if count ≠ 1 then .error (.notSingleToken count)
      else
        match cache with
        | [] => .error .indexOutOfRange
        | first :: _ => (first.append 1 hidden).map fun states => (states, cache.length)

/-- Requires a mask to be a padding mask or to have the block layout. In that layout it is the
mask of queries that can be cut into blocks. -/
def requireWindowMask (mask : Option (TypedTensor α)) (queries : TypedTensor α) :
    Except Failure Unit :=
  match mask with
  | none => .ok ()
  | some given =>
      if given.rank = 2 then .ok ()
      else if given.rank = 5 then queries.tensor.requireRank 2 3
      else .error (.unsupportedBlockMaskShape given.shape)

def windowMask (batch sequence : Nat) (window : Int) (mask : Option (TypedTensor α)) :
    Except Failure (Tensor Bool) :=
  match mask with
  | none => localMask batch sequence window (none : Option (TypedTensor α))
  | some given =>
      if given.rank = 5 then .ok given.truth else localMask batch sequence window (some given)

def windowFeatures (blocks : Blocks) (window : Int) (features : TypedTensor α) :
    Except Failure (TypedTensor α) :=
  features.relayout fun tensor =>
    tensor.lookBack blocks.length window (Arithmetic.ofInteger features.elementType 0) true

def runLocal (layer : Layer α) (windowSetting : Setting) (input : LayerInput α) :
    Except Failure (Attended α) := do
  let (batch, count) ← match input.hidden.shape with
    | batch :: count :: _ => pure (batch, count)
    | _ => .error .wrongCount
  let queryFeatures ← input.hidden.linear layer.parameters.query
  let (states, pastCount) ← extendHidden input.past input.hidden count
  let keyFeatures ← states.linear layer.parameters.key
  let valueFeatures ← states.linear layer.parameters.value
  let sequence := count + pastCount
  requirePositive windowSetting (.windowTooSmall windowSetting)
  requireWindowMask input.attentionMask queryFeatures
  let window ← Setting.windowSize windowSetting
  let blocks ← Blocks.ofSequence sequence window
  if sequence = 0 then .error (Memory.emptyWindowFailure batch window)
  let fullMask ← windowMask batch sequence window input.attentionMask
  let cut : Blocks := if input.past.isSome then ⟨1, 1⟩ else blocks
  let queryBlocks ← queryFeatures.relayout
    (Tensor.splitSequence cut.count cut.length (some layer.width))
  let keyWindows ← windowFeatures blocks window keyFeatures
  let valueWindows ← windowFeatures blocks window valueFeatures
  let lastBlock : TypedTensor α → TypedTensor α := fun features =>
    if input.past.isSome then ⟨features.elementType, features.tensor.takeLast 1 1⟩ else features
  let visible :=
    if input.past.isSome then (fullMask.takeLast 1 1).takeLast 3 1 else fullMask
  let query ← layer.split queryBlocks
  let key ← layer.split (lastBlock keyWindows)
  let value ← layer.split (lastBlock valueWindows)
  let attended ← Attended.ofMasked query key value visible layer.maskedBias
    layer.attentionDropout none input.headMask
  let output ← layer.finish attended.output (some [batch, count, layer.width])
  return ⟨output, attended.weights⟩

def rememberHidden (input : LayerInput α) : Except Failure (Option (Cache α)) :=
  if input.useCache then
    match input.past with
    | none => .ok (some [input.hidden])
    | some [] => .error .indexOutOfRange
    | some (first :: _) => (first.append 1 input.hidden).map fun states => some [states]
  else .ok none

def run (layer : Layer α) (input : LayerInput α) : Except Failure (LayerOutput α) :=
  match layer.reach with
  | .everything limit => layer.runGlobal limit input
  | .window size => do
      let attended ← layer.runLocal size input
      let present ← rememberHidden input
      return { output := attended.output, present, weights := attended.weights }

end Layer

end CausalAttention
