import CausalAttention.Proofs.Layer.Global

/-!
The steps of a run. A layer makes operands from its input, attends with them, projects what comes
out, and remembers what a later run needs. How far the layer reaches decides what the operands are,
in which sizes the answer is asked for, and what is remembered.
-/

set_option autoImplicit false

namespace CausalAttention

structure Operands (α : Type) where
  query : TypedTensor α
  key : TypedTensor α
  value : TypedTensor α
  visible : Tensor Bool
  additive : Option (TypedTensor α)

namespace Layer

variable {α : Type} [Arithmetic α]

def globalOperands (layer : Layer α) (limit : Nat) (input : LayerInput α) :
    Except Failure (Operands α) := do
  let queryFeatures ← input.hidden.linear layer.parameters.query
  let keyFeatures ← input.hidden.linear layer.parameters.key
  let valueFeatures ← input.hidden.linear layer.parameters.value
  let query ← layer.split queryFeatures
  let newKey ← layer.split keyFeatures
  let newValue ← layer.split valueFeatures
  let (key, value) ← extendKeysValues input.past newKey newValue
  if limit < key.positionCount then .error (.sequenceTooLong key.positionCount limit)
  else do
    let additive ← additiveTerms input.attentionMask
    return ⟨query, key, value, causalMask query.positionCount key.positionCount, additive⟩

def localFeatures (layer : Layer α) (windowSetting : Setting) (input : LayerInput α) :
    Except Failure (Operands α) := do
  let (batch, count) ← match input.hidden.shape with
    | batch :: count :: _ => pure (batch, count)
    | _ => .error .wrongCount
  let queryFeatures ← input.hidden.linear layer.parameters.query
  let (states, pastCount) ← extendHidden input.past input.hidden count
  let keyFeatures ← states.linear layer.parameters.key
  let valueFeatures ← states.linear layer.parameters.value
  requirePositive windowSetting (.windowTooSmall windowSetting)
  requireWindowMask input.attentionMask queryFeatures
  let window ← Setting.windowSize windowSetting
  let blocks ← Blocks.ofSequence (count + pastCount) window
  if count + pastCount = 0 then .error (Memory.emptyWindowFailure batch window)
  else do
    let fullMask ← windowMask batch (count + pastCount) window input.attentionMask
    let cut : Blocks := if input.past.isSome then ⟨1, 1⟩ else blocks
    let queryBlocks ← queryFeatures.relayout
      (Tensor.splitSequence cut.count cut.length (some layer.width))
    let keyWindows ← windowFeatures blocks window keyFeatures
    let valueWindows ← windowFeatures blocks window valueFeatures
    let lastBlock : TypedTensor α → TypedTensor α := fun features =>
      if input.past.isSome then features.takeLast 1 1 else features
    let visible :=
      if input.past.isSome then (fullMask.takeLast 1 1).takeLast 3 1 else fullMask
    return ⟨queryBlocks, lastBlock keyWindows, lastBlock valueWindows, visible, none⟩

def splitOperands (layer : Layer α) (features : Operands α) : Except Failure (Operands α) := do
  let query ← layer.split features.query
  let key ← layer.split features.key
  let value ← layer.split features.value
  return { features with query, key, value }

def operands (layer : Layer α) (input : LayerInput α) : Except Failure (Operands α) :=
  match layer.reach with
  | .everything limit => layer.globalOperands limit input
  | .window setting => layer.localFeatures setting input >>= layer.splitOperands

theorem operands_of_everything {layer : Layer α} {limit : Nat}
    (reach : layer.reach = .everything limit) (input : LayerInput α) :
    layer.operands input = layer.globalOperands limit input := by
  unfold operands
  rw [reach]

theorem operands_of_window {layer : Layer α} {setting : Setting}
    (reach : layer.reach = .window setting) (input : LayerInput α) :
    layer.operands input = layer.localFeatures setting input >>= layer.splitOperands := by
  unfold operands
  rw [reach]

def answerSizes (layer : Layer α) (input : LayerInput α) : Option (List Int) :=
  match layer.reach with
  | .everything _ => none
  | .window _ =>
      some ((input.hidden.shape.take 2 ++ [layer.width]).map fun (size : Nat) => (size : Int))

def remember (layer : Layer α) (input : LayerInput α) (operands : Operands α) :
    Except Failure (Option (Cache α)) :=
  match layer.reach with
  | .everything _ => .ok (if input.useCache then some [operands.key, operands.value] else none)
  | .window _ => rememberHidden input

def attend (layer : Layer α) (operands : Operands α) (headMask : Option (TypedTensor α)) :
    Except Failure (Attended α) :=
  Attended.ofMasked operands.query operands.key operands.value operands.visible layer.maskedBias
    layer.attentionDropout operands.additive headMask

def project (layer : Layer α) (arranged : TypedTensor α) : Except Failure (TypedTensor α) := do
  let projected ← arranged.affine layer.parameters.output layer.parameters.outputBias
  layer.outputDropout.apply projected

theorem runGlobal_eq (layer : Layer α) (limit : Nat) (input : LayerInput α) :
    layer.runGlobal limit input = (do
      let operands ← layer.globalOperands limit input
      let attended ← layer.attend operands input.headMask
      let output ← layer.finish attended.output none
      let present := if input.useCache then some [operands.key, operands.value] else none
      return { output, present, weights := attended.weights }) := by
  unfold runGlobal globalOperands
  simp only [bind_assoc]
  refine bind_congr fun queryFeatures => bind_congr fun keyFeatures =>
    bind_congr fun valueFeatures => bind_congr fun query => bind_congr fun newKey =>
    bind_congr fun newValue => bind_congr fun extended => ?_
  by_cases tooLong : limit < extended.1.positionCount
  · simp only [if_pos tooLong]
    rfl
  · simp only [if_neg tooLong, bind_assoc, pure_bind]
    cases input.attentionMask <;> rfl

theorem runLocal_eq (layer : Layer α) (windowSetting : Setting) (input : LayerInput α) :
    layer.runLocal windowSetting input = (do
      let operands ← layer.localFeatures windowSetting input >>= layer.splitOperands
      let attended ← layer.attend operands input.headMask
      let output ← layer.finish attended.output
        (some ((input.hidden.shape.take 2 ++ [layer.width]).map fun (size : Nat) => (size : Int)))
      return ⟨output, attended.weights⟩) := by
  unfold runLocal localFeatures splitOperands
  rcases input.hidden.shape with _ | ⟨batch, _ | ⟨count, rest⟩⟩
  · rfl
  · rfl
  · simp only [pure_bind, bind_assoc]
    refine bind_congr fun queryFeatures => bind_congr fun extended =>
      bind_congr fun keyFeatures => bind_congr fun valueFeatures => bind_congr fun positive =>
      bind_congr fun permitted => bind_congr fun window => bind_congr fun blocks => ?_
    by_cases empty : count + extended.2 = 0
    · simp only [if_pos empty]
      rfl
    · simp only [if_neg empty, bind_assoc, pure_bind]
      rfl

/-- A run attends with its operands, and nothing before that sees the head mask. -/
theorem run_eq (layer : Layer α) (input : LayerInput α) :
    layer.run input = (do
      let operands ← layer.operands input
      let attended ← layer.attend operands input.headMask
      let output ← layer.finish attended.output (layer.answerSizes input)
      let present ← layer.remember input operands
      return { output, present, weights := attended.weights }) := by
  unfold run operands remember answerSizes
  cases layer.reach with
  | everything limit => exact runGlobal_eq layer limit input
  | window setting =>
      simp only [runLocal_eq, bind_assoc, pure_bind]

end Layer

end CausalAttention
