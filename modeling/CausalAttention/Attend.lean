import CausalAttention.Tensor.Typed

/-!
Masked dot-product attention.

Scores are computed in single precision and are not scaled. The score of a hidden key is
replaced by a bias that is kept finite from below; an additive mask comes on top; the rows are
normalised and weigh the values.

Dropout keeps everything outside of training and at rate zero, and drops everything in training
at rate one. At a rate between them it multiplies by factors that are drawn.
-/

set_option autoImplicit false

namespace CausalAttention

/-- The effect of a dropout. What is drawn at a rate between zero and one are the factors of the
entries: zero for an entry that is dropped, and for the others what makes up for those. -/
inductive Dropout (α : Type) where
  | keepAll
  | dropAll
  | drawn (factor : ElementType → List Nat → α)
  | undefinedRate

namespace Dropout

variable {α : Type}

/-- The effect of a rate, which is a number from zero to one or undefined. At a rate between zero
and one it is that of what is drawn in training. -/
def ofSetting (rate : Setting) (training : Bool) (draw : Dropout α := keepAll) :
    Except Failure (Dropout α) :=
  match rate.number? with
  | none => .error .wrongKind
  | some .undefined => .ok .undefinedRate
  | some number =>
      if number.isLess (.ofInteger 0) || (DyadicValue.ofInteger 1).isLess number then
        .error .invalidProbability
      else if !training || number.isEqual (.ofInteger 0) then .ok .keepAll
      else if number.isEqual (.ofInteger 1) then .ok .dropAll
      else .ok draw

variable [Arithmetic α]

def apply (dropout : Dropout α) (typed : TypedTensor α) : Except Failure (TypedTensor α) :=
  match dropout with
  | .keepAll => .ok typed
  | .undefinedRate => .error .undefinedDropout
  | .dropAll =>
      let zero := Arithmetic.ofInteger typed.elementType 0
      .ok ⟨typed.elementType,
        typed.tensor.map fun entry => Arithmetic.multiply typed.elementType entry zero⟩
  | .drawn factor =>
      .ok ⟨typed.elementType, Tensor.ofFn typed.shape fun index =>
        Arithmetic.multiply typed.elementType (typed.tensor.get index)
          (factor typed.elementType index)⟩

@[simp] theorem apply_keepAll (typed : TypedTensor α) : keepAll.apply typed = .ok typed := rfl

end Dropout

structure Attended (α : Type) where
  output : TypedTensor α
  weights : TypedTensor α

namespace Attended

variable {α : Type} [Arithmetic α]

/-- The scores of all queries against all keys, with the bias in place of the hidden ones. -/
def maskedScores (query key : TypedTensor α) (visible : Tensor Bool)
    (maskedBias : TypedTensor α) : Except Failure (TypedTensor α) := do
  let columns ← (key.convert .float32).relayout Tensor.transpose
  let scores ← (query.convert .float32).product columns
  let lowest := Arithmetic.ofInteger .float32 Arithmetic.lowestSingle
  let bias := (maskedBias.convert .float32).tensor.map (Arithmetic.atLeast lowest)
  let chosen ← visible.choose scores.tensor bias
  return ⟨.float32, chosen⟩

def ofMasked (query key value : TypedTensor α) (visible : Tensor Bool)
    (maskedBias : TypedTensor α) (dropout : Dropout α) (additive headMask : Option (TypedTensor α)) :
    Except Failure (Attended α) := do
  let masked ← maskedScores query key visible maskedBias
  let scores ← match additive with
    | none => pure masked
    | some term => masked.add term
  let normalised := scores.softmax.convert value.elementType
  let retained ← dropout.apply normalised
  let weights ← match headMask with
    | none => pure retained
    | some factor => retained.multiply factor
  let output ← weights.product value
  return ⟨output, weights⟩

end Attended

end CausalAttention
