import CausalAttention.Attend
import CausalAttention.Cache
import CausalAttention.Rearrange

/-!
Attention layers: what both kinds have in common.

A layer projects hidden states to queries, keys and values, attends within every head, and
projects the merged heads back. The two kinds differ in the positions that they reach.
-/

set_option autoImplicit false

namespace CausalAttention

structure Parameters (α : Type) where
  query : TypedTensor α
  key : TypedTensor α
  value : TypedTensor α
  output : TypedTensor α
  outputBias : TypedTensor α

/-- The positions that a query can reach: all up to a limit, or those of a window. A window is
kept as it was set and is looked at when the layer runs. -/
inductive Reach where
  | everything (limit : Nat)
  | window (size : Setting)

/-- How the features of a layer are divided among heads: a whole number of heads of a whole size,
a single head that was asked for by a truth value, or a number with a fraction, by which features
cannot be regrouped. -/
inductive HeadDivision where
  | whole (heads headSize : Int)
  | single (headSize : Int)
  | fractional (heads headSize : Float)

structure Layer (α : Type) where
  width : Nat
  division : HeadDivision
  reach : Reach
  parameters : Parameters α
  maskedBias : TypedTensor α
  attentionDropout : Dropout α
  outputDropout : Dropout α

structure LayerInput (α : Type) where
  hidden : TypedTensor α
  past : Option (Cache α) := none
  attentionMask : Option (TypedTensor α) := none
  headMask : Option (TypedTensor α) := none
  useCache : Bool := false

structure LayerOutput (α : Type) where
  output : TypedTensor α
  present : Option (Cache α)
  weights : TypedTensor α

namespace Parameters

variable {α : Type} [Arithmetic α]

def zero (elementType : ElementType) (width : Nat) : Parameters α :=
  let matrix : TypedTensor α :=
    ⟨elementType, Tensor.replicate [width, width] (Arithmetic.ofInteger elementType 0)⟩
  { query := matrix
    key := matrix
    value := matrix
    output := matrix
    outputBias := ⟨elementType, Tensor.replicate [width] (Arithmetic.ofInteger elementType 0)⟩ }

end Parameters

namespace TypedTensor

variable {α : Type} [Arithmetic α]

def overwrite (target source : TypedTensor α) : Except Failure (TypedTensor α) :=
  if source.shape = target.shape then .ok (source.convert target.elementType)
  else .error .sizesDisagree

end TypedTensor

namespace Parameters

variable {α : Type} [Arithmetic α]

def assign (target source : Parameters α) : Except Failure (Parameters α) := do
  let query ← target.query.overwrite source.query
  let key ← target.key.overwrite source.key
  let value ← target.value.overwrite source.value
  let output ← target.output.overwrite source.output
  let outputBias ← target.outputBias.overwrite source.outputBias
  return { query, key, value, output, outputBias }

end Parameters

namespace Layer

variable {α : Type} [Arithmetic α]

def hiddenScore : Int := -1000000000

def requireCovered (heads headSize : Setting) (covered : DyadicValue)
    (projected : TypedTensor α) : Except Failure Unit := do
  projected.tensor.requireRank 3 4
  let features := projected.tensor.extent (projected.rank - 1)
  if (DyadicValue.ofInteger features).isEqual covered then .ok ()
  else .error (.headsMismatch features heads headSize)

def split (layer : Layer α) (projected : TypedTensor α) : Except Failure (TypedTensor α) :=
  match layer.division with
  | .whole heads headSize => projected.relayout (Tensor.splitHeads heads headSize)
  | .single headSize => do
      requireCovered (.bool true) (.int headSize) (.ofInteger headSize) projected
      projected.relayout (Tensor.splitHeads 1 headSize)
  | .fractional heads headSize => do
      requireCovered (.float heads) (.float headSize) (.ofFloat (heads * headSize)) projected
      .error .wrongKind

def merge (layer : Layer α) (attended : TypedTensor α) : Except Failure (TypedTensor α) :=
  match layer.division with
  | .whole heads headSize => attended.relayout (Tensor.mergeHeads heads headSize)
  | .single headSize => attended.relayout (Tensor.mergeHeads 1 headSize)
  | .fractional _ _ => do
      attended.tensor.requireRank 4 5
      .error .wrongKind

/-- Merges the heads, projects them and applies the dropout of the output. The sizes, when
given, regroup the positions before the projection. -/
def finish (layer : Layer α) (attended : TypedTensor α) (sizes : Option (List Int)) :
    Except Failure (TypedTensor α) := do
  let merged ← layer.merge attended
  let arranged ← match sizes with
    | none => pure merged
    | some sizes => merged.relayout fun tensor => tensor.reshape sizes
  let projected ← arranged.affine layer.parameters.output layer.parameters.outputBias
  layer.outputDropout.apply projected

end Layer

end CausalAttention
