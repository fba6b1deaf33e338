import CausalAttention.Arithmetic
import CausalAttention.Tensor.Broadcast
import CausalAttention.Tensor.Layout

/-!
Tensors with an element type, and the operations that compute with their entries: conversion,
sums and products with a common element type, linear maps and matrix products.
-/

set_option autoImplicit false

namespace CausalAttention

structure TypedTensor (α : Type) where
  elementType : ElementType
  tensor : Tensor α

namespace TypedTensor

variable {α : Type}

def shape (typed : TypedTensor α) : Shape :=
  typed.tensor.shape

def rank (typed : TypedTensor α) : Nat :=
  typed.tensor.rank

def relayout (change : Tensor α → Except Failure (Tensor α)) (typed : TypedTensor α) :
    Except Failure (TypedTensor α) :=
  (change typed.tensor).map fun tensor => ⟨typed.elementType, tensor⟩

variable [Arithmetic α]

def convert (elementType : ElementType) (typed : TypedTensor α) : TypedTensor α :=
  if typed.elementType = elementType then typed
  else ⟨elementType, typed.tensor.map (Arithmetic.convert elementType)⟩

def truth (typed : TypedTensor α) : Tensor Bool :=
  typed.tensor.map Arithmetic.isNonzero

def scalar (elementType : ElementType) (value : α) : TypedTensor α :=
  ⟨elementType, Tensor.replicate [] value⟩

def joinType (left right : TypedTensor α) : ElementType :=
  left.elementType.joinRanked left.rank right.elementType right.rank

def combine (operation : ElementType → α → α → α) (left right : TypedTensor α) :
    Except Failure (TypedTensor α) :=
  let elementType := left.joinType right
  ((left.convert elementType).tensor.combine (operation elementType)
    (right.convert elementType).tensor).map fun tensor => ⟨elementType, tensor⟩

def add (left right : TypedTensor α) : Except Failure (TypedTensor α) :=
  left.combine Arithmetic.add right

/-- The entrywise product by a single entry, computed in the type that accumulates for the
entries on the left and rounded once. -/
def scale (left right : TypedTensor α) : Except Failure (TypedTensor α) :=
  let elementType := left.joinType right
  let wide := elementType.accumulator
  let factors := (right.convert wide).tensor
  ((left.convert elementType).tensor.combine (fun entry factor =>
    Arithmetic.convert elementType
      (Arithmetic.multiply wide (Arithmetic.convert wide entry) factor)) factors).map
    fun tensor => ⟨elementType, tensor⟩

/-- The entrywise product. A single entry on the right is not narrowed to the element type of
the product when a wider one accumulates for it. -/
def multiply (left right : TypedTensor α) : Except Failure (TypedTensor α) :=
  let elementType := left.joinType right
  if elementType.accumulator ≠ elementType ∧ Shape.volume right.shape = 1 then left.scale right
  else left.combine Arithmetic.multiply right

def softmax (typed : TypedTensor α) : TypedTensor α :=
  ⟨typed.elementType, typed.tensor.mapRows (Arithmetic.softmax typed.elementType)⟩

def mapRowPairs (operation : List α → List α → Nat → α) (input matrix : TypedTensor α) :
    Except Failure (TypedTensor α) :=
  if input.elementType ≠ matrix.elementType then .error .elementTypesDisagree
  else if input.rank = 0 ∨ input.shape.getLast? ≠ matrix.shape.getLast? then
    .error .sizesDisagree
  else
    let inputs := input.tensor.rows
    let outputs := matrix.tensor.rows
    .ok ⟨input.elementType, Tensor.ofFn (inputs.shape ++ outputs.shape) fun index =>
      operation (inputs.get (index.take inputs.rank)) (outputs.get (index.drop inputs.rank))
        (index.getD inputs.rank 0)⟩

def linear (input matrix : TypedTensor α) : Except Failure (TypedTensor α) :=
  input.mapRowPairs (fun row weights _ => Arithmetic.dot input.elementType row weights) matrix

def affine (input matrix terms : TypedTensor α) : Except Failure (TypedTensor α) :=
  input.mapRowPairs (fun row weights number =>
    Arithmetic.dotPlus input.elementType row weights (terms.tensor.get [number])) matrix

/-- Joins two tensors along an axis that is counted from the front or, when negative, from
the back of the first one. A tensor of shape `[0]` adds nothing but its element type. -/
def append (axis : Int) (front back : TypedTensor α) : Except Failure (TypedTensor α) :=
  let elementType := front.joinType back
  let first := (front.convert elementType).tensor
  let second := (back.convert elementType).tensor
  let reference := if first.shape = [0] then second else first
  let position := if axis < 0 then axis + reference.rank else axis
  if first.rank = 0 ∨ second.rank = 0 then .error .sizesDisagree
  else if reference.shape ≠ [0] ∧ (position < 0 ∨ (reference.rank : Int) ≤ position) then
    .error .axisOutOfRange
  else if first.shape = [0] then .ok ⟨elementType, second⟩
  else if second.shape = [0] then .ok ⟨elementType, first⟩
  else (first.append position.toNat second).map fun tensor => ⟨elementType, tensor⟩

def stackedProduct (elementType : ElementType) (left right : Tensor α) :
    Except Failure (Tensor α) := do
  let turned ← right.transpose
  if left.shape.getLast? ≠ turned.shape.getLast? then .error .sizesDisagree
  else
    match Shape.join? (left.shape.take (left.rank - 2)) (turned.shape.take (turned.rank - 2)) with
    | none => .error .sizesDisagree
    | some stack =>
        let lines := left.rows
        let columns := turned.rows
        let height := left.extent (left.rank - 2)
        let width := turned.extent (turned.rank - 2)
        .ok <| Tensor.ofFn (stack ++ [height, width]) fun index =>
          let place := index.take stack.length
          Arithmetic.dot elementType
            (lines.getJoined (place ++ [index.getD stack.length 0]))
            (columns.getJoined (place ++ [index.getD (stack.length + 1) 0]))

/-- Whether the product of two tensors whose sizes agree multiplies anything. The product of two
rows always counts as such. -/
def multiplies (left right full : Tensor α) : Bool :=
  (left.rank = 1 && right.rank = 1) ||
    (Shape.volume full.shape ≠ 0 && left.extent (left.rank - 1) ≠ 0)

/-- The matrix product. A tensor with one axis stands for a row on the left and for a column
on the right, and that axis does not appear in the product. Truth values cannot be multiplied
in this way. -/
def product (left right : TypedTensor α) : Except Failure (TypedTensor α) :=
  if left.rank = 0 ∨ right.rank = 0 then .error .sizesDisagree
  else if left.elementType ≠ right.elementType then .error .elementTypesDisagree
  else do
    let lines := if left.rank = 1 then left.tensor.insertAxis 0 else left.tensor
    let columns := if right.rank = 1 then right.tensor.insertAxis 1 else right.tensor
    let full ← stackedProduct left.elementType lines columns
    if left.elementType = .bool && multiplies left.tensor right.tensor full then
      .error .unsupportedElementType
    let withoutRow :=
      if left.rank = 1 then full.shape.eraseIdx (full.rank - 2) else full.shape
    let sizes := if right.rank = 1 then withoutRow.dropLast else withoutRow
    let result ← full.reshape (sizes.map fun (size : Nat) => (size : Int))
    return ⟨left.elementType, result⟩

@[simp] theorem convert_self (typed : TypedTensor α) :
    typed.convert typed.elementType = typed := by
  simp [convert]

@[simp] theorem shape_convert (elementType : ElementType) (typed : TypedTensor α) :
    (typed.convert elementType).shape = typed.shape := by
  unfold convert
  split <;> rfl

@[simp] theorem shape_softmax (typed : TypedTensor α) : typed.softmax.shape = typed.shape := rfl

theorem shape_mapRowPairs {operation : List α → List α → Nat → α}
    {input matrix result : TypedTensor α}
    (made : input.mapRowPairs operation matrix = .ok result) :
    result.shape = input.shape.dropLast ++ matrix.shape.dropLast := by
  unfold mapRowPairs at made
  split at made
  · contradiction
  · split at made
    · contradiction
    · cases made
      rfl

theorem shape_linear {input matrix result : TypedTensor α}
    (made : input.linear matrix = .ok result) :
    result.shape = input.shape.dropLast ++ matrix.shape.dropLast :=
  shape_mapRowPairs made

end TypedTensor

end CausalAttention
