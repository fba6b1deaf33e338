import CausalAttention.Failure
import CausalAttention.Tensor.Basic

/-!
Entrywise operations on tensors of different shapes.

Shapes are compared from the last axis backwards. Two sizes go together when they are equal
or one of them is one, and a missing axis counts as one; the result has the larger shape, and
an operand is read at coordinate zero along every axis of size one.
-/

set_option autoImplicit false

namespace CausalAttention

namespace Shape

def joinSize? (left right : Nat) : Option Nat :=
  if left = right then some left
  else if left = 1 then some right
  else if right = 1 then some left
  else none

def joinReversed? : List Nat → List Nat → Option (List Nat)
  | [], right => some right
  | left, [] => some left
  | left :: leftRest, right :: rightRest =>
      match joinSize? left right, joinReversed? leftRest rightRest with
      | some size, some rest => some (size :: rest)
      | _, _ => none

def join? (left right : Shape) : Option Shape :=
  (joinReversed? left.reverse right.reverse).map List.reverse

def project (shape : Shape) (index : List Nat) : List Nat :=
  List.zipWith (fun size coordinate => if size = 1 then 0 else coordinate) shape
    (index.drop (index.length - shape.length))

theorem joinReversed?_self (sizes : List Nat) : joinReversed? sizes sizes = some sizes := by
  induction sizes with
  | nil => rfl
  | cons size rest ih => simp [joinReversed?, joinSize?, ih]

theorem join?_self (shape : Shape) : join? shape shape = some shape := by
  simp [join?, joinReversed?_self]

theorem project_self {shape : Shape} {index : List Nat} (inside : Contains shape index) :
    project shape index = index := by
  unfold project
  rw [inside.length_eq, Nat.sub_self, List.drop_zero]
  induction shape generalizing index with
  | nil => cases index <;> simp_all [Contains]
  | cons size rest ih =>
      cases index with
      | nil => simp [Contains] at inside
      | cons coordinate index =>
          obtain ⟨below, inner⟩ := inside
          rw [List.zipWith_cons_cons, ih inner]
          split
          · rename_i single
            rw [single, Nat.lt_one_iff] at below
            rw [below]
          · rfl

end Shape

namespace Tensor

variable {α β γ : Type} [Inhabited α] [Inhabited β]

def getJoined (tensor : Tensor α) (index : List Nat) : α :=
  tensor.get (Shape.project tensor.shape index)

def combine (operation : α → β → γ) (left : Tensor α) (right : Tensor β) :
    Except Failure (Tensor γ) :=
  match Shape.join? left.shape right.shape with
  | none => .error .sizesDisagree
  | some shape =>
      .ok <| ofFn shape fun index => operation (left.getJoined index) (right.getJoined index)

/-- Takes the entries of a tensor where a mask holds and those of another where it does not,
over the common shape of all three. -/
def choose (mask : Tensor Bool) (kept replacement : Tensor α) : Except Failure (Tensor α) := do
  let visible ← mask.combine (fun flag value => if flag then some value else none) kept
  visible.combine (fun value? other => value?.getD other) replacement

omit [Inhabited β] in
theorem getJoined_self {tensor : Tensor α} {index : List Nat}
    (inside : Shape.Contains tensor.shape index) : tensor.getJoined index = tensor.get index := by
  rw [getJoined, Shape.project_self inside]

theorem shape_combine {operation : α → β → γ} {left : Tensor α} {right : Tensor β}
    {result : Tensor γ} (made : left.combine operation right = .ok result) :
    Shape.join? left.shape right.shape = some result.shape := by
  unfold combine at made
  split at made
  · contradiction
  · cases made
    assumption

theorem get_combine [Inhabited γ] {operation : α → β → γ} {left : Tensor α} {right : Tensor β}
    {result : Tensor γ} {index : List Nat} (made : left.combine operation right = .ok result)
    (inside : Shape.Contains result.shape index) :
    result.get index = operation (left.getJoined index) (right.getJoined index) := by
  unfold combine at made
  split at made
  · contradiction
  · cases made
    exact get_ofFn inside _

end Tensor

end CausalAttention
