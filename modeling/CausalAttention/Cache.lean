import CausalAttention.Failure
import CausalAttention.Tensor.Typed

/-!
Caches of earlier positions.

A layer's cache is a list of tensors: split keys and values, or the hidden states alone. In
either the positions run along the last axis but one, so the length of a cache is read off
its first tensor.
-/

set_option autoImplicit false

namespace CausalAttention

abbrev Cache (α : Type) := List (TypedTensor α)

namespace TypedTensor

variable {α : Type}

def positionCount (typed : TypedTensor α) : Nat :=
  if typed.rank < 2 then 0 else typed.tensor.extent (typed.rank - 2)

end TypedTensor

namespace Cache

variable {α : Type}

def length (cache : Cache α) : Nat :=
  match cache with
  | [] => 0
  | first :: _ => first.positionCount

def toValue (cache : Cache α) : Value (TypedTensor α) :=
  .tuple (cache.map .tensor)

end Cache

namespace Value

variable {α τ : Type}

def formName : Value τ → String
  | null => "NoneType"
  | bool _ => "bool"
  | int _ => "int"
  | float _ => "float"
  | text _ => "str"
  | list _ => "list"
  | tuple _ => "tuple"
  | mapping _ => "dict"
  | tensor _ => "tensor"

/-- The tensor that decides the length of a sequence of caches or of one cache: the first
item, or the first item of the first item. -/
def leadingTensor? : List (Value τ) → Option τ
  | tensor content :: _ => some content
  | list (tensor content :: _) :: _ => some content
  | tuple (tensor content :: _) :: _ => some content
  | _ => none

def cachedLength (value : Value (TypedTensor α)) : Except Failure Nat :=
  match value with
  | null | list [] | tuple [] => .ok 0
  | list items | tuple items =>
      match leadingTensor? items with
      | some content => .ok content.positionCount
      | none => .error (.unsupportedCache value.formName value.literal)
  | _ => .error (.unsupportedCache value.formName value.literal)

end Value

/-- The length of a cache is that of the cache as a value. -/
theorem Cache.cachedLength_toValue {α : Type} (cache : Cache α) :
    cache.toValue.cachedLength = .ok cache.length := by
  cases cache <;> rfl

end CausalAttention
