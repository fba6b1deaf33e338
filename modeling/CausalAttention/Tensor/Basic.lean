import CausalAttention.Tensor.Shape

/-!
Tensors: entries of one carrier type in row-major order under a shape.

A tensor is built from a function on indices and read back at an index. Reading what was
built gives the function's value, and two tensors of one shape that read alike everywhere
are equal, so every operation is described by its shape and by what it reads.
-/

set_option autoImplicit false

namespace CausalAttention

/-- Entries in row-major order, as many as the shape has. -/
structure Tensor (α : Type) where
  shape : Shape
  entries : Array α
  size_entries : entries.size = Shape.volume shape

namespace Tensor

variable {α β γ : Type}

instance : Inhabited (Tensor α) where
  default := ⟨[0], #[], by simp [Shape.volume]⟩

def rank (tensor : Tensor α) : Nat :=
  tensor.shape.length

def extent (tensor : Tensor α) (axis : Nat) : Nat :=
  tensor.shape.getD axis 0

def ofFn (shape : Shape) (entry : List Nat → α) : Tensor α where
  shape := shape
  entries := Array.ofFn fun position : Fin (Shape.volume shape) =>
    entry (Shape.indexAt shape position.val)
  size_entries := Array.size_ofFn

/-- The entry at an index. Outside of the shape the value has no meaning. -/
def get [Inhabited α] (tensor : Tensor α) (index : List Nat) : α :=
  tensor.entries.getD (Shape.offset tensor.shape index) default

def replicate (shape : Shape) (value : α) : Tensor α where
  shape := shape
  entries := Array.replicate (Shape.volume shape) value
  size_entries := Array.size_replicate

def map (image : α → β) (tensor : Tensor α) : Tensor β where
  shape := tensor.shape
  entries := tensor.entries.map image
  size_entries := by rw [Array.size_map, tensor.size_entries]

@[simp] theorem shape_map (image : α → β) (tensor : Tensor α) :
    (tensor.map image).shape = tensor.shape := rfl

theorem get_ofFn [Inhabited α] {shape : Shape} {index : List Nat}
    (inside : Shape.Contains shape index) (entry : List Nat → α) :
    (ofFn shape entry).get index = entry index := by
  have bound := Shape.offset_lt_volume inside
  simp [get, ofFn, Array.getD, bound, Shape.indexAt_offset inside]

theorem get_map [Inhabited α] [Inhabited β] (image : α → β) (tensor : Tensor α)
    {index : List Nat} (inside : Shape.Contains tensor.shape index) :
    (tensor.map image).get index = image (tensor.get index) := by
  have bound : Shape.offset tensor.shape index < tensor.entries.size := by
    rw [tensor.size_entries]
    exact Shape.offset_lt_volume inside
  simp [get, map, Array.getD, bound]

theorem get_replicate [Inhabited α] {shape : Shape} {index : List Nat}
    (inside : Shape.Contains shape index) (value : α) :
    (replicate shape value).get index = value := by
  have bound := Shape.offset_lt_volume inside
  simp [get, replicate, Array.getD, bound]

theorem ext_get [Inhabited α] {left right : Tensor α} (sameShape : left.shape = right.shape)
    (sameEntries : ∀ index, Shape.Contains left.shape index → left.get index = right.get index) :
    left = right := by
  obtain ⟨shape, leftEntries, leftSize⟩ := left
  obtain ⟨rightShape, rightEntries, rightSize⟩ := right
  simp only at sameShape
  subst sameShape
  have sameArrays : leftEntries = rightEntries := by
    apply Array.ext (leftSize.trans rightSize.symm)
    intro position leftBound rightBound
    have bound : position < Shape.volume shape := leftSize ▸ leftBound
    have same := sameEntries (Shape.indexAt shape position) (Shape.contains_indexAt bound)
    simpa [get, Array.getD, Shape.offset_indexAt bound, leftBound, rightBound] using same
  subst sameArrays
  rfl

end Tensor

end CausalAttention
