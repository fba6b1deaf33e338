import CausalAttention.Failure
import CausalAttention.Tensor.Basic

/-!
Operations that move entries without computing with them: regrouping, exchange of axes,
padding, windows, joining and cutting along an axis. Each fails under a stated condition on
the shape alone.
-/

set_option autoImplicit false

namespace CausalAttention.Tensor

variable {α : Type}

def requireRank (lower upper : Nat) (tensor : Tensor α) : Except Failure Unit :=
  if tensor.rank ≠ lower ∧ tensor.rank ≠ upper then
    .error (.unexpectedRank lower upper tensor.rank)
  else .ok ()

/-- The same entries in row-major order under other sizes, of which one may be left open
with `-1`. -/
def reshape (tensor : Tensor α) (sizes : List Int) : Except Failure (Tensor α) :=
  match Shape.infer? (Shape.volume tensor.shape) sizes with
  | none => .error .invalidSize
  | some shape =>
      if fits : Shape.volume tensor.shape = Shape.volume shape then
        .ok ⟨shape, tensor.entries, tensor.size_entries.trans fits⟩
      else .error .sizesDisagree

variable [Inhabited α]

def swapAxes (axis : Nat) (tensor : Tensor α) : Tensor α :=
  ofFn (Shape.swapAt axis tensor.shape) fun index => tensor.get (Shape.swapAt axis index)

def transpose (tensor : Tensor α) : Except Failure (Tensor α) :=
  if tensor.rank < 2 then .error .axisOutOfRange
  else .ok (tensor.swapAxes (tensor.rank - 2))

/-- Puts entries of one value in front of an axis. A negative amount cuts entries off
instead, at most as many as there are. -/
def padFront (axis : Nat) (amount : Int) (filler : α) (tensor : Tensor α) :
    Except Failure (Tensor α) :=
  let extent : Int := tensor.extent axis + amount
  if extent < 0 then .error .invalidSize
  else
    .ok <| ofFn (tensor.shape.set axis extent.toNat) fun index =>
      let position : Int := index.getD axis 0
      if position < amount then filler
      else tensor.get (index.set axis (position - amount).toNat)

/-- The windows of a size along an axis, one at every multiple of the step at which a whole
window fits. The axis counts the windows and a new last axis runs through a window. -/
def windows (axis : Nat) (size step : Int) (tensor : Tensor α) : Except Failure (Tensor α) :=
  if size < 0 ∨ tensor.extent axis < size ∨ step ≤ 0 then .error .windowDoesNotFit
  else
    let count := (tensor.extent axis - size.toNat) / step.toNat + 1
    .ok <| ofFn (tensor.shape.set axis count ++ [size.toNat]) fun index =>
      let start := index.getD axis 0 * step.toNat
      let slot := index.getD tensor.rank 0
      tensor.get ((index.take tensor.rank).set axis (start + slot))

def append (axis : Nat) (front back : Tensor α) : Except Failure (Tensor α) :=
  if front.rank ≠ back.rank ∨ front.shape.set axis 0 ≠ back.shape.set axis 0 then
    .error .sizesDisagree
  else
    .ok <| ofFn (front.shape.set axis (front.extent axis + back.extent axis)) fun index =>
      let position := index.getD axis 0
      if position < front.extent axis then front.get index
      else back.get (index.set axis (position - front.extent axis))

def takeLast (axis count : Nat) (tensor : Tensor α) : Tensor α :=
  let kept := min count (tensor.extent axis)
  ofFn (tensor.shape.set axis kept) fun index =>
    tensor.get (index.set axis (index.getD axis 0 + (tensor.extent axis - kept)))

def insertAxis (axis : Nat) (tensor : Tensor α) : Tensor α :=
  ofFn (tensor.shape.insertIdx axis 1) fun index => tensor.get (index.eraseIdx axis)

def rows (tensor : Tensor α) : Tensor (List α) :=
  let length := tensor.shape.getLastD 1
  ofFn tensor.shape.dropLast fun index =>
    (List.range length).map fun position => tensor.get (index ++ [position])

def mapRows (image : List α → List α) (tensor : Tensor α) : Tensor α :=
  let images := tensor.rows.map fun row => (image row).toArray
  ofFn tensor.shape fun index =>
    (images.get index.dropLast).getD (index.getLastD 0) default

variable {tensor result front back : Tensor α} {index : List Nat}

theorem get_reshape {sizes : List Int} (made : tensor.reshape sizes = .ok result)
    (inside : Shape.Contains result.shape index) :
    result.get index =
      tensor.get (Shape.indexAt tensor.shape (Shape.offset result.shape index)) := by
  unfold reshape at made
  split at made
  · contradiction
  · split at made
    · rename_i shape _ fits
      cases made
      have bound : Shape.offset shape index < Shape.volume tensor.shape :=
        fits ▸ Shape.offset_lt_volume inside
      simp [get, Shape.offset_indexAt bound]
    · contradiction

omit [Inhabited α] in
theorem infer?_of_reshape {sizes : List Int} (made : tensor.reshape sizes = .ok result) :
    Shape.infer? (Shape.volume tensor.shape) sizes = some result.shape := by
  unfold reshape at made
  split at made
  · contradiction
  · split at made
    · cases made
      assumption
    · contradiction

@[simp] theorem shape_swapAxes (axis : Nat) (tensor : Tensor α) :
    (tensor.swapAxes axis).shape = Shape.swapAt axis tensor.shape := rfl

theorem get_swapAxes {axis : Nat}
    (inside : Shape.Contains (Shape.swapAt axis tensor.shape) index) :
    (tensor.swapAxes axis).get index = tensor.get (Shape.swapAt axis index) :=
  get_ofFn inside _

theorem transpose_of_rank (enough : 2 ≤ tensor.rank) :
    tensor.transpose = .ok (tensor.swapAxes (tensor.rank - 2)) := by
  simp [transpose, Nat.not_lt.mpr enough]

theorem shape_padFront {axis : Nat} {amount : Int} {filler : α}
    (made : tensor.padFront axis amount filler = .ok result) :
    result.shape = tensor.shape.set axis (tensor.extent axis + amount).toNat := by
  unfold padFront at made
  simp only at made
  split at made
  · contradiction
  · cases made
    rfl

theorem get_padFront {axis : Nat} {amount : Int} {filler : α}
    (made : tensor.padFront axis amount filler = .ok result)
    (inside : Shape.Contains result.shape index) :
    result.get index =
      if (index.getD axis 0 : Int) < amount then filler
      else tensor.get (index.set axis ((index.getD axis 0 : Int) - amount).toNat) := by
  unfold padFront at made
  simp only at made
  split at made
  · contradiction
  · cases made
    exact get_ofFn inside _

theorem shape_windows {axis : Nat} {size step : Int}
    (made : tensor.windows axis size step = .ok result) :
    result.shape =
      tensor.shape.set axis ((tensor.extent axis - size.toNat) / step.toNat + 1) ++
        [size.toNat] := by
  unfold windows at made
  simp only at made
  split at made
  · contradiction
  · cases made
    rfl

theorem get_windows {axis : Nat} {size step : Int}
    (made : tensor.windows axis size step = .ok result)
    (inside : Shape.Contains result.shape index) :
    result.get index =
      tensor.get ((index.take tensor.rank).set axis
        (index.getD axis 0 * step.toNat + index.getD tensor.rank 0)) := by
  unfold windows at made
  simp only at made
  split at made
  · contradiction
  · cases made
    exact get_ofFn inside _

theorem shape_append {axis : Nat} (made : front.append axis back = .ok result) :
    result.shape = front.shape.set axis (front.extent axis + back.extent axis) := by
  unfold append at made
  split at made
  · contradiction
  · cases made
    rfl

theorem get_append {axis : Nat} (made : front.append axis back = .ok result)
    (inside : Shape.Contains result.shape index) :
    result.get index =
      if index.getD axis 0 < front.extent axis then front.get index
      else back.get (index.set axis (index.getD axis 0 - front.extent axis)) := by
  unfold append at made
  split at made
  · contradiction
  · cases made
    exact get_ofFn inside _

@[simp] theorem shape_takeLast (axis count : Nat) (tensor : Tensor α) :
    (tensor.takeLast axis count).shape =
      tensor.shape.set axis (min count (tensor.extent axis)) := rfl

theorem get_takeLast {axis count : Nat}
    (inside : Shape.Contains (tensor.takeLast axis count).shape index) :
    (tensor.takeLast axis count).get index =
      tensor.get (index.set axis
        (index.getD axis 0 + (tensor.extent axis - min count (tensor.extent axis)))) :=
  get_ofFn inside _

@[simp] theorem shape_insertAxis (axis : Nat) (tensor : Tensor α) :
    (tensor.insertAxis axis).shape = tensor.shape.insertIdx axis 1 := rfl

theorem get_insertAxis {axis : Nat}
    (inside : Shape.Contains (tensor.insertAxis axis).shape index) :
    (tensor.insertAxis axis).get index = tensor.get (index.eraseIdx axis) :=
  get_ofFn inside _

@[simp] theorem shape_rows (tensor : Tensor α) :
    tensor.rows.shape = tensor.shape.dropLast := rfl

theorem get_rows (inside : Shape.Contains tensor.shape.dropLast index) :
    tensor.rows.get index =
      (List.range (tensor.shape.getLastD 1)).map fun position =>
        tensor.get (index ++ [position]) :=
  get_ofFn inside _

theorem get_mapRows {image : List α → List α}
    (inside : Shape.Contains tensor.shape index) :
    (tensor.mapRows image).get index =
      (image (tensor.rows.get index.dropLast)).getD (index.getLastD 0) default := by
  rw [mapRows, get_ofFn inside, get_map _ tensor.rows inside.dropLast]
  simp

end CausalAttention.Tensor
