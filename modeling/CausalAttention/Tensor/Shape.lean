/-!
Shapes and row-major positions.

An index is a list with one coordinate per axis. The entries of a shape are numbered with the
last coordinate running fastest; numbering and the reading back of an index are inverse to
each other.
-/

set_option autoImplicit false

namespace CausalAttention

abbrev Shape := List Nat

namespace Shape

def volume : Shape → Nat
  | [] => 1
  | size :: rest => size * volume rest

def offset : Shape → List Nat → Nat
  | _ :: rest, coordinate :: index => coordinate * volume rest + offset rest index
  | _, _ => 0

def indexAt : Shape → Nat → List Nat
  | [], _ => []
  | _ :: rest, position => position / volume rest :: indexAt rest (position % volume rest)

def Contains : Shape → List Nat → Prop
  | [], [] => True
  | size :: rest, coordinate :: index => coordinate < size ∧ Contains rest index
  | _, _ => False

instance decidableContains : (shape : Shape) → (index : List Nat) → Decidable (Contains shape index)
  | [], [] => isTrue trivial
  | [], _ :: _ => isFalse id
  | _ :: _, [] => isFalse id
  | size :: rest, coordinate :: index =>
      have := decidableContains rest index
      inferInstanceAs (Decidable (coordinate < size ∧ Contains rest index))

theorem Contains.length_eq {shape : Shape} {index : List Nat} (inside : Contains shape index) :
    index.length = shape.length := by
  induction shape generalizing index with
  | nil => cases index <;> simp_all [Contains]
  | cons size rest ih =>
      cases index with
      | nil => simp [Contains] at inside
      | cons coordinate index => simp [ih inside.2]

theorem offset_lt_volume {shape : Shape} {index : List Nat} (inside : Contains shape index) :
    offset shape index < volume shape := by
  induction shape generalizing index with
  | nil => cases index <;> simp_all [Contains, offset, volume]
  | cons size rest ih =>
      cases index with
      | nil => simp [Contains] at inside
      | cons coordinate index =>
          have inner := ih inside.2
          have outer : (coordinate + 1) * volume rest ≤ size * volume rest :=
            Nat.mul_le_mul_right _ inside.1
          rw [Nat.add_mul] at outer
          simp only [offset, volume]
          omega

theorem contains_indexAt {shape : Shape} {position : Nat} (bound : position < volume shape) :
    Contains shape (indexAt shape position) := by
  induction shape generalizing position with
  | nil => simp [indexAt, Contains]
  | cons size rest ih =>
      have positive : 0 < volume rest := by
        cases h : volume rest with
        | zero => simp [volume, h] at bound
        | succ _ => omega
      refine ⟨(Nat.div_lt_iff_lt_mul positive).mpr bound, ih (Nat.mod_lt _ positive)⟩

theorem offset_indexAt {shape : Shape} {position : Nat} (bound : position < volume shape) :
    offset shape (indexAt shape position) = position := by
  induction shape generalizing position with
  | nil => simp_all [offset, volume]
  | cons size rest ih =>
      have positive : 0 < volume rest := by
        cases h : volume rest with
        | zero => simp [volume, h] at bound
        | succ _ => omega
      simp only [indexAt, offset, ih (Nat.mod_lt _ positive)]
      rw [Nat.mul_comm]
      exact Nat.div_add_mod position (volume rest)

theorem indexAt_offset {shape : Shape} {index : List Nat} (inside : Contains shape index) :
    indexAt shape (offset shape index) = index := by
  induction shape generalizing index with
  | nil => cases index <;> simp_all [Contains, indexAt]
  | cons size rest ih =>
      cases index with
      | nil => simp [Contains] at inside
      | cons coordinate index =>
          have inner := offset_lt_volume inside.2
          have positive : 0 < volume rest := by omega
          simp only [offset, indexAt]
          rw [Nat.mul_comm, Nat.mul_add_div positive, Nat.mul_add_mod, Nat.div_eq_of_lt inner,
            Nat.mod_eq_of_lt inner, ih inside.2, Nat.add_zero]

theorem Contains.dropLast {shape : Shape} {index : List Nat} (inside : Contains shape index) :
    Contains shape.dropLast index.dropLast := by
  induction shape generalizing index with
  | nil => cases index <;> simp_all [Contains]
  | cons size rest ih =>
      match rest, index, inside with
      | [], [_], _ => trivial
      | _ :: _, coordinate :: next :: index, inside => exact ⟨inside.1, ih inside.2⟩

theorem Contains.append {outer inner : Shape} {first second : List Nat}
    (outside : Contains outer first) (inside : Contains inner second) :
    Contains (outer ++ inner) (first ++ second) := by
  induction outer generalizing first with
  | nil =>
      cases first with
      | nil => exact inside
      | cons coordinate rest => simp [Contains] at outside
  | cons size rest ih =>
      cases first with
      | nil => simp [Contains] at outside
      | cons coordinate index => exact ⟨outside.1, ih outside.2⟩

/-- Infers the one size that is given as `-1` so that the number of entries is `total`.
Nothing when the request is malformed or leaves the size open. -/
def infer? (total : Nat) (sizes : List Int) : Option Shape :=
  let known := volume ((sizes.filter (· ≠ -1)).map Int.toNat)
  if sizes.any (· < -1) then none
  else
    match sizes.count (-1) with
    | 0 => some (sizes.map Int.toNat)
    | 1 =>
        if known = 0 then none
        else some (sizes.map fun size => if size = -1 then total / known else size.toNat)
    | _ => none

def swapAt {β : Type} : Nat → List β → List β
  | 0, first :: second :: rest => second :: first :: rest
  | axis + 1, first :: rest => first :: swapAt axis rest
  | _, entries => entries

theorem swapAt_swapAt {β : Type} (axis : Nat) (entries : List β) :
    swapAt axis (swapAt axis entries) = entries := by
  induction axis generalizing entries with
  | zero =>
      match entries with
      | [] => rfl
      | [_] => rfl
      | _ :: _ :: _ => rfl
  | succ axis ih =>
      cases entries with
      | nil => rfl
      | cons first rest => simp [swapAt, ih]

theorem contains_swapAt {shape : Shape} {index : List Nat} (axis : Nat)
    (inside : Contains shape index) : Contains (swapAt axis shape) (swapAt axis index) := by
  induction axis generalizing shape index with
  | zero =>
      match shape, index with
      | [], [] => exact inside
      | [_], [_] => exact inside
      | _ :: _ :: _, _ :: _ :: _ => exact ⟨inside.2.1, inside.1, inside.2.2⟩
  | succ axis ih =>
      match shape, index with
      | [], [] => exact inside
      | _ :: _, _ :: _ => exact ⟨inside.1, ih inside.2⟩

end Shape

end CausalAttention
