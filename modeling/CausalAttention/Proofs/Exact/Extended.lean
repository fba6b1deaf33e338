import CausalAttention.Proofs.Exact.Average
import Mathlib.Algebra.Order.Monoid.WithTop
import Mathlib.Order.WithBot

/-!
Exact numbers with one below all others, which stands for what is too small for its type. A row of
scores that holds it has no weights. Everything that is computed from exact numbers alone is exact.
-/

set_option autoImplicit false

namespace CausalAttention

namespace Extended

/-- The weights of a row. Where a score is not an exact number, no weight is one. -/
def softmax [Falloff] (row : List (WithBot ℚ)) : List (WithBot ℚ) :=
  if ⊥ ∈ row then row.map fun _ => ⊥
  else (Exact.softmax (row.map (WithBot.unbotD 0))).map WithBot.some

instance [Falloff] : Arithmetic (WithBot ℚ) where
  toInhabited := inferInstance
  ofInteger type number := (Exact.convert type number : ℚ)
  convert type := WithBot.map (Exact.convert type)
  add _ left right := left + right
  multiply _ left right := WithBot.map₂ (· * ·) left right
  atLeast lower number := max lower number
  softmax _ := softmax
  isNonzero number := decide (number ≠ (0 : ℚ))
  isPositive number := decide (((0 : ℚ) : WithBot ℚ) < number)

variable [Falloff] {type : ElementType}

theorem cast_coe (source target : ElementType) (number : ℚ) :
    Arithmetic.cast source target (number : WithBot ℚ) =
      ((Arithmetic.cast source target number : ℚ) : WithBot ℚ) := by
  unfold Arithmetic.cast
  split
  · rfl
  · rfl

theorem cast_floating (source : ElementType) (floating : type.isFloating = true)
    (number : WithBot ℚ) : Arithmetic.cast source type number = number := by
  cases number with
  | bot =>
      unfold Arithmetic.cast
      split
      · rfl
      · rfl
  | coe number => rw [cast_coe, Exact.cast_floating source floating]

theorem softmax_coe (row : List ℚ) :
    softmax (row.map WithBot.some) =
      (Exact.softmax row).map WithBot.some := by
  have exact : ⊥ ∉ row.map WithBot.some := by
    intro member
    rcases List.mem_map.mp member with ⟨score, _, same⟩
    exact WithBot.coe_ne_bot same
  have back : (row.map WithBot.some).map (WithBot.unbotD 0) =
      row := by
    rw [List.map_map]
    exact List.map_id row
  unfold softmax
  rw [if_neg exact, back]

theorem sumOfProducts_coe (type : ElementType) (left right : List ℚ) :
    Arithmetic.sumOfProducts type (left.map WithBot.some)
        (right.map WithBot.some) =
      ((Arithmetic.sumOfProducts type left right : ℚ) : WithBot ℚ) := by
  have folded (pairs : List (ℚ × ℚ)) (total : ℚ) :
      (pairs.map (Prod.map WithBot.some WithBot.some)).foldl
        (fun total pair => Arithmetic.add type total (Arithmetic.multiply type pair.1 pair.2))
        (total : WithBot ℚ) =
      ((pairs.foldl (fun total pair => Arithmetic.add type total
        (Arithmetic.multiply type pair.1 pair.2)) total : ℚ) : WithBot ℚ) := by
    induction pairs generalizing total with
    | nil => rfl
    | cons pair rest ih => exact ih (total + pair.1 * pair.2)
  unfold Arithmetic.sumOfProducts
  rw [List.zip_map]
  exact folded _ _

theorem accumulatedDot_coe (type : ElementType) (left right : List ℚ) :
    Arithmetic.accumulatedDot type (left.map WithBot.some)
        (right.map WithBot.some) =
      ((Arithmetic.accumulatedDot type left right : ℚ) : WithBot ℚ) := by
  have converted (row : List ℚ) :
      (row.map WithBot.some).map (Arithmetic.convert type.accumulator) =
        (row.map (Arithmetic.convert type.accumulator)).map WithBot.some := by
    rw [List.map_map, List.map_map]
    rfl
  unfold Arithmetic.accumulatedDot
  by_cases own : type.accumulator = type
  · simp only [own, if_true]
    exact sumOfProducts_coe type left right
  · simp only [if_neg own, converted]
    exact sumOfProducts_coe _ _ _

theorem dot_coe (type : ElementType) (left right : List ℚ) :
    Arithmetic.dot type (left.map WithBot.some)
        (right.map WithBot.some) =
      ((Arithmetic.dot type left right : ℚ) : WithBot ℚ) := by
  have total := accumulatedDot_coe type left right
  unfold Arithmetic.dot
  by_cases own : type.accumulator = type
  · simp only [own, if_true, total]
  · simp only [if_neg own, total]
    rfl

theorem dot_range (floating : type.isFloating = true) (count : Nat) (left right : Nat → ℚ) :
    Arithmetic.dot type ((List.range count).map fun step => (left step : WithBot ℚ))
        ((List.range count).map fun step => (right step : WithBot ℚ)) =
      ((∑ step ∈ Finset.range count, left step * right step : ℚ) : WithBot ℚ) := by
  have apart (entry : Nat → ℚ) : ((List.range count).map fun step => (entry step : WithBot ℚ)) =
      ((List.range count).map entry).map WithBot.some := List.map_map.symm
  rw [apart left, apart right, dot_coe, Exact.dot_range floating]

end Extended

namespace TypedTensor

def extended (typed : TypedTensor ℚ) : TypedTensor (WithBot ℚ) :=
  ⟨typed.elementType, typed.tensor.map WithBot.some⟩

theorem getJoined_extended [Falloff] {typed : TypedTensor ℚ} {large : Shape} {index : List Nat}
    (repeats : Shape.Repeats typed.shape large) (inside : Shape.Contains large index) :
    typed.extended.tensor.getJoined index = ((typed.tensor.getJoined index : ℚ) : WithBot ℚ) :=
  Tensor.get_map _ _ (repeats.contains_project inside)

end TypedTensor

end CausalAttention
