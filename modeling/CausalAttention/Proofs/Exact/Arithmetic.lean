import CausalAttention.Proofs.Attention
import Mathlib.Algebra.BigOperators.Intervals
import Mathlib.Algebra.Order.Ring.Rat
import Mathlib.Data.Finset.Lattice.Fold
import Mathlib.Data.Rat.Floor
import Mathlib.Tactic.Linarith
import Mathlib.Tactic.Ring

/-!
Attention over exact numbers. Scalars are rationals that no operation rounds, and the exponential
of a row is any weight of the distance from the greatest score that gives nothing from a depth of
104 on.
-/

set_option autoImplicit false

namespace CausalAttention

class Falloff where
  weight : ℚ → ℚ
  nonnegative : ∀ distance, 0 ≤ weight distance
  weight_zero : weight 0 = 1
  weight_deep : ∀ distance, distance ≤ -104 → weight distance = 0

@[reducible] def Falloff.linear : Falloff where
  weight distance :=
    if distance ≤ -104 then 0 else if distance ≤ 0 then 1 + distance / 104 else 1
  nonnegative distance := by
    split
    · exact le_refl 0
    · split
      · linarith
      · exact zero_le_one
  weight_zero := by norm_num
  weight_deep distance deep := if_pos deep

namespace Exact

def peak (row : List ℚ) : ℚ :=
  row.max?.getD 0

def softmax [Falloff] (row : List ℚ) : List ℚ :=
  let weights := row.map fun score => Falloff.weight (score - peak row)
  weights.map fun weight => weight / weights.sum

def convert (type : ElementType) (number : ℚ) : ℚ :=
  match type with
  | .float32 | .float64 | .float16 | .bfloat16 => number
  | .int64 | .int32 | .uint8 => (number.num.tdiv number.den : Int)
  | .bool => if number = 0 then 0 else 1

instance [Falloff] : Arithmetic ℚ where
  toInhabited := inferInstance
  ofInteger type number := convert type number
  convert := convert
  add _ left right := left + right
  multiply _ left right := left * right
  atLeast lower number := max lower number
  softmax _ := softmax
  isNonzero number := decide (number ≠ 0)
  isPositive number := decide (0 < number)

variable {type : ElementType}

@[simp] theorem convert_floating (floating : type.isFloating = true) (number : ℚ) :
    convert type number = number := by
  cases type <;> first | rfl | contradiction

/-- Arithmetic in a ring that no operation of a floating type rounds. Rows are normalised in
whatever way. -/
class Unrounded (α : Type) [CommRing α] [Arithmetic α] : Prop where
  ofInteger : ∀ {type : ElementType}, type.isFloating = true → ∀ number : Int,
    (Arithmetic.ofInteger type number : α) = number
  convert : ∀ {type : ElementType}, type.isFloating = true → ∀ number : α,
    Arithmetic.convert type number = number
  add : ∀ {type : ElementType}, type.isFloating = true → ∀ left right : α,
    Arithmetic.add type left right = left + right
  multiply : ∀ {type : ElementType}, type.isFloating = true → ∀ left right : α,
    Arithmetic.multiply type left right = left * right

instance [Falloff] : Unrounded ℚ where
  ofInteger floating _ := convert_floating floating _
  convert floating := convert_floating floating
  add _ _ _ := rfl
  multiply _ _ _ := rfl

variable {α : Type} [CommRing α] [Arithmetic α] [Unrounded α]

@[simp] theorem cast_floating (source : ElementType) (floating : type.isFloating = true)
    (number : α) : Arithmetic.cast source type number = number := by
  unfold Arithmetic.cast
  split
  · rfl
  · exact Unrounded.convert floating number

theorem sumOfProducts_eq (floating : type.isFloating = true) (left right : List α) :
    Arithmetic.sumOfProducts type left right =
      ((left.zip right).map fun pair => pair.1 * pair.2).sum := by
  have folded (pairs : List (α × α)) (total : α) :
      pairs.foldl (fun total pair => Arithmetic.add type total
          (Arithmetic.multiply type pair.1 pair.2)) total =
        total + (pairs.map fun pair => pair.1 * pair.2).sum := by
    induction pairs generalizing total with
    | nil => simp
    | cons pair rest ih =>
        rw [List.foldl_cons, ih, List.map_cons, List.sum_cons, Unrounded.multiply floating,
          Unrounded.add floating, add_assoc]
  unfold Arithmetic.sumOfProducts
  rw [Unrounded.ofInteger floating, Int.cast_zero, folded, zero_add]

theorem floating_accumulator (floating : type.isFloating = true) :
    type.accumulator.isFloating = true := by
  cases type <;> first | rfl | contradiction

theorem accumulatedDot_eq (floating : type.isFloating = true) (left right : List α) :
    Arithmetic.accumulatedDot type left right =
      ((left.zip right).map fun pair => pair.1 * pair.2).sum := by
  have wide := floating_accumulator floating
  have same (row : List α) : row.map (Arithmetic.convert type.accumulator) = row := by
    have unchanged : (Arithmetic.convert type.accumulator : α → α) = id := by
      funext number
      exact Unrounded.convert wide number
    rw [unchanged, List.map_id]
  unfold Arithmetic.accumulatedDot
  by_cases own : type.accumulator = type
  · simp only [own, if_true]
    exact sumOfProducts_eq floating left right
  · simp only [if_neg own, same]
    exact sumOfProducts_eq wide left right

theorem dot_eq (floating : type.isFloating = true) (left right : List α) :
    Arithmetic.dot type left right = ((left.zip right).map fun pair => pair.1 * pair.2).sum := by
  have total := accumulatedDot_eq floating left right
  unfold Arithmetic.dot
  by_cases own : type.accumulator = type
  · simp only [own, if_true, total]
  · simp only [if_neg own, total]
    exact Unrounded.convert floating _

theorem dotPlus_eq (floating : type.isFloating = true) (left right : List α) (term : α) :
    Arithmetic.dotPlus type left right term =
      ((left.zip right).map fun pair => pair.1 * pair.2).sum + term := by
  have total := accumulatedDot_eq floating left right
  have wide := floating_accumulator floating
  unfold Arithmetic.dotPlus
  by_cases own : type.accumulator = type
  · simp only [own, if_true, total, Unrounded.add floating]
  · simp only [if_neg own, total, Unrounded.convert floating, Unrounded.convert wide,
      Unrounded.add wide]

omit [Arithmetic α] [Unrounded α] in
theorem sum_map_range (count : Nat) (term : Nat → α) :
    ((List.range count).map term).sum = ∑ step ∈ Finset.range count, term step := by
  induction count with
  | zero => rfl
  | succ count ih => simp [List.range_succ, Finset.sum_range_succ, ih]

theorem dot_range (floating : type.isFloating = true) (count : Nat) (left right : Nat → α) :
    Arithmetic.dot type ((List.range count).map left) ((List.range count).map right) =
      ∑ step ∈ Finset.range count, left step * right step := by
  rw [dot_eq floating, List.zip_map', List.map_map]
  exact sum_map_range count _

theorem dotPlus_range (floating : type.isFloating = true) (count : Nat) (left right : Nat → α)
    (term : α) :
    Arithmetic.dotPlus type ((List.range count).map left) ((List.range count).map right) term =
      ∑ step ∈ Finset.range count, left step * right step + term := by
  rw [dotPlus_eq floating, List.zip_map', List.map_map]
  exact congrArg (· + term) (sum_map_range count _)

end Exact

end CausalAttention
