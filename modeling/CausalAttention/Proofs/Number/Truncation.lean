import CausalAttention.Number.Machine
import CausalAttention.Proofs.Number.Order
import CausalAttention.Proofs.Tensor.Products
import Mathlib.Data.Rat.Floor

/-!
Truncation of machine numbers. A finite number of any type becomes an integer of sixty-four bits
that is zero exactly when the number, cut off toward zero, is: numbers beyond the range of these
integers stay different from zero.
-/

set_option autoImplicit false

namespace CausalAttention

def towardZero (number : ℚ) : ℤ :=
  if 0 ≤ number then ⌊number⌋ else ⌈number⌉

theorem towardZero_intCast (number : ℤ) : towardZero number = number := by
  unfold towardZero
  rw [Int.floor_intCast, Int.ceil_intCast, ite_self]

theorem towardZero_neg (number : ℚ) : towardZero (-number) = -towardZero number := by
  unfold towardZero
  rcases lt_trichotomy number 0 with negative | rfl | positive
  · rw [if_pos (neg_nonneg.mpr negative.le), if_neg (not_le_of_gt negative), Int.floor_neg]
  · simp
  · rw [if_neg (not_le_of_gt (neg_neg_of_pos positive)), if_pos positive.le, Int.ceil_neg]

namespace DyadicValue

def rational? : DyadicValue → Option ℚ
  | finite negative magnitude exponent => some (scaled negative magnitude exponent)
  | infinite _ | undefined => none

theorem scaled_magnitude (magnitude : Nat) (exponent : Int) :
    scaled false magnitude exponent =
      ((magnitude * twoTo exponent.toNat : Nat) : ℚ) / (twoTo (-exponent).toNat : Nat) := by
  have split : exponent = (exponent.toNat : Int) - ((-exponent).toNat : Int) := by omega
  have whole : ((signed false magnitude : Int) : ℚ) = magnitude := Int.cast_natCast magnitude
  unfold scaled
  rw [Nat.cast_mul, cast_twoTo, cast_twoTo, mul_div_assoc, ← zpow_sub₀ two_ne_zero, ← split, whole]

/-- Truncation of a finite value is that of its rational number. -/
theorem truncated?_eq (value : DyadicValue) :
    value.truncated? = value.rational?.map towardZero := by
  cases value with
  | infinite negative => rfl
  | undefined => rfl
  | finite negative magnitude exponent =>
      have positive : towardZero (scaled false magnitude exponent) =
          (magnitude * twoTo exponent.toNat / twoTo (-exponent).toNat : Nat) := by
        have nonnegative : 0 ≤ scaled false magnitude exponent := by
          rw [scaled_magnitude]
          positivity
        unfold towardZero
        rw [if_pos nonnegative, scaled_magnitude, Rat.floor_natCast_div_natCast]
        exact (Int.natCast_div _ _).symm
      change some _ = some _
      congr 1
      cases negative with
      | false => exact positive.symm
      | true =>
          have mirrored : scaled true magnitude exponent = -scaled false magnitude exponent := by
            simp [scaled, signed]
          rw [mirrored, towardZero_neg, positive]
          rfl

end DyadicValue

namespace MachineNumber

/-- Whether a number is in the form that an element type has: a double for the floating types, an
integer within the range for the others. -/
def HasType (type : ElementType) : MachineNumber → Prop
  | whole value => type.isFloating = false ∧ wrap type value = value
  | real _ => type.isFloating = true

def rational? : MachineNumber → Option ℚ
  | whole value => some value
  | real value => (DyadicValue.ofFloat value).rational?

theorem bmod_word {value : Int} (atLeast : -(twoTo 63 : Int) ≤ value)
    (below : value < (twoTo 63 : Int)) : Int.bmod value (twoTo 64) = value := by
  have half : ((twoTo 64 : Nat) : Int) = 2 * (twoTo 63 : Nat) := by decide
  apply Int.bmod_eq_of_le <;> omega

theorem half_word_of_wrap {type : ElementType} {value : Int} (notFloating : type.isFloating = false)
    (wrapped : wrap type value = value) (other : type ≠ .int64) :
    -(twoTo 31 : Int) ≤ value ∧ value < (twoTo 31 : Int) := by
  have half : ((twoTo 31 : Nat) : Int) = 2147483648 := rfl
  cases type with
  | int64 => exact absurd rfl other
  | int32 =>
      have lower := @Int.le_bmod value (twoTo 32) (by decide)
      have upper := @Int.bmod_lt value (twoTo 32) (by decide)
      have range : ((twoTo 32 : Nat) : Int) = 4294967296 := rfl
      change Int.bmod value (twoTo 32) = value at wrapped
      rw [wrapped] at lower upper
      omega
  | uint8 =>
      have range : ((twoTo 8 : Nat) : Int) = 256 := rfl
      change value % (twoTo 8 : Int) = value at wrapped
      rw [range] at wrapped
      omega
  | bool =>
      change (if value = 0 then 0 else 1) = value at wrapped
      split at wrapped <;> omega
  | float32 | float64 | float16 | bfloat16 => contradiction

theorem word_of_wrap {type : ElementType} {value : Int} (notFloating : type.isFloating = false)
    (wrapped : wrap type value = value) :
    -(twoTo 63 : Int) ≤ value ∧ value < (twoTo 63 : Int) := by
  have half : ((twoTo 31 : Nat) : Int) = 2147483648 := rfl
  have word : ((twoTo 63 : Nat) : Int) = 9223372036854775808 := rfl
  by_cases widest : type = .int64
  · subst widest
    have lower := @Int.le_bmod value (twoTo 64) (by decide)
    have upper := @Int.bmod_lt value (twoTo 64) (by decide)
    have range : ((twoTo 64 : Nat) : Int) = 18446744073709551616 := rfl
    change Int.bmod value (twoTo 64) = value at wrapped
    rw [wrapped] at lower upper
    omega
  · have few := half_word_of_wrap notFloating wrapped widest
    omega

theorem cast_whole {type : ElementType} {value : Int} (typed : (whole value).HasType type) :
    Arithmetic.cast type .int64 (whole value) = whole value := by
  rcases typed with ⟨notFloating, wrapped⟩
  unfold Arithmetic.cast
  by_cases same : type = .int64
  · rw [if_pos same]
  · rw [if_neg same]
    change whole (Int.bmod value (twoTo 64)) = whole value
    rcases word_of_wrap notFloating wrapped with ⟨atLeast, below⟩
    rw [bmod_word atLeast below]

/-- A double outside of the range of integers becomes the least of them, which is not zero. -/
theorem isNonzero_truncate {value : Float} {integer : Int}
    (truncated : (DyadicValue.ofFloat value).truncated? = some integer) :
    isNonzero (whole (wrap .int64 (truncate 64 value))) = decide (integer ≠ 0) := by
  have word : ((twoTo 63 : Nat) : Int) = 9223372036854775808 := by decide
  change decide (Int.bmod (truncate 64 value) (twoTo 64) ≠ 0) = decide (integer ≠ 0)
  unfold truncate
  simp only [truncated]
  by_cases inRange : -(twoTo 63 : Int) ≤ integer ∧ integer < - -(twoTo 63 : Int)
  · rw [if_pos inRange, bmod_word inRange.1 (by omega)]
  · rw [if_neg inRange, bmod_word (Int.le_refl _) (by omega), decide_eq_decide]
    omega

/-- A finite number is kept as an integer of sixty-four bits unless its integer part is zero. -/
theorem isNonzero_cast {type : ElementType} {number : MachineNumber} {exact : ℚ}
    (typed : number.HasType type) (finite : number.rational? = some exact) :
    Arithmetic.isNonzero (Arithmetic.cast type .int64 number) =
      decide (towardZero exact ≠ 0) := by
  cases number with
  | whole value =>
      cases finite
      rw [cast_whole typed, towardZero_intCast]
      rfl
  | real value =>
      have floating : type.isFloating = true := typed
      have other : type ≠ .int64 := by
        rintro rfl
        contradiction
      have truncated : (DyadicValue.ofFloat value).truncated? = some (towardZero exact) := by
        have found : (DyadicValue.ofFloat value).rational? = some exact := finite
        rw [DyadicValue.truncated?_eq, found]
        rfl
      unfold Arithmetic.cast
      rw [if_neg other]
      exact isNonzero_truncate truncated

end MachineNumber

end CausalAttention
