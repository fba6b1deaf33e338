import CausalAttention.Number.Dyadic
import Mathlib.Algebra.Order.Field.Power
import Mathlib.Algebra.Order.Field.Rat
import Mathlib.Order.WithBot
import Mathlib.Tactic.NormNum

/-!
The order of dyadic numbers. The comparisons of whole multiples of one power of two are those of
rational numbers, with an infinity on each side; an undefined value has no place among them.
-/

set_option autoImplicit false

namespace CausalAttention

theorem cast_twoTo (count : Nat) : ((twoTo count : Nat) : ℚ) = 2 ^ (count : Int) := by
  rw [zpow_natCast]
  exact Nat.cast_pow 2 count

theorem mul_zpow_eq (factor : Nat) {least exponent : Int} (le : least ≤ exponent) :
    (factor : ℚ) * 2 ^ exponent = (factor * twoTo (exponent - least).toNat : Nat) * 2 ^ least := by
  rw [Nat.cast_mul, cast_twoTo, Int.toNat_of_nonneg (Int.sub_nonneg_of_le le), mul_assoc,
    ← zpow_add₀ two_ne_zero, Int.sub_add_cancel]

namespace DyadicValue

def scaled (negative : Bool) (magnitude : Nat) (exponent : Int) : ℚ :=
  signed negative magnitude * 2 ^ exponent

/-- The place of a value among the rational numbers and the two infinities. -/
def place? : DyadicValue → Option (WithBot (WithTop ℚ))
  | finite negative magnitude exponent => some (scaled negative magnitude exponent : WithTop ℚ)
  | infinite true => some ⊥
  | infinite false => some ⊤
  | undefined => none

theorem place?_ofInteger (number : Int) :
    (ofInteger number).place? = some (((number : ℚ) : WithTop ℚ) : WithBot (WithTop ℚ)) := by
  have plain : scaled (decide (number < 0)) number.natAbs 0 = number := by
    unfold scaled
    rw [signed_natAbs, zpow_zero, mul_one]
  change some ((scaled _ _ 0 : WithTop ℚ) : WithBot (WithTop ℚ)) = _
  rw [plain]

theorem scaled_eq (negative : Bool) (magnitude : Nat) {least exponent : Int}
    (le : least ≤ exponent) :
    scaled negative magnitude exponent =
      (signed negative magnitude * twoTo (exponent - least).toNat : Int) * 2 ^ least := by
  have counted : ((exponent - least).toNat : Int) = exponent - least :=
    Int.toNat_of_nonneg (Int.sub_nonneg_of_le le)
  unfold scaled
  rw [Int.cast_mul, Int.cast_natCast, cast_twoTo, counted, mul_assoc, ← zpow_add₀ two_ne_zero,
    Int.sub_add_cancel]

section Finite

variable (negative otherNegative : Bool) (magnitude otherMagnitude : Nat)
  (exponent otherExponent : Int)

theorem isLess_finite :
    (finite negative magnitude exponent).isLess
        (finite otherNegative otherMagnitude otherExponent) = true ↔
      scaled negative magnitude exponent < scaled otherNegative otherMagnitude otherExponent := by
  have unit : (0 : ℚ) < 2 ^ min exponent otherExponent := zpow_pos two_pos _
  rw [scaled_eq negative magnitude (Int.min_le_left exponent otherExponent),
    scaled_eq otherNegative otherMagnitude (Int.min_le_right exponent otherExponent),
    mul_lt_mul_iff_left₀ unit, Int.cast_lt]
  exact decide_eq_true_iff

theorem isEqual_finite :
    (finite negative magnitude exponent).isEqual
        (finite otherNegative otherMagnitude otherExponent) = true ↔
      scaled negative magnitude exponent = scaled otherNegative otherMagnitude otherExponent := by
  have unit : (2 : ℚ) ^ min exponent otherExponent ≠ 0 := zpow_ne_zero _ two_ne_zero
  rw [scaled_eq negative magnitude (Int.min_le_left exponent otherExponent),
    scaled_eq otherNegative otherMagnitude (Int.min_le_right exponent otherExponent),
    mul_left_inj' unit, Int.cast_inj]
  exact decide_eq_true_iff

end Finite

variable {left right : DyadicValue}

theorem isLess_iff :
    left.isLess right = true ↔
      ∃ lower ∈ left.place?, ∃ upper ∈ right.place?, lower < upper := by
  cases left with
  | finite negative magnitude exponent =>
      cases right with
      | finite otherNegative otherMagnitude otherExponent =>
          simp [isLess_finite, place?]
      | infinite otherNegative =>
          cases otherNegative with
          | true => simp [isLess, aligned?, place?]
          | false =>
              have below := WithTop.coe_lt_top (scaled negative magnitude exponent)
              simpa [isLess, aligned?, place?] using WithBot.coe_lt_coe.mpr below
      | undefined => simp [isLess, aligned?, place?]
  | infinite negative =>
      cases right with
      | finite otherNegative otherMagnitude otherExponent =>
          cases negative <;> simp [isLess, aligned?, place?]
      | infinite otherNegative =>
          cases negative <;> cases otherNegative <;> simp [isLess, aligned?, place?]
      | undefined => cases negative <;> simp [isLess, aligned?, place?]
  | undefined => cases right <;> simp [isLess, aligned?, place?]

theorem isEqual_iff :
    left.isEqual right = true ↔ ∃ place ∈ left.place?, place ∈ right.place? := by
  cases left with
  | finite negative magnitude exponent =>
      cases right with
      | finite otherNegative otherMagnitude otherExponent =>
          rw [isEqual_finite]
          simp only [place?, Option.mem_some_iff, exists_eq_left', WithBot.coe_inj, WithTop.coe_inj]
          exact eq_comm
      | infinite otherNegative => cases otherNegative <;> simp [isEqual, aligned?, place?]
      | undefined => simp [isEqual, aligned?, place?]
  | infinite negative =>
      cases right with
      | finite otherNegative otherMagnitude otherExponent =>
          cases negative <;> simp [isEqual, aligned?, place?]
      | infinite otherNegative =>
          cases negative <;> cases otherNegative <;> simp [isEqual, aligned?, place?]
      | undefined => cases negative <;> simp [isEqual, aligned?, place?]
  | undefined => cases right <;> simp [isEqual, aligned?, place?]

theorem isAtMost_iff :
    left.isAtMost right = true ↔
      ∃ lower ∈ left.place?, ∃ upper ∈ right.place?, lower ≤ upper := by
  unfold isAtMost
  rw [Bool.or_eq_true, isLess_iff, isEqual_iff]
  constructor
  · rintro (⟨lower, found, upper, otherFound, less⟩ | ⟨place, found, otherFound⟩)
    · exact ⟨lower, found, upper, otherFound, le_of_lt less⟩
    · exact ⟨place, found, place, otherFound, le_refl place⟩
  · rintro ⟨lower, found, upper, otherFound, atMost⟩
    rcases lt_or_eq_of_le atMost with less | rfl
    · exact Or.inl ⟨lower, found, upper, otherFound, less⟩
    · exact Or.inr ⟨lower, found, otherFound⟩

theorem isLess_eq_false_of_isAtMost (atMost : left.isAtMost right = true) :
    right.isLess left = false := by
  rw [← Bool.not_eq_true, isLess_iff]
  rintro ⟨upper, otherFound, lower, found, less⟩
  rcases isAtMost_iff.mp atMost with ⟨first, firstFound, second, secondFound, order⟩
  obtain rfl : first = lower := Option.mem_unique firstFound found
  obtain rfl : second = upper := Option.mem_unique secondFound otherFound
  exact absurd less (not_lt_of_ge order)

theorem isLess_asymm (less : left.isLess right = true) : right.isLess left = false := by
  apply isLess_eq_false_of_isAtMost
  unfold isAtMost
  rw [less, Bool.true_or]

theorem isEqual_eq_false_of_isLess (less : left.isLess right = true) :
    left.isEqual right = false := by
  rw [← Bool.not_eq_true, isEqual_iff]
  rintro ⟨place, found, otherFound⟩
  obtain ⟨lower, lowerFound, upper, upperFound, order⟩ := isLess_iff.mp less
  obtain rfl : lower = place := Option.mem_unique lowerFound found
  obtain rfl : upper = lower := Option.mem_unique upperFound otherFound
  exact lt_irrefl _ order

theorem exists_rational {place : WithBot (WithTop ℚ)} {lower upper : ℚ}
    (atLeast : ((lower : WithTop ℚ) : WithBot (WithTop ℚ)) ≤ place)
    (below : place < ((upper : WithTop ℚ) : WithBot (WithTop ℚ))) :
    ∃ number : ℚ, place = ((number : WithTop ℚ) : WithBot (WithTop ℚ)) ∧ lower ≤ number ∧
      number < upper := by
  cases place with
  | bot => exact absurd atLeast (not_le_of_gt (WithBot.bot_lt_coe _))
  | coe reached =>
      cases reached with
      | top => exact absurd (WithBot.coe_lt_coe.mp below) not_top_lt
      | coe number =>
          exact ⟨number, rfl, WithTop.coe_le_coe.mp (WithBot.coe_le_coe.mp atLeast),
            WithTop.coe_lt_coe.mp (WithBot.coe_lt_coe.mp below)⟩

end DyadicValue

end CausalAttention
