import CausalAttention.Proofs.Number.Bits

/-!
Rounding to a binary format keeps every number that the format has, and so does the conversion of a
double to an element type that has its number.
-/

set_option autoImplicit false

namespace CausalAttention

section Quotients

variable {numerator denominator : Nat} (positive : 0 < denominator) (exponent : Int)

include positive

theorem shifted_lt_iff :
    numerator * twoTo (-exponent).toNat < denominator * twoTo exponent.toNat ↔
      (numerator / denominator : ℚ) < 2 ^ exponent := by
  have unit : (0 : ℚ) < (twoTo (-exponent).toNat : Nat) := Nat.cast_pos.mpr (twoTo_pos _)
  have below : (0 : ℚ) < denominator := Nat.cast_pos.mpr positive
  rw [div_lt_iff₀ below, ← Nat.cast_lt (α := ℚ), Nat.cast_mul, Nat.cast_mul, twoTo_toNat exponent,
    ← mul_assoc, mul_lt_mul_iff_left₀ unit, mul_comm (denominator : ℚ)]

theorem shifted_eq_iff (factor : Nat) :
    numerator * twoTo (-exponent).toNat = factor * (denominator * twoTo exponent.toNat) ↔
      (numerator / denominator : ℚ) = factor * 2 ^ exponent := by
  have unit : ((twoTo (-exponent).toNat : Nat) : ℚ) ≠ 0 := Nat.cast_ne_zero.mpr (twoTo_pos _).ne'
  have below : (denominator : ℚ) ≠ 0 := Nat.cast_ne_zero.mpr positive.ne'
  rw [div_eq_iff below, ← Nat.cast_inj (R := ℚ), Nat.cast_mul, Nat.cast_mul, Nat.cast_mul,
    twoTo_toNat exponent, ← mul_assoc, ← mul_assoc, mul_left_inj' unit, mul_right_comm,
    mul_assoc (factor : ℚ)]

end Quotients

theorem roundQuotient_mul {denominator : Nat} (positive : 0 < denominator) (factor : Nat) :
    roundQuotient (factor * denominator) denominator = factor := by
  simp [roundQuotient, positive]

namespace BinaryFormat

theorem leadingExponent_spec {numerator denominator : Nat} (nonzero : numerator ≠ 0)
    (positive : 0 < denominator) :
    (2 : ℚ) ^ leadingExponent numerator denominator ≤ numerator / denominator ∧
      (numerator / denominator : ℚ) < 2 ^ (leadingExponent numerator denominator + 1) := by
  have below : (0 : ℚ) < denominator := Nat.cast_pos.mpr positive
  have numeratorLower : (2 : ℚ) ^ (numerator.log2 : Int) ≤ numerator := by
    rw [zpow_natCast]
    exact_mod_cast Nat.log2_self_le nonzero
  have numeratorUpper : (numerator : ℚ) < 2 ^ ((numerator.log2 : Int) + 1) := by
    rw [← Nat.cast_succ, zpow_natCast]
    exact_mod_cast Nat.lt_log2_self
  have denominatorLower : (2 : ℚ) ^ (denominator.log2 : Int) ≤ denominator := by
    rw [zpow_natCast]
    exact_mod_cast Nat.log2_self_le positive.ne'
  have denominatorUpper : (denominator : ℚ) < 2 ^ ((denominator.log2 : Int) + 1) := by
    rw [← Nat.cast_succ, zpow_natCast]
    exact_mod_cast Nat.lt_log2_self
  unfold leadingExponent
  simp only
  generalize estimated : (numerator.log2 : Int) - denominator.log2 = estimate
  have upper : (numerator / denominator : ℚ) < 2 ^ (estimate + 1) := by
    rw [div_lt_iff₀ below]
    calc (numerator : ℚ) < 2 ^ ((numerator.log2 : Int) + 1) := numeratorUpper
      _ = 2 ^ (estimate + 1) * 2 ^ (denominator.log2 : Int) := by
        rw [← zpow_add₀ two_ne_zero]
        congr 1
        omega
      _ ≤ 2 ^ (estimate + 1) * denominator := by gcongr
  have lower : (2 : ℚ) ^ (estimate - 1) ≤ numerator / denominator := by
    rw [le_div_iff₀ below]
    calc (2 : ℚ) ^ (estimate - 1) * denominator
        ≤ 2 ^ (estimate - 1) * 2 ^ ((denominator.log2 : Int) + 1) := by gcongr
      _ = 2 ^ (numerator.log2 : Int) := by
        rw [← zpow_add₀ two_ne_zero]
        congr 1
        omega
      _ ≤ numerator := numeratorLower
  split
  · rename_i less
    rw [shifted_lt_iff positive] at less
    exact ⟨lower, by rwa [Int.sub_add_cancel]⟩
  · rename_i atLeast
    rw [shifted_lt_iff positive, not_lt] at atLeast
    exact ⟨atLeast, upper⟩

/-- A format has a number among its finite values. -/
def Holds (format : BinaryFormat) (number : ℚ) : Prop :=
  ∃ (significand : Nat) (exponent : Int), significand < twoTo format.precision ∧
    format.leastExponent ≤ exponent ∧ |number| = significand * 2 ^ exponent ∧
    |number| < 2 ^ format.bound

theorem Holds.abs_lt {format : BinaryFormat} {number : ℚ} (held : format.Holds number) :
    |number| < 2 ^ format.bound := by
  rcases held with ⟨_, _, _, _, _, bounded⟩
  exact bounded

theorem Holds.exists_significand {format : BinaryFormat} {number : ℚ} (held : format.Holds number)
    (positive : 0 < number) {leading : Int} (atLeast : (2 : ℚ) ^ leading ≤ number)
    (below : number < 2 ^ (leading + 1)) :
    ∃ significand : Nat, 0 < significand ∧ significand < twoTo format.precision ∧
      number = significand *
        2 ^ max format.leastExponent (leading + 1 - format.precision) := by
  rcases held with ⟨given, exponent, givenBelow, least, same, _⟩
  rw [abs_of_pos positive] at same
  generalize united : max format.leastExponent (leading + 1 - format.precision) = unit
  have within : unit ≤ exponent := by
    by_contra greater
    have precise : unit = leading + 1 - format.precision := by omega
    have small : number < 2 ^ leading := by
      calc number = given * 2 ^ exponent := same
        _ < (twoTo format.precision : Nat) * 2 ^ exponent := by gcongr
        _ = 2 ^ (format.precision + exponent) := by rw [cast_twoTo, zpow_add₀ two_ne_zero]
        _ ≤ 2 ^ leading := zpow_le_zpow_right₀ one_le_two (by omega)
    exact absurd atLeast (not_le_of_gt small)
  have joined := same.trans (mul_zpow_eq given within)
  refine ⟨given * twoTo (exponent - unit).toNat, ?_, ?_, joined⟩
  · apply Nat.pos_of_ne_zero
    intro zero
    rw [joined, zero, Nat.cast_zero, zero_mul] at positive
    exact lt_irrefl 0 positive
  · have bounded : ((given * twoTo (exponent - unit).toNat : Nat) : ℚ) * 2 ^ unit <
        (twoTo format.precision : Nat) * 2 ^ unit := by
      rw [← joined, cast_twoTo, ← zpow_add₀ two_ne_zero]
      exact below.trans_le (zpow_le_zpow_right₀ one_le_two (by omega))
    exact_mod_cast lt_of_mul_lt_mul_right bounded (zpow_pos two_pos _).le

/-- Rounding to a format keeps the numbers that the format has. -/
theorem round?_of_holds {format : BinaryFormat} {numerator denominator : Nat}
    (positive : 0 < denominator) (held : format.Holds (numerator / denominator)) :
    ∃ significand exponent, format.round? numerator denominator = some (significand, exponent) ∧
      significand < twoTo format.precision ∧ format.leastExponent ≤ exponent ∧
      (numerator / denominator : ℚ) = significand * 2 ^ exponent := by
  unfold round?
  by_cases zero : numerator = 0
  · refine ⟨0, format.leastExponent, if_pos zero, twoTo_pos _, Int.le_refl _, ?_⟩
    simp [zero]
  · have below : (0 : ℚ) < denominator := Nat.cast_pos.mpr positive
    have numberPositive : (0 : ℚ) < numerator / denominator :=
      div_pos (Nat.cast_pos.mpr (Nat.pos_of_ne_zero zero)) below
    rcases leadingExponent_spec zero positive with ⟨atLeast, less⟩
    obtain ⟨significand, nonzero, significandBelow, same⟩ :=
      held.exists_significand numberPositive atLeast less
    have bounded := held.abs_lt
    rw [abs_of_pos numberPositive, same] at bounded
    have least := Int.le_max_left format.leastExponent
      (leadingExponent numerator denominator + 1 - format.precision)
    rw [if_neg zero]
    simp only
    generalize max format.leastExponent
      (leadingExponent numerator denominator + 1 - format.precision) = unit at *
    have rounded := (shifted_eq_iff positive unit significand).mpr same
    have unitPositive : (0 : ℚ) < 2 ^ unit := zpow_pos two_pos _
    have room : unit ≤ format.bound := by
      by_contra greater
      have large : (2 : ℚ) ^ format.bound ≤ significand * 2 ^ unit := by
        calc (2 : ℚ) ^ format.bound ≤ 2 ^ unit := zpow_le_zpow_right₀ one_le_two (by omega)
          _ ≤ significand * 2 ^ unit :=
            le_mul_of_one_le_left unitPositive.le (Nat.one_le_cast.mpr nonzero)
      exact absurd bounded (not_lt_of_ge large)
    have fits : significand < twoTo (format.bound - unit).toNat := by
      have split : (2 : ℚ) ^ format.bound =
          (twoTo (format.bound - unit).toNat : Nat) * 2 ^ unit := by
        rw [cast_twoTo, Int.toNat_of_nonneg (by omega), ← zpow_add₀ two_ne_zero,
          Int.sub_add_cancel]
      rw [split] at bounded
      exact_mod_cast lt_of_mul_lt_mul_right bounded unitPositive.le
    rw [rounded, roundQuotient_mul (Nat.mul_pos positive (twoTo_pos _)), if_neg (by omega)]
    exact ⟨significand, unit, rfl, significandBelow, least, same⟩

variable {format other : BinaryFormat} {number : ℚ}

theorem holds_abs : format.Holds |number| ↔ format.Holds number := by
  unfold Holds
  rw [abs_abs]

structure Within (format other : BinaryFormat) : Prop where
  precision : format.precision ≤ other.precision
  leastExponent : other.leastExponent ≤ format.leastExponent
  bound : format.bound ≤ other.bound

theorem Holds.within (held : format.Holds number) (within : format.Within other) :
    other.Holds number := by
  rcases held with ⟨significand, exponent, below, least, same, bounded⟩
  refine ⟨significand, exponent, below.trans_le ?_, within.leastExponent.trans least, same,
    bounded.trans_le (zpow_le_zpow_right₀ one_le_two within.bound)⟩
  exact Nat.pow_le_pow_right (Nat.succ_pos 1) within.precision

theorem rational?_ofQuotient (within : format.Within double) (negative : Bool)
    {numerator denominator : Nat} (positive : 0 < denominator)
    (held : format.Holds (numerator / denominator)) :
    (DyadicValue.ofFloat (format.ofQuotient negative numerator denominator)).rational? =
      some (if negative then -(numerator / denominator : ℚ) else numerator / denominator) := by
  obtain ⟨significand, exponent, rounded, precise, least, same⟩ := round?_of_holds positive held
  have bounded := held.abs_lt
  rw [same, abs_of_nonneg (mul_nonneg (Nat.cast_nonneg _) (zpow_pos two_pos _).le)] at bounded
  unfold ofQuotient
  rw [rounded]
  simp only
  rw [DyadicValue.rational?_floatOfScaled negative
    (precise.trans_le (Nat.pow_le_pow_right (Nat.succ_pos 1) within.precision))
    (within.leastExponent.trans least)
    (bounded.trans_le (zpow_le_zpow_right₀ one_le_two within.bound)), same]
  cases negative with
  | false => simp [DyadicValue.scaled, DyadicValue.signed]
  | true => simp [DyadicValue.scaled, DyadicValue.signed]

theorem rational?_ofInteger (within : format.Within double) {integer : ℤ}
    (held : format.Holds integer) :
    (DyadicValue.ofFloat (format.ofInteger integer)).rational? = some (integer : ℚ) := by
  have magnitude : ((integer.natAbs : Nat) : ℚ) / (1 : Nat) = |(integer : ℚ)| := by
    rw [Nat.cast_one, div_one, Nat.cast_natAbs, Int.cast_abs]
  unfold ofInteger
  rw [rational?_ofQuotient within _ Nat.one_pos (by rw [magnitude, holds_abs]; exact held),
    magnitude]
  by_cases negative : integer < 0
  · have below : (integer : ℚ) < 0 := Int.cast_lt_zero.mpr negative
    simp [negative, abs_of_neg below]
  · have above : (0 : ℚ) ≤ integer := by exact_mod_cast not_lt.mp negative
    simp [negative, abs_of_nonneg above]

theorem rational?_ofFloat (within : format.Within double) {value : Float}
    (finite : (DyadicValue.ofFloat value).rational? = some number) (held : format.Holds number) :
    (DyadicValue.ofFloat (format.ofFloat value)).rational? = some number := by
  unfold ofFloat
  cases given : DyadicValue.ofFloat value with
  | infinite negative =>
      rw [given] at finite
      contradiction
  | undefined =>
      rw [given] at finite
      contradiction
  | finite negative magnitude exponent =>
      rw [given] at finite
      obtain rfl : DyadicValue.scaled negative magnitude exponent = number := Option.some.inj finite
      have positive := twoTo_pos (-exponent).toNat
      have nonnegative : 0 ≤ DyadicValue.scaled false magnitude exponent := by
        rw [DyadicValue.scaled_magnitude]
        positivity
      have mirrored : DyadicValue.scaled true magnitude exponent =
          -DyadicValue.scaled false magnitude exponent := by
        simp [DyadicValue.scaled, DyadicValue.signed]
      have same : |DyadicValue.scaled negative magnitude exponent| =
          DyadicValue.scaled false magnitude exponent := by
        cases negative with
        | false => exact abs_of_nonneg nonnegative
        | true => rw [mirrored, abs_neg, abs_of_nonneg nonnegative]
      rw [← holds_abs, same, DyadicValue.scaled_magnitude] at held
      simp only
      rw [rational?_ofQuotient within negative positive held, ← DyadicValue.scaled_magnitude]
      cases negative with
      | false => rfl
      | true => rw [mirrored]; rfl

theorem single_within : single.Within double := ⟨by decide, by decide, by decide⟩

theorem half_within : half.Within single := ⟨by decide, by decide, by decide⟩

theorem brain_within : brain.Within single := ⟨by decide, by decide, by decide⟩

theorem Within.trans {format other last : BinaryFormat} (first : format.Within other)
    (second : other.Within last) : format.Within last :=
  ⟨first.precision.trans second.precision, second.leastExponent.trans first.leastExponent,
    first.bound.trans second.bound⟩

theorem double_holds_int {integer : ℤ} (few : integer.natAbs < twoTo 53) :
    double.Holds (integer : ℚ) := by
  have same : |(integer : ℚ)| = (integer.natAbs : Nat) * 2 ^ (0 : Int) := by
    rw [zpow_zero, mul_one, Nat.cast_natAbs, Int.cast_abs]
  refine ⟨integer.natAbs, 0, few, by decide, same, ?_⟩
  rw [same, zpow_zero, mul_one]
  calc ((integer.natAbs : Nat) : ℚ) < (twoTo 53 : Nat) := Nat.cast_lt.mpr few
    _ = 2 ^ (53 : Int) := cast_twoTo 53
    _ ≤ 2 ^ (1024 : Int) := zpow_le_zpow_right₀ one_le_two (by decide)

/-- No value of a format is beyond its greatest one, whose digits are all ones. -/
theorem Holds.abs_le_greatest {format : BinaryFormat} {number : ℚ} (held : format.Holds number) :
    |number| ≤ 2 ^ format.bound - 2 ^ (format.bound - format.precision) := by
  rcases held with ⟨significand, exponent, below, _, same, bounded⟩
  generalize united : format.bound - (format.precision : Int) = unit
  have split : (2 : ℚ) ^ format.bound = (twoTo format.precision : Nat) * 2 ^ unit := by
    rw [cast_twoTo, ← zpow_add₀ two_ne_zero]
    congr 1
    omega
  have unitPositive : (0 : ℚ) < 2 ^ unit := zpow_pos two_pos _
  have largest {digits : Nat} (few : digits < twoTo format.precision) :
      (digits : ℚ) ≤ (twoTo format.precision : Nat) - 1 :=
    le_sub_iff_add_le.mpr (by exact_mod_cast Nat.succ_le_of_lt few)
  rw [split, ← sub_one_mul, same]
  rw [same, split] at bounded
  -- A value whose exponent is greater has fewer digits, and is written with the exponent of the
  -- greatest value instead.
  rcases le_or_gt exponent unit with within | beyond
  · have some := largest (twoTo_pos format.precision)
    rw [Nat.cast_zero] at some
    calc (significand : ℚ) * 2 ^ exponent
        ≤ ((twoTo format.precision : Nat) - 1) * 2 ^ exponent := by
          gcongr
          exact largest below
      _ ≤ ((twoTo format.precision : Nat) - 1) * 2 ^ unit :=
          mul_le_mul_of_nonneg_left (zpow_le_zpow_right₀ one_le_two within) some
  · rw [mul_zpow_eq significand beyond.le] at bounded ⊢
    have few : significand * twoTo (exponent - unit).toNat < twoTo format.precision := by
      exact_mod_cast lt_of_mul_lt_mul_right bounded unitPositive.le
    exact mul_le_mul_of_nonneg_right (largest few) unitPositive.le

end BinaryFormat

theorem double_holds {value : Float} {number : ℚ}
    (finite : (DyadicValue.ofFloat value).rational? = some number) :
    BinaryFormat.double.Holds number := by
  obtain ⟨_, negative, magnitude, exponent, rfl, precise, least, greatest⟩ :=
    fields_of_rational? finite
  have same : |DyadicValue.scaled negative magnitude exponent| = magnitude * 2 ^ exponent := by
    have unit : (0 : ℚ) < 2 ^ exponent := zpow_pos two_pos _
    cases negative with
    | false => simp [DyadicValue.scaled, DyadicValue.signed, abs_of_pos unit]
    | true => simp [DyadicValue.scaled, DyadicValue.signed, abs_of_pos unit]
  refine ⟨magnitude, exponent, precise, least, same, ?_⟩
  rw [same]
  calc (magnitude : ℚ) * 2 ^ exponent < (twoTo 53 : Nat) * 2 ^ exponent := by gcongr
    _ = 2 ^ (53 + exponent) := by rw [cast_twoTo, zpow_add₀ two_ne_zero]; rfl
    _ ≤ 2 ^ (1024 : Int) := zpow_le_zpow_right₀ one_le_two (by omega)

namespace DyadicValue

variable {left right value : DyadicValue} {lower upper number : ℚ}

theorem place?_of_rational? (stands : value.rational? = some number) :
    value.place? = some ((number : WithTop ℚ) : WithBot (WithTop ℚ)) := by
  cases value with
  | finite negative magnitude exponent =>
      cases stands
      rfl
  | infinite negative => contradiction
  | undefined => contradiction

theorem rational?_ofInteger (integer : ℤ) : (ofInteger integer).rational? = some (integer : ℚ) := by
  change some (scaled _ _ 0) = _
  unfold scaled
  rw [signed_natAbs, zpow_zero, mul_one]

theorem isAtMost_rational (stands : left.rational? = some lower)
    (otherStands : right.rational? = some upper) : left.isAtMost right = true ↔ lower ≤ upper := by
  rw [isAtMost_iff, place?_of_rational? stands, place?_of_rational? otherStands]
  simp

theorem isEqual_rational (stands : left.rational? = some lower)
    (otherStands : right.rational? = some upper) : left.isEqual right = true ↔ lower = upper := by
  rw [isEqual_iff, place?_of_rational? stands, place?_of_rational? otherStands]
  simp [eq_comm]

end DyadicValue

def ElementType.Holds (type : ElementType) (number : ℚ) : Prop :=
  match type with
  | .float64 => BinaryFormat.double.Holds number
  | .float32 => BinaryFormat.single.Holds number
  | .float16 => BinaryFormat.half.Holds number
  | .bfloat16 => BinaryFormat.brain.Holds number
  | .int64 | .int32 | .uint8 | .bool =>
      ∃ integer : ℤ, number = integer ∧ MachineNumber.wrap type integer = integer

namespace ElementType

variable {type : ElementType} {number : ℚ}

/-- A double has every number of a type that is not an integer of sixty-four bits. -/
theorem Holds.double (held : type.Holds number) (other : type ≠ .int64) :
    BinaryFormat.double.Holds number := by
  cases type with
  | float64 => exact held
  | float32 => exact BinaryFormat.Holds.within held BinaryFormat.single_within
  | float16 =>
      exact BinaryFormat.Holds.within held
        (BinaryFormat.half_within.trans BinaryFormat.single_within)
  | bfloat16 =>
      exact BinaryFormat.Holds.within held
        (BinaryFormat.brain_within.trans BinaryFormat.single_within)
  | int64 => exact absurd rfl other
  | int32 | uint8 | bool =>
      obtain ⟨integer, rfl, wrapped⟩ := held
      have few := MachineNumber.half_word_of_wrap rfl wrapped other
      have half : ((twoTo 31 : Nat) : Int) = 2147483648 := rfl
      have digits : twoTo 53 = 9007199254740992 := rfl
      exact BinaryFormat.double_holds_int (by omega)

end ElementType

namespace MachineNumber

variable {type : ElementType} {value : Float} {number : ℚ}

theorem isNonzero_real (finite : (DyadicValue.ofFloat value).rational? = some number) :
    isNonzero (real value) = decide (number ≠ 0) := by
  have equal := DyadicValue.isEqual_rational finite (DyadicValue.rational?_ofInteger 0)
  rw [Int.cast_zero] at equal
  change (!(DyadicValue.ofFloat value).isEqual (.ofInteger 0)) = _
  rw [Bool.eq_iff_iff, Bool.not_eq_true', ← Bool.not_eq_true, equal, decide_eq_true_eq]

theorem truncate_whole {integer : ℤ} (notFloating : type.isFloating = false)
    (wrapped : wrap type integer = integer)
    (finite : (DyadicValue.ofFloat value).rational? = some (integer : ℚ)) :
    truncate (truncationWidth type) value = integer := by
  have read : (DyadicValue.ofFloat value).truncated? = some integer := by
    rw [DyadicValue.truncated?_eq, finite, Option.map_some, towardZero_intCast]
  have inRange : -(twoTo (truncationWidth type - 1) : Int) ≤ integer ∧
      integer < - -(twoTo (truncationWidth type - 1) : Int) := by
    rw [Int.neg_neg]
    unfold truncationWidth
    by_cases narrow : type = .int32
    · rw [if_pos narrow]
      exact half_word_of_wrap notFloating wrapped (by rw [narrow]; decide)
    · rw [if_neg narrow]
      exact word_of_wrap notFloating wrapped
  unfold truncate
  simp only [read, if_pos inRange]

/-- Conversion to a type that has the number of a double keeps the number. -/
theorem convert_real (finite : (DyadicValue.ofFloat value).rational? = some number)
    (held : type.Holds number) :
    (convert type (real value)).HasType type ∧
      (convert type (real value)).rational? = some number := by
  have kept {integer : ℤ} (notFloating : type.isFloating = false) (other : type ≠ .bool)
      (wrapped : wrap type integer = integer)
      (finite : (DyadicValue.ofFloat value).rational? = some (integer : ℚ)) :
      convert type (real value) = whole integer := by
    simp only [convert, notFloating, Bool.false_eq_true, if_false, if_neg other,
      truncate_whole notFloating wrapped finite, wrapped]
  cases type with
  | float64 => exact ⟨rfl, finite⟩
  | float32 => exact ⟨rfl, BinaryFormat.rational?_ofFloat BinaryFormat.single_within finite held⟩
  | float16 =>
      have single := BinaryFormat.Holds.within held BinaryFormat.half_within
      exact ⟨rfl, BinaryFormat.rational?_ofFloat
        (BinaryFormat.half_within.trans BinaryFormat.single_within)
        (BinaryFormat.rational?_ofFloat BinaryFormat.single_within finite single) held⟩
  | bfloat16 =>
      have single := BinaryFormat.Holds.within held BinaryFormat.brain_within
      exact ⟨rfl, BinaryFormat.rational?_ofFloat
        (BinaryFormat.brain_within.trans BinaryFormat.single_within)
        (BinaryFormat.rational?_ofFloat BinaryFormat.single_within finite single) held⟩
  | int64 | int32 | uint8 =>
      obtain ⟨integer, rfl, wrapped⟩ := held
      rw [kept rfl (by decide) wrapped finite]
      exact ⟨⟨rfl, wrapped⟩, rfl⟩
  | bool =>
      obtain ⟨integer, rfl, wrapped⟩ := held
      have truth : convert .bool (real value) = whole integer := by
        change whole (if isNonzero (real value) then 1 else 0) = whole integer
        change (if integer = 0 then 0 else 1) = integer at wrapped
        rw [isNonzero_real finite]
        by_cases zero : integer = 0
        · simp [zero]
        · rw [if_neg zero] at wrapped
          simp [← wrapped]
      rw [truth]
      exact ⟨⟨rfl, wrapped⟩, rfl⟩

end MachineNumber

end CausalAttention
