import CausalAttention.Filler
import CausalAttention.Proofs.Mask
import CausalAttention.Proofs.Number.Rounding
import Mathlib.Logic.ExistsUnique

/-!
The windows that look back along a sequence. There is one for every whole block, its slots show
consecutive positions, and the last slots of the windows show every position of the blocks once.
What stands in front of the sequence is the double that is nearest to the given filler.
-/

set_option autoImplicit false

namespace CausalAttention

namespace Blocks

variable {length window block slot position : Nat}

theorem position?_eq_some :
    position? length window block slot = some position ↔
      block * length + slot = window + position := by
  unfold position?
  split
  · simp
    omega
  · simp
    omega

/-- Exactly one window shows a position in a slot of its own block. -/
theorem Cut.exists_unique_window {blocks : Blocks} {sequence : Nat}
    (cut : blocks.Cut sequence window) (below : position < sequence) :
    ∃! block, block < blocks.count ∧ ∃ slot, window ≤ slot ∧ slot < window + blocks.length ∧
      position? blocks.length window block slot = some position := by
  have ofBlocks : position < blocks.count * blocks.length := by
    rw [cut.whole]
    exact below
  rcases head_below ofBlocks with ⟨blockBelow, innerBelow, joined⟩
  refine ⟨position / blocks.length, ⟨blockBelow, window + position % blocks.length,
    by omega, by omega, position?_eq_some.mpr (by omega)⟩, ?_⟩
  rintro block ⟨_, slot, behind, slotBelow, shown⟩
  have place := position?_eq_some.mp shown
  have same : position = block * blocks.length + (slot - window) := by omega
  rw [same]
  exact (head_of_feature block (by omega)).1.symm

end Blocks

namespace Tensor

variable {α : Type} [Inhabited α] {tensor : Tensor α}

/-- Where windows have an entry: the row, the window and the slot come in this order with the
features before the slot, or behind it when the slots come first. Without features the window and
the slot change places. -/
def windowPlace (slotsFirst : Bool) (row block slot : Nat) (features : List Nat) : List Nat :=
  let place := row :: block :: (features ++ [slot])
  if slotsFirst then Shape.swapAt (features.length + 1) place else place

example : windowPlace false 0 1 2 [3] = [0, 1, 3, 2] ∧ windowPlace true 0 1 2 [3] = [0, 1, 2, 3] :=
  ⟨rfl, rfl⟩

/-- As many windows as there are blocks. Slot `j` of window `i` shows the position
`i * length + j - window`, and the filler when there is no such position. -/
structure ShowsWindows (tensor : Tensor α) (batch : Nat) (rest : Shape) (length window count : Nat)
    (filler : α) (slotsFirst : Bool) (spread : Tensor α) : Prop where
  shape : spread.shape = windowPlace slotsFirst batch count (window + length) rest
  get : ∀ row block slot features, row < batch → block < count → slot < window + length →
    Shape.Contains rest features →
    spread.get (windowPlace slotsFirst row block slot features) =
      tensor.getOr filler row (Blocks.position? length window block slot) features

theorem lookBack_shows {batch positions length window : Nat} {rest : Shape}
    (known : rest.length ≤ 1) (sizes : tensor.shape = batch :: positions :: rest)
    (lengthPositive : 0 < length) (enough : length ≤ positions) (filler : α) (slotsFirst : Bool) :
    ∃ spread, tensor.lookBack length window filler slotsFirst = .ok spread ∧
      tensor.ShowsWindows batch rest length window (positions / length) filler slotsFirst
        spread := by
  obtain ⟨spread, looked, spreadShape, spreadGet⟩ :=
    lookBack_whole_reads window filler known lengthPositive enough sizes
  cases slotsFirst with
  | false =>
      refine ⟨spread, looked, spreadShape, ?_⟩
      intro row block slot features rowBelow blockBelow slotBelow inside
      exact spreadGet row block features slot rowBelow blockBelow inside slotBelow
  | true =>
      have spreadRank : spread.rank = rest.length + 3 := by simp [rank, spreadShape]
      have turned : spread.transpose = .ok (spread.swapAxes (rest.length + 1)) := by
        rw [transpose_of_rank (by omega), spreadRank]
        rfl
      refine ⟨spread.swapAxes (rest.length + 1), (lookBack_turned looked).trans turned, ?_, ?_⟩
      · rw [shape_swapAxes, spreadShape]
        rfl
      · intro row block slot features rowBelow blockBelow slotBelow inside
        have within : Shape.Contains spread.shape (row :: block :: (features ++ [slot])) := by
          rw [spreadShape]
          exact ⟨rowBelow, blockBelow, inside.append ⟨slotBelow, trivial⟩⟩
        change (spread.swapAxes (rest.length + 1)).get
          (Shape.swapAt (features.length + 1) (row :: block :: (features ++ [slot]))) = _
        rw [inside.length_eq, get_swapAxes (Shape.contains_swapAt _ within),
          Shape.swapAt_swapAt]
        exact spreadGet row block features slot rowBelow blockBelow inside slotBelow

end Tensor

/-! ### Numbers as fillers -/

/-- A number fills a tensor of a type with an entry: the double nearest to the number is one that
the type can hold, and the entry is this double converted to the type. -/
def Numeral.Fills (filler : Numeral) (type : ElementType) (entry : MachineNumber) : Prop :=
  ∃ nearest, filler.toFloat = .ok nearest ∧ (DyadicValue.ofFloat nearest).canFill type = true ∧
    MachineNumber.convert type (.real nearest) = entry

theorem BinaryFormat.Holds.between {format : BinaryFormat} {number : ℚ}
    (held : format.Holds number) {bound unit : Nat} (bounded : format.bound = bound)
    (least : format.bound - (format.precision : Int) = unit) :
    ((-((twoTo bound - twoTo unit : Nat) : Int) : Int) : ℚ) ≤ number ∧
      number ≤ (((twoTo bound - twoTo unit : Nat) : Int) : ℚ) := by
  have atMost := held.abs_le_greatest
  have fewer : twoTo unit ≤ twoTo bound := Nat.pow_le_pow_right (Nat.succ_pos 1) (by omega)
  rw [least, bounded, ← cast_twoTo, ← cast_twoTo, ← Nat.cast_sub fewer] at atMost
  rcases abs_le.mp atMost with ⟨lower, upper⟩
  rw [Int.cast_neg, Int.cast_natCast]
  exact ⟨lower, upper⟩

theorem ElementType.Holds.between {type : ElementType} {number : ℚ} (held : type.Holds number) :
    (type.finiteRange.1 : ℚ) ≤ number ∧ number ≤ (type.finiteRange.2 : ℚ) := by
  have within {integer lower upper : ℤ} (range : lower ≤ integer ∧ integer ≤ upper) :
      (lower : ℚ) ≤ integer ∧ (integer : ℚ) ≤ upper :=
    ⟨Int.cast_le.mpr range.1, Int.cast_le.mpr range.2⟩
  cases type with
  | float64 => exact BinaryFormat.Holds.between held rfl rfl
  | float32 => exact BinaryFormat.Holds.between held rfl rfl
  | float16 => exact BinaryFormat.Holds.between held rfl rfl
  | bfloat16 => exact BinaryFormat.Holds.between held rfl rfl
  | int64 =>
      obtain ⟨integer, rfl, wrapped⟩ := held
      have range := MachineNumber.word_of_wrap rfl wrapped
      exact within ⟨range.1, range.2.le⟩
  | int32 =>
      obtain ⟨integer, rfl, wrapped⟩ := held
      have range := MachineNumber.half_word_of_wrap rfl wrapped (by decide)
      exact within ⟨range.1, Int.le_of_lt_add_one range.2⟩
  | uint8 =>
      obtain ⟨integer, rfl, wrapped⟩ := held
      have bytes : ((twoTo 8 : Nat) : Int) = 256 := rfl
      change integer % (twoTo 8 : Int) = integer at wrapped
      rw [bytes] at wrapped
      have range : (0 : ℤ) ≤ integer ∧ integer ≤ 255 := by omega
      exact within range
  | bool =>
      obtain ⟨integer, rfl, wrapped⟩ := held
      change (if integer = 0 then 0 else 1) = integer at wrapped
      have range : (0 : ℤ) ≤ integer ∧ integer ≤ 1 := by split at wrapped <;> omega
      exact within range

theorem DyadicValue.canFill_of_holds {type : ElementType} {value : DyadicValue} {number : ℚ}
    (finite : value.rational? = some number) (held : type.Holds number) :
    value.canFill type = true := by
  have range := held.between
  cases value with
  | infinite negative => contradiction
  | undefined => contradiction
  | finite negative magnitude exponent =>
      unfold canFill
      split
      · rfl
      · simp only [Bool.and_eq_true, isAtMost_rational (rational?_ofInteger _) finite,
          isAtMost_rational finite (rational?_ofInteger _)]
        exact range

namespace Numeral

variable {filler : Numeral} {type : ElementType} {number : ℚ}

theorem exists_nearest (stands : filler.value.rational? = some number)
    (double : BinaryFormat.double.Holds number) :
    ∃ nearest, filler.toFloat = .ok nearest ∧
      (DyadicValue.ofFloat nearest).rational? = some number := by
  cases filler with
  | fractional value => exact ⟨value, rfl, stands⟩
  | whole integer =>
      have same : (integer : ℚ) = number :=
        Option.some.inj ((DyadicValue.rational?_ofInteger integer).symm.trans stands)
      subst same
      have nearest := BinaryFormat.rational?_ofInteger ⟨le_rfl, le_rfl, le_rfl⟩ double
      refine ⟨BinaryFormat.double.ofInteger integer, ?_, nearest⟩
      simp only [toFloat, if_pos (isFinite_of_rational? nearest)]

/-- A number that doubles and a type both have fills the tensors of the type with itself. -/
theorem exists_fills (stands : filler.value.rational? = some number)
    (double : BinaryFormat.double.Holds number) (held : type.Holds number) :
    ∃ entry, filler.Fills type entry ∧ entry.HasType type ∧ entry.rational? = some number := by
  obtain ⟨nearest, read, finite⟩ := exists_nearest stands double
  have ⟨typed, same⟩ := MachineNumber.convert_real finite held
  exact ⟨_, ⟨nearest, read, DyadicValue.canFill_of_holds finite held, rfl⟩, typed, same⟩

/-- Unless it is an integer of sixty-four bits, every number of a type fills the tensors of the type
with itself. -/
theorem exists_fills_of_ne_int64 (stands : filler.value.rational? = some number)
    (held : type.Holds number) (other : type ≠ .int64) :
    ∃ entry, filler.Fills type entry ∧ entry.HasType type ∧ entry.rational? = some number :=
  exists_fills stands (held.double other) held

/-- A finite double fills the tensors of every type that has it with itself. -/
theorem exists_fills_fractional {value : Float}
    (finite : (DyadicValue.ofFloat value).rational? = some number) (held : type.Holds number) :
    ∃ entry, (fractional value).Fills type entry ∧ entry.HasType type ∧
      entry.rational? = some number :=
  exists_fills finite (double_holds finite) held

/-- An integer of a whole type fills tensors of the type with itself when it is a double. -/
theorem fills_whole {integer : ℤ} (notFloating : type.isFloating = false)
    (wrapped : MachineNumber.wrap type integer = integer)
    (double : BinaryFormat.double.Holds integer) : (whole integer).Fills type (.whole integer) := by
  have held : type.Holds integer := by
    cases type with
    | int64 | int32 | uint8 | bool => exact ⟨integer, rfl, wrapped⟩
    | float32 | float64 | float16 | bfloat16 => contradiction
  have stands : (whole integer).value.rational? = some (integer : ℚ) :=
    DyadicValue.rational?_ofInteger integer
  obtain ⟨entry, fills, typed, same⟩ := exists_fills stands double held
  cases entry with
  | real value =>
      rw [show type.isFloating = true from typed] at notFloating
      contradiction
  | whole value =>
      have equal : value = integer := Int.cast_injective (Option.some.inj same)
      rwa [equal] at fills

end Numeral

namespace Memory

theorem requireCounts_window (length window : Nat) :
    requireCounts [(window : Int) + (length : Int), (length : Int)] =
      if window + length < twoTo 63 then .ok () else .error .countOutOfRange := by
  have words : [(window : Int) + (length : Int), (length : Int)].all isWord =
      decide (window + length < twoTo 63) := by
    rw [Bool.eq_iff_iff]
    simp only [List.all_cons, List.all_nil, Bool.and_true, isWord, Bool.and_eq_true,
      decide_eq_true_eq]
    omega
  unfold requireCounts require
  rw [words]
  simp only [decide_eq_true_eq]

/-- The steps along the axes of a tensor that has room are words, and so is the size of its second
axis. -/
theorem lt_of_requireRoom {type : ElementType} {outer size : Nat} {rest : Shape}
    (room : requireRoom type (outer :: size :: rest) = .ok ()) : size < twoTo 63 := by
  have limits := require_eq_ok.mp room
  simp only [List.drop_succ_cons, List.drop_zero, List.map_cons, Shape.volume, Bool.and_eq_true,
    decide_eq_true_eq] at limits
  have inner : 0 < Shape.volume (rest.map (max 1)) := by
    clear room limits
    induction rest with
    | nil => exact Nat.one_pos
    | cons extent rest ih => exact Nat.mul_pos (by omega) ih
  calc size ≤ max 1 size := Nat.le_max_right 1 size
    _ ≤ max 1 size * Shape.volume (rest.map (max 1)) := Nat.le_mul_of_pos_right _ inner
    _ < twoTo 63 := limits.1.2

end Memory

namespace TypedTensor

variable {typed : TypedTensor MachineNumber} {batch positions window : Nat} {rest : Shape}
  {filler : Numeral} {entry : MachineNumber}

def RoomInFront (typed : TypedTensor MachineNumber) (window : Nat) : Prop :=
  Memory.requireSizes [(window : Int)] = .ok () ∧
    Memory.requireRoom typed.elementType
      (typed.shape.set 1 (typed.tensor.extent 1 + window)) = .ok ()

theorem lookBack_eq (known : rest.length ≤ 1) (sizes : typed.shape = batch :: positions :: rest)
    (fills : filler.Fills typed.elementType entry) (room : typed.RoomInFront window) (length : Nat)
    (slotsFirst : Bool) :
    typed.lookBack length window filler slotsFirst =
      if window + length < twoTo 63 then
        (typed.tensor.lookBack length window entry slotsFirst).map (⟨typed.elementType, ·⟩)
      else .error .countOutOfRange := by
  rcases fills with ⟨nearest, read, holds, rfl⟩
  have ranked : typed.tensor.requireRank 2 3 = .ok () := by
    have rankEq : typed.tensor.rank = rest.length + 2 := congrArg List.length sizes
    apply Tensor.requireRank_of_rank
    omega
  have extentEq : ((typed.tensor.extent 1 : Int) + (window : Int)).toNat =
      typed.tensor.extent 1 + window := by
    omega
  have filled : require (decide ((window : Int) ≤ 0) ||
      (DyadicValue.ofFloat nearest).canFill typed.elementType) .valueOutOfRange = .ok () :=
    require_eq_ok.mpr (by rw [holds, Bool.or_true])
  rcases Tensor.lead_reads window (MachineNumber.convert typed.elementType (.real nearest)) known
    sizes with ⟨padded, leads, _, _⟩
  unfold lookBack Tensor.lookBack
  rw [ranked, room.1, read, extentEq, room.2, Memory.requireCounts_window]
  split
  · simp only [bind, Except.bind, pure, Except.pure, leads, filled]
    cases padded.blockWindows length window slotsFirst with
    | error failure => rfl
    | ok spread => rfl
  · simp only [bind, Except.bind, leads, filled]

/-- Looking back fails exactly for a sequence that is shorter than a block, and otherwise gives one
window for every whole block. The blocks that a sequence is cut into have as many windows, and every
position is in its own block's part of one window. -/
theorem lookBack_shows_windows (known : rest.length ≤ 1)
    (sizes : typed.shape = batch :: positions :: rest)
    (fills : filler.Fills typed.elementType entry) (room : typed.RoomInFront window)
    (slotsFirst : Bool) :
    (∀ length, 0 < length →
      (positions < length → typed.lookBack length window filler slotsFirst =
        .error (if window + length < twoTo 63 then .windowDoesNotFit else .countOutOfRange)) ∧
      (length ≤ positions →
        ∃ spread, typed.lookBack length window filler slotsFirst = .ok spread ∧
          spread.elementType = typed.elementType ∧
          typed.tensor.ShowsWindows batch rest length window (positions / length) entry slotsFirst
            spread.tensor)) ∧
    (0 < positions → 0 < window →
      ∃ blocks : Blocks, Blocks.ofSequence positions window = .ok blocks ∧
        (∃ spread, typed.lookBack blocks.length window filler slotsFirst = .ok spread ∧
          typed.tensor.ShowsWindows batch rest blocks.length window blocks.count entry slotsFirst
            spread.tensor) ∧
        ∀ position, position < positions →
          ∃! block, block < blocks.count ∧
            ∃ slot, window ≤ slot ∧ slot < window + blocks.length ∧
              Blocks.position? blocks.length window block slot = some position) := by
  have roomy : positions + window < twoTo 63 := by
    have padded := room.2
    have extentEq : typed.tensor.extent 1 = positions := by
      change typed.shape.getD 1 0 = positions
      rw [sizes]
      rfl
    rw [extentEq, sizes] at padded
    exact Memory.lt_of_requireRoom padded
  have shows (length : Nat) (lengthPositive : 0 < length) (enough : length ≤ positions) :
      ∃ spread, typed.lookBack length window filler slotsFirst = .ok spread ∧
        spread.elementType = typed.elementType ∧
        typed.tensor.ShowsWindows batch rest length window (positions / length) entry slotsFirst
          spread.tensor := by
    rcases Tensor.lookBack_shows known sizes lengthPositive enough entry slotsFirst with
      ⟨spread, looked, showing⟩
    refine ⟨⟨typed.elementType, spread⟩, ?_, rfl, showing⟩
    rw [lookBack_eq known sizes fills room, if_pos (by omega), looked]
    rfl
  refine ⟨fun length lengthPositive => ⟨fun short => ?_, shows length lengthPositive⟩, ?_⟩
  · rw [lookBack_eq known sizes fills room,
      Tensor.lookBack_of_short window entry slotsFirst known short sizes]
    split <;> rfl
  · intro nonempty wide
    rcases Blocks.exists_cut nonempty wide with ⟨blocks, cut⟩
    have whole := cut.whole
    have counted : positions / blocks.length = blocks.count := by
      rw [← whole, Nat.mul_div_cancel _ cut.lengthPositive]
    have enough : blocks.length ≤ positions := by
      rw [← whole]
      exact Nat.le_mul_of_pos_left _ cut.countPositive
    rcases shows blocks.length cut.lengthPositive enough with ⟨spread, looked, _, showing⟩
    rw [counted] at showing
    exact ⟨blocks, cut.found, ⟨spread, looked, showing⟩, fun _ below =>
      cut.exists_unique_window below⟩

/-- Blocks of two in a sequence of five, whose last position is in no block. -/
theorem lookBack_shows_windows_five_positions :
    let typed : TypedTensor MachineNumber := ⟨.int64, Tensor.replicate [1, 5] (.whole 1)⟩
    ([] : Shape).length ≤ 1 ∧ typed.shape = [1, 5] ∧
      (Numeral.whole (-1)).Fills typed.elementType (.whole (-1)) ∧ typed.RoomInFront 3 ∧
      ∃ spread, typed.lookBack (2 : Nat) (3 : Nat) (.whole (-1)) false = .ok spread ∧
        spread.shape = [1, 2, 5] ∧ spread.tensor.get [0, 1, 0] = .whole (-1) ∧
        spread.tensor.get [0, 1, 4] = .whole 1 := by
  intro typed
  have sizes : typed.shape = [1, 5] := rfl
  have fills : (Numeral.whole (-1)).Fills typed.elementType (.whole (-1)) :=
    Numeral.fills_whole rfl rfl (BinaryFormat.double_holds_int (by decide))
  have room : typed.RoomInFront 3 := ⟨rfl, rfl⟩
  obtain ⟨spread, looked, _, showing⟩ :=
    ((lookBack_shows_windows (by decide) sizes fills room false).1 2
      (by decide)).2 (by decide)
  refine ⟨by decide, sizes, fills, room, spread, looked, showing.shape, ?_, ?_⟩
  · exact showing.get 0 1 0 [] (by decide) (by decide) (by decide) trivial
  · have inside : Shape.Contains [1, 5] [0, 3] := by decide
    exact (showing.get 0 1 4 [] (by decide) (by decide) (by decide) trivial).trans
      (Tensor.get_replicate inside _)

theorem lookBack_congr {other : Numeral} (same : filler.toFloat = other.toFloat)
    (length window : Int) (slotsFirst : Bool) :
    typed.lookBack length window filler slotsFirst =
      typed.lookBack length window other slotsFirst := by
  unfold lookBack
  rw [same]

/-- Two neighbouring integers have one nearest double, so a tensor of integers shows one of them
in place of the other. -/
theorem neighbours_fill_alike :
    let typed : TypedTensor MachineNumber := ⟨.int64, Tensor.replicate [1, 1] (.whole 0)⟩
    ¬∀ filler : Int, Memory.isWord filler = true →
      ∃ spread, typed.lookBack 1 1 (.whole filler) false = .ok spread ∧
        spread.tensor.get [0, 0, 0] = .whole filler := by
  intro typed shown
  have rounded : BinaryFormat.double.round? 9007199254740992 1 =
      BinaryFormat.double.round? 9007199254740993 1 := by
    decide +kernel
  have nearest : BinaryFormat.double.ofInteger 9007199254740992 =
      BinaryFormat.double.ofInteger 9007199254740993 := by
    change BinaryFormat.double.ofQuotient false 9007199254740992 1 =
      BinaryFormat.double.ofQuotient false 9007199254740993 1
    unfold BinaryFormat.ofQuotient
    rw [rounded]
  have same : (Numeral.whole 9007199254740992).toFloat =
      (Numeral.whole 9007199254740993).toFloat := by
    simp only [Numeral.toFloat, nearest]
  rcases shown 9007199254740992 (by decide +kernel) with ⟨first, firstMade, firstEntry⟩
  rcases shown 9007199254740993 (by decide +kernel) with ⟨second, secondMade, secondEntry⟩
  rw [lookBack_congr same, secondMade] at firstMade
  cases firstMade
  rw [secondEntry] at firstEntry
  cases firstEntry

end TypedTensor

end CausalAttention
