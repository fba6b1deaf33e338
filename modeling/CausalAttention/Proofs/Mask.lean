import CausalAttention.Mask
import CausalAttention.Proofs.Tensor.Slice

/-!
What the masks let a query see. A slot of the local mask is visible when it shows a position that
is not in the future of the query, is kept, and lies fewer than a window behind it; the additive
mask drops the positions that a padding mask does not mark.
-/

set_option autoImplicit false

namespace CausalAttention

namespace Blocks

/-- Blocks that a sequence is cut into without rest, none longer than the window. -/
structure Cut (blocks : Blocks) (sequence window : Nat) : Prop where
  found : ofSequence sequence window = .ok blocks
  whole : blocks.count * blocks.length = sequence
  lengthPositive : 0 < blocks.length
  countPositive : 0 < blocks.count
  lengthLe : blocks.length ≤ window

theorem exists_cut {sequence window : Nat} (nonempty : 0 < sequence) (wide : 0 < window) :
    ∃ blocks : Blocks, blocks.Cut sequence window := by
  have candidate : (min (window : Int) (sequence : Int)).toNat = min window sequence := by omega
  have candidatePositive : 0 < min window sequence := by omega
  have divides : greatestDivisor sequence (min window sequence) ∣ sequence :=
    greatestDivisor_dvd candidatePositive
  have bounded := greatestDivisor_le sequence (min window sequence)
  have oneBelow : 1 ≤ greatestDivisor sequence (min window sequence) :=
    greatestDivisor_greatest candidatePositive (Nat.one_dvd sequence)
  refine ⟨⟨greatestDivisor sequence (min window sequence),
    sequence / greatestDivisor sequence (min window sequence)⟩, ?_, ?_, oneBelow, ?_, ?_⟩
  · unfold ofSequence
    rw [if_neg (by omega), if_neg (by omega), if_neg (by omega)]
    simp only [Int.toNat_natCast, candidate]
  · exact Nat.div_mul_cancel divides
  · exact Nat.div_pos (Nat.le_of_dvd nonempty divides) oneBelow
  · exact Nat.le_trans bounded (Nat.min_le_left _ _)

theorem sizes_of_ofSequence {sequence window : Int} {blocks : Blocks}
    (found : ofSequence sequence window = .ok blocks) : 0 ≤ sequence ∧ 1 ≤ window := by
  unfold ofSequence at found
  split at found
  · contradiction
  · split at found
    · contradiction
    · omega

theorem cut_of_ofSequence {sequence : Nat} {window : Int} {blocks : Blocks}
    (found : ofSequence sequence window = .ok blocks) (nonempty : sequence ≠ 0) :
    ∃ size : Nat, window = size ∧ blocks.Cut sequence size := by
  have wide := (sizes_of_ofSequence found).2
  obtain ⟨size, rfl⟩ := Int.eq_ofNat_of_zero_le (show 0 ≤ window by omega)
  rcases exists_cut (show 0 < sequence by omega) (show 0 < size by omega) with ⟨same, cut⟩
  cases found.symm.trans cut.found
  exact ⟨size, rfl, cut⟩

theorem Cut.blockEnd {blocks : Blocks} {sequence window block : Nat}
    (cut : blocks.Cut sequence window) (below : block < blocks.count) :
    block * blocks.length + blocks.length ≤ sequence := by
  rw [← Nat.succ_mul, ← cut.whole]
  exact Nat.mul_le_mul_right blocks.length below

theorem Cut.nonempty {blocks : Blocks} {sequence window : Nat}
    (cut : blocks.Cut sequence window) : 0 < sequence := by
  rw [← cut.whole]
  exact Nat.mul_pos cut.countPositive cut.lengthPositive

theorem position?_lt {length window block slot position : Nat} (slotBelow : slot < window + length)
    (shown : position? length window block slot = some position) :
    position < block * length + length := by
  unfold position? at shown
  split at shown
  · contradiction
  · cases shown
    omega

theorem Cut.position_lt {blocks : Blocks} {sequence window block slot position : Nat}
    (cut : blocks.Cut sequence window) (blockBelow : block < blocks.count)
    (slotBelow : slot < window + blocks.length)
    (shown : position? blocks.length window block slot = some position) : position < sequence :=
  Nat.lt_of_lt_of_le (position?_lt slotBelow shown) (cut.blockEnd blockBelow)

def sees (blocks : Blocks) (window : Nat) (kept : Nat → Bool) (block inner slot : Nat) : Bool :=
  match position? blocks.length window block slot with
  | none => false
  | some key =>
      decide (key ≤ block * blocks.length + inner) && kept key &&
        decide (block * blocks.length + inner < key + window)

end Blocks

namespace Shape

theorem joinSize?_one_left (size : Nat) : joinSize? 1 size = some size := by
  by_cases single : size = 1
  · simp [joinSize?, single]
  · simp [joinSize?, Ne.symm single]

theorem joinSize?_one_right (size : Nat) : joinSize? size 1 = some size := by
  by_cases single : size = 1
  · simp [joinSize?, single]
  · simp [joinSize?, single]

theorem joinSize?_self (size : Nat) : joinSize? size size = some size := by
  simp [joinSize?]

theorem join?_column_row (batch blocks queries keys : Nat) :
    join? [batch, blocks, queries, 1] [batch, blocks, 1, keys] =
      some [batch, blocks, queries, keys] ∧
    join? [batch, blocks, 1, keys] [batch, blocks, queries, 1] =
      some [batch, blocks, queries, keys] := by
  simp [join?, joinReversed?, joinSize?_one_left, joinSize?_one_right, joinSize?_self]

end Shape

namespace Tensor

variable {β : Type} [Inhabited β] {tensor : Tensor β} {batch blocks row block inner slot : Nat}

theorem getJoined_column {length : Nat} (sizes : tensor.shape = [batch, blocks, length])
    (rowBelow : row < batch) (blockBelow : block < blocks) (innerBelow : inner < length) :
    (tensor.insertAxis 3).getJoined [row, block, inner, slot] = tensor.get [row, block, inner] := by
  have columnShape : (tensor.insertAxis 3).shape = [batch, blocks, length, 1] := by
    rw [shape_insertAxis, sizes]
    rfl
  have projected : Shape.project [batch, blocks, length, 1] [row, block, inner, slot] =
      [row, block, inner, 0] := by
    simp [Shape.project, Shape.project_coordinate, rowBelow, blockBelow, innerBelow]
  unfold getJoined
  rw [columnShape, projected]
  refine get_insertAxis ?_
  rw [columnShape]
  exact ⟨rowBelow, blockBelow, innerBelow, Nat.one_pos, trivial⟩

theorem getJoined_row {slots : Nat} (sizes : tensor.shape = [batch, blocks, slots])
    (rowBelow : row < batch) (blockBelow : block < blocks) (slotBelow : slot < slots) :
    (tensor.insertAxis 2).getJoined [row, block, inner, slot] = tensor.get [row, block, slot] := by
  have rowShape : (tensor.insertAxis 2).shape = [batch, blocks, 1, slots] := by
    rw [shape_insertAxis, sizes]
    rfl
  have projected : Shape.project [batch, blocks, 1, slots] [row, block, inner, slot] =
      [row, block, 0, slot] := by
    simp [Shape.project, Shape.project_coordinate, rowBelow, blockBelow, slotBelow]
  unfold getJoined
  rw [rowShape, projected]
  refine get_insertAxis ?_
  rw [rowShape]
  exact ⟨rowBelow, blockBelow, Nat.one_pos, slotBelow, trivial⟩

section Comparisons

variable {γ δ : Type} [Inhabited γ] [Inhabited δ] {length slots : Nat} {left : Tensor β}
  {right : Tensor γ}

theorem combine_column_row_reads (operation : β → γ → δ)
    (leftSizes : left.shape = [batch, blocks, length])
    (rightSizes : right.shape = [batch, blocks, slots]) :
    ∃ result, (left.insertAxis 3).combine operation (right.insertAxis 2) = .ok result ∧
      result.shape = [batch, blocks, length, slots] ∧
      ∀ row block inner slot, row < batch → block < blocks → inner < length → slot < slots →
        result.get [row, block, inner, slot] =
          operation (left.get [row, block, inner]) (right.get [row, block, slot]) := by
  have joined : Shape.join? (left.insertAxis 3).shape (right.insertAxis 2).shape =
      some [batch, blocks, length, slots] := by
    rw [shape_insertAxis, shape_insertAxis, leftSizes, rightSizes]
    exact (Shape.join?_column_row batch blocks length slots).1
  obtain ⟨result, made, resultShape, resultGet⟩ := combine_joined_reads operation joined
  refine ⟨result, made, resultShape, ?_⟩
  intro row block inner slot rowBelow blockBelow innerBelow slotBelow
  have inside : Shape.Contains [batch, blocks, length, slots] [row, block, inner, slot] :=
    ⟨rowBelow, blockBelow, innerBelow, slotBelow, trivial⟩
  rw [resultGet _ inside, getJoined_column leftSizes rowBelow blockBelow innerBelow,
    getJoined_row rightSizes rowBelow blockBelow slotBelow]

theorem combine_row_column_reads (operation : γ → β → δ)
    (leftSizes : left.shape = [batch, blocks, length])
    (rightSizes : right.shape = [batch, blocks, slots]) :
    ∃ result, (right.insertAxis 2).combine operation (left.insertAxis 3) = .ok result ∧
      result.shape = [batch, blocks, length, slots] ∧
      ∀ row block inner slot, row < batch → block < blocks → inner < length → slot < slots →
        result.get [row, block, inner, slot] =
          operation (right.get [row, block, slot]) (left.get [row, block, inner]) := by
  have joined : Shape.join? (right.insertAxis 2).shape (left.insertAxis 3).shape =
      some [batch, blocks, length, slots] := by
    rw [shape_insertAxis, shape_insertAxis, leftSizes, rightSizes]
    exact (Shape.join?_column_row batch blocks length slots).2
  obtain ⟨result, made, resultShape, resultGet⟩ := combine_joined_reads operation joined
  refine ⟨result, made, resultShape, ?_⟩
  intro row block inner slot rowBelow blockBelow innerBelow slotBelow
  have inside : Shape.Contains [batch, blocks, length, slots] [row, block, inner, slot] :=
    ⟨rowBelow, blockBelow, innerBelow, slotBelow, trivial⟩
  rw [resultGet _ inside, getJoined_row rightSizes rowBelow blockBelow slotBelow,
    getJoined_column leftSizes rowBelow blockBelow innerBelow]

theorem combine_pairs_row_reads (operation : β → γ → δ)
    (leftSizes : left.shape = [batch, blocks, length, slots])
    (rightSizes : right.shape = [batch, blocks, slots]) :
    ∃ result, left.combine operation (right.insertAxis 2) = .ok result ∧
      result.shape = [batch, blocks, length, slots] ∧
      ∀ row block inner slot, row < batch → block < blocks → inner < length → slot < slots →
        result.get [row, block, inner, slot] =
          operation (left.get [row, block, inner, slot]) (right.get [row, block, slot]) := by
  have repeats : Shape.Repeats (right.insertAxis 2).shape left.shape := by
    rw [shape_insertAxis, leftSizes, rightSizes]
    exact ⟨[], _, rfl, Or.inl rfl, Or.inl rfl, Or.inr rfl, Or.inl rfl, trivial⟩
  obtain ⟨result, made, resultShape, resultGet⟩ := combine_reads operation repeats
  refine ⟨result, made, resultShape.trans leftSizes, ?_⟩
  intro row block inner slot rowBelow blockBelow innerBelow slotBelow
  have inside : Shape.Contains left.shape [row, block, inner, slot] := by
    rw [leftSizes]
    exact ⟨rowBelow, blockBelow, innerBelow, slotBelow, trivial⟩
  rw [resultGet _ inside, getJoined_row rightSizes rowBelow blockBelow slotBelow]

theorem combine_self_reads (operation : β → γ → δ) (same : right.shape = left.shape) :
    ∃ result, left.combine operation right = .ok result ∧ result.shape = left.shape ∧
      ∀ index, Shape.Contains left.shape index →
        result.get index = operation (left.get index) (right.get index) := by
  have repeats : Shape.Repeats right.shape left.shape := by
    rw [same]
    exact Shape.repeats_self _
  obtain ⟨result, made, resultShape, resultGet⟩ := combine_reads operation repeats
  refine ⟨result, made, resultShape, ?_⟩
  intro index inside
  have otherInside : Shape.Contains right.shape index := by
    rw [same]
    exact inside
  rw [resultGet index inside, getJoined_self otherInside]

end Comparisons

end Tensor

variable {α : Type} [Arithmetic α]

/-! ### The local mask -/

/-- Whether a padding mask keeps a position of a sequence. -/
def keptAt (padding : Option (TypedTensor α)) (row position : Nat) : Bool :=
  match padding with
  | none => true
  | some mask =>
      Arithmetic.isNonzero
        (Arithmetic.cast mask.elementType .int64 (mask.tensor.get [row, position]))

theorem keptPositions_reads {batch sequence : Nat} {padding : Option (TypedTensor α)}
    (sizes : ∀ mask ∈ padding, mask.shape = [batch, sequence]) :
    ∃ kept, keptPositions batch sequence padding = .ok kept ∧ kept.shape = [batch, sequence] ∧
      ∀ row position, row < batch → position < sequence →
        kept.get [row, position] = keptAt padding row position := by
  cases padding with
  | none =>
      refine ⟨Tensor.replicate [batch, sequence] true, rfl, rfl, ?_⟩
      intro row position rowBelow positionBelow
      have inside : Shape.Contains [batch, sequence] [row, position] :=
        ⟨rowBelow, positionBelow, trivial⟩
      exact Tensor.get_replicate inside true
  | some mask =>
      have maskShape := sizes mask rfl
      refine ⟨(mask.convert .int64).truth, ?_, ?_, ?_⟩
      · simp only [keptPositions, maskShape, ne_eq, not_true_eq_false, if_false]
      · exact (TypedTensor.shape_convert _ mask).trans maskShape
      · intro row position rowBelow positionBelow
        have inside : Shape.Contains mask.shape [row, position] := by
          rw [maskShape]
          exact ⟨rowBelow, positionBelow, trivial⟩
        have convertedInside : Shape.Contains (mask.convert .int64).shape [row, position] := by
          rw [TypedTensor.shape_convert]
          exact inside
        unfold TypedTensor.truth keptAt
        rw [Tensor.get_map _ _ convertedInside, TypedTensor.get_convert _ _ inside]

theorem get_positions {batch sequence row position : Nat} (rowBelow : row < batch)
    (below : position < sequence) :
    (positions batch sequence).get [row, position] = (position : Int) := by
  have inside : Shape.Contains [batch, sequence] [row, position] := ⟨rowBelow, below, trivial⟩
  exact Tensor.get_ofFn inside _

section Slots

variable {batch sequence window : Nat} {blocks : Blocks} (cut : blocks.Cut sequence window)

include cut

theorem queryPositions_reads (batch : Nat) :
    ∃ queries, (positions batch sequence).splitSequence blocks.count blocks.length none =
        .ok queries ∧ queries.shape = [batch, blocks.count, blocks.length] ∧
      ∀ row block inner, row < batch → block < blocks.count → inner < blocks.length →
        queries.get [row, block, inner] = ((block * blocks.length + inner : Nat) : Int) := by
  have sizes : (positions batch sequence).shape = [batch, blocks.count * blocks.length] := by
    rw [cut.whole]
    rfl
  rcases Tensor.splitSequence_reads sizes with ⟨queries, made, queriesShape, queriesGet⟩
  refine ⟨queries, made, queriesShape, ?_⟩
  intro row block inner rowBelow blockBelow innerBelow
  have blockEnd := cut.blockEnd blockBelow
  rw [queriesGet row block inner rowBelow blockBelow innerBelow,
    get_positions rowBelow (by omega)]

theorem slots_reads {β : Type} [Inhabited β] {tensor : Tensor β} {value : Nat → Nat → β}
    (filler : β) (sizes : tensor.shape = [batch, sequence])
    (entries : ∀ row position, row < batch → position < sequence →
      tensor.get [row, position] = value row position) :
    ∃ slots, tensor.lookBack blocks.length window filler false = .ok slots ∧
      slots.shape = [batch, blocks.count, window + blocks.length] ∧
      ∀ row block slot, row < batch → block < blocks.count → slot < window + blocks.length →
        slots.get [row, block, slot] =
          (Blocks.position? blocks.length window block slot).elim filler (value row) := by
  rw [← cut.whole] at sizes
  obtain ⟨slots, made, slotsShape, slotsGet⟩ :=
    Tensor.lookBack_reads window filler (by simp) cut.countPositive cut.lengthPositive sizes
  refine ⟨slots, made, slotsShape, ?_⟩
  intro row block slot rowBelow blockBelow slotBelow
  refine (slotsGet row block [] slot rowBelow blockBelow trivial slotBelow).trans ?_
  cases shown : Blocks.position? blocks.length window block slot with
  | none => rfl
  | some position =>
      exact entries row position rowBelow (cut.position_lt blockBelow slotBelow shown)

end Slots

/-- A query sees a slot by comparisons of positions; a slot in front of the sequence has position
zero and is not kept. -/
theorem Blocks.sees_eq (blocks : Blocks) (window : Nat) (kept : Nat → Bool)
    (block inner slot : Nat) :
    blocks.sees window kept block inner slot =
      ((decide ((position? blocks.length window block slot).elim 0 (fun key => (key : Int)) ≤
            ((block * blocks.length + inner : Nat) : Int)) &&
          (position? blocks.length window block slot).elim false kept) &&
        decide (-(window : Int) < (position? blocks.length window block slot).elim 0
          (fun key => (key : Int)) - ((block * blocks.length + inner : Nat) : Int))) := by
  unfold sees
  cases position? blocks.length window block slot with
  | none => simp
  | some key =>
      change (decide (key ≤ block * blocks.length + inner) && kept key && _) =
        (decide ((key : Int) ≤ ((block * blocks.length + inner : Nat) : Int)) && kept key &&
          decide (-(window : Int) < (key : Int) - ((block * blocks.length + inner : Nat) : Int)))
      congr 1
      · congr 1
        rw [decide_eq_decide]
        omega
      · rw [decide_eq_decide]
        omega

theorem blockMask_reads {batch sequence window : Nat} {blocks : Blocks}
    (cut : blocks.Cut sequence window) {padding : Option (TypedTensor α)}
    (sizes : ∀ mask ∈ padding, mask.shape = [batch, sequence]) :
    ∃ mask, blockMask batch sequence blocks window padding = .ok mask ∧
      mask.shape = [batch, blocks.count, 1, blocks.length, window + blocks.length] ∧
      ∀ row block inner slot, row < batch → block < blocks.count → inner < blocks.length →
        slot < window + blocks.length →
        mask.get [row, block, 0, inner, slot] =
          blocks.sees window (keptAt padding row) block inner slot := by
  obtain ⟨queries, queriesCut, queriesShape, queriesGet⟩ := queryPositions_reads cut batch
  obtain ⟨keys, keysCut, keysShape, keysGet⟩ :=
    slots_reads cut 0 (rfl : (positions batch sequence).shape = _)
      fun row key rowBelow keyBelow => get_positions rowBelow keyBelow
  rcases keptPositions_reads sizes with ⟨kept, keptMade, keptShape, keptGet⟩
  obtain ⟨keptSlots, keptCut, keptSlotsShape, keptSlotsGet⟩ :=
    slots_reads cut false keptShape keptGet
  obtain ⟨causal, causalMade, causalShape, causalGet⟩ := Tensor.combine_column_row_reads
    (fun (query key : Int) => decide (key ≤ query)) queriesShape keysShape
  obtain ⟨near, nearMade, nearShape, nearGet⟩ := Tensor.combine_row_column_reads
    (fun (key query : Int) => decide (-(window : Int) < key - query)) queriesShape keysShape
  obtain ⟨allowed, allowedMade, allowedShape, allowedGet⟩ := Tensor.combine_pairs_row_reads
    (fun first second => first && second) causalShape keptSlotsShape
  obtain ⟨visible, visibleMade, visibleShape, visibleGet⟩ := Tensor.combine_self_reads
    (fun first second => first && second) (nearShape.trans allowedShape.symm)
  have resultShape := visibleShape.trans allowedShape
  have insertedShape : (visible.insertAxis 2).shape =
      [batch, blocks.count, 1, blocks.length, window + blocks.length] := by
    rw [Tensor.shape_insertAxis, resultShape]
    rfl
  refine ⟨visible.insertAxis 2, ?_, insertedShape, ?_⟩
  · simp only [blockMask, queriesCut, keysCut, causalMade, keptMade, keptCut, allowedMade,
      nearMade, visibleMade, bind, Except.bind, pure, Except.pure]
  · intro row block inner slot rowBelow blockBelow innerBelow slotBelow
    have inserted : Shape.Contains (visible.insertAxis 2).shape [row, block, 0, inner, slot] := by
      rw [insertedShape]
      exact ⟨rowBelow, blockBelow, Nat.one_pos, innerBelow, slotBelow, trivial⟩
    have inside : Shape.Contains allowed.shape [row, block, inner, slot] := by
      rw [allowedShape]
      exact ⟨rowBelow, blockBelow, innerBelow, slotBelow, trivial⟩
    refine (Tensor.get_insertAxis inserted).trans ((visibleGet _ inside).trans ?_)
    rw [allowedGet row block inner slot rowBelow blockBelow innerBelow slotBelow,
      nearGet row block inner slot rowBelow blockBelow innerBelow slotBelow,
      causalGet row block inner slot rowBelow blockBelow innerBelow slotBelow,
      queriesGet row block inner rowBelow blockBelow innerBelow,
      keysGet row block slot rowBelow blockBelow slotBelow,
      keptSlotsGet row block slot rowBelow blockBelow slotBelow, ← Blocks.sees_eq]

/-- The local mask of a sequence has the layout of its blocks and shows the window of every
query. -/
theorem localMask_reads {batch sequence window : Nat} {blocks : Blocks}
    (cut : blocks.Cut sequence window) {padding : Option (TypedTensor α)}
    (sizes : ∀ mask ∈ padding, mask.shape = [batch, sequence]) :
    ∃ mask, localMask batch sequence window padding = .ok mask ∧
      mask.shape = [batch, blocks.count, 1, blocks.length, window + blocks.length] ∧
      ∀ row block inner slot, row < batch → block < blocks.count → inner < blocks.length →
        slot < window + blocks.length →
        mask.get [row, block, 0, inner, slot] =
          blocks.sees window (keptAt padding row) block inner slot := by
  rcases blockMask_reads cut sizes with ⟨mask, made, maskShape, maskGet⟩
  have nonempty := cut.nonempty
  refine ⟨mask, ?_, maskShape, maskGet⟩
  simp only [localMask, cut.found, bind, Except.bind]
  rw [if_neg (by omega), if_neg (by omega)]
  exact made

/-- The mask of blocks that can be made of nothing takes a padding mask of its own shape only. -/
theorem localMask_misshapen {mask : TypedTensor α} {batch sequence : Nat} {window : Int}
    {visible : Tensor Bool}
    (made : localMask batch sequence window (none : Option (TypedTensor α)) = .ok visible)
    (misshapen : mask.shape ≠ [batch, sequence]) :
    localMask batch sequence window (some mask) =
      .error (.paddingShapeMismatch [batch, sequence] mask.shape) := by
  have counted : ¬(batch : Int) < 0 := by omega
  have refused : keptPositions batch sequence (some mask) =
      .error (.paddingShapeMismatch [batch, sequence] mask.shape) := if_pos misshapen
  unfold localMask at made ⊢
  rcases exists_of_bind_ok made with ⟨blocks, found, made⟩
  simp only [found, if_neg counted, Int.toNat_natCast, bind, Except.bind] at made ⊢
  by_cases empty : (sequence : Int) = 0
  · rw [if_pos empty] at made
    contradiction
  · rw [if_neg empty] at made ⊢
    rcases exists_of_bind_ok made with ⟨queries, queriesMade, made⟩
    rcases exists_of_bind_ok made with ⟨keys, keysMade, made⟩
    rcases exists_of_bind_ok made with ⟨causal, compared, _⟩
    simp only [blockMask, queriesMade, keysMade, compared, refused, bind, Except.bind]

/-- A local mask is made of a sequence that can be cut, and of a padding mask of its shape. -/
theorem cut_of_localMask {batch sequence : Nat} {window : Int} {padding : Option (TypedTensor α)}
    {visible : Tensor Bool} (made : localMask batch sequence window padding = .ok visible) :
    ∃ (size : Nat) (blocks : Blocks), window = size ∧ blocks.Cut sequence size ∧
      ∀ mask ∈ padding, mask.shape = [batch, sequence] := by
  have again := made
  rcases exists_of_bind_ok made with ⟨blocks, found, made⟩
  have nonempty : sequence ≠ 0 := by
    rintro rfl
    rw [if_neg (by omega)] at made
    contradiction
  obtain ⟨size, rfl, cut⟩ := Blocks.cut_of_ofSequence found nonempty
  refine ⟨size, blocks, rfl, cut, ?_⟩
  rintro mask ⟨⟩
  apply Decidable.byContradiction
  intro misshapen
  have unmasked : ∀ other ∈ (none : Option (TypedTensor α)), other.shape = [batch, sequence] := by
    rintro _ ⟨⟩
  rcases localMask_reads cut unmasked with ⟨plain, plainMade, _⟩
  rw [localMask_misshapen plainMade misshapen] at again
  contradiction

/-! ### The masks of the global layer -/

def markedAt (mask : TypedTensor α) (row position : Nat) : Bool :=
  if mask.elementType = .bool then Arithmetic.isNonzero (mask.tensor.get [row, position])
  else Arithmetic.isPositive (mask.tensor.get [row, position])

def termAt (mask : TypedTensor α) (row query key : Nat) : α :=
  if mask.rank = 4 then
    Arithmetic.cast mask.elementType .float32 (mask.tensor.get [row, 0, query, key])
  else Arithmetic.ofInteger .float32 (if markedAt mask row key then 0 else droppedTerm)

theorem termAt_padding {mask : TypedTensor α} {batch keys : Nat}
    (sizes : mask.shape = [batch, keys]) (row query key : Nat) :
    termAt mask row query key =
      Arithmetic.ofInteger .float32 (if markedAt mask row key then 0 else droppedTerm) := by
  have rankEq : mask.rank = 2 := congrArg List.length sizes
  unfold termAt
  rw [if_neg (by omega)]

/-- A mask for queries and keys of the global layer: a padding mask of the keys, or terms for all
pairs. -/
def TypedTensor.Masks (mask : TypedTensor α) (batch queries keys : Nat) : Prop :=
  mask.shape = [batch, keys] ∨ mask.shape = [batch, 1, queries, keys]

theorem marked_reads {mask : TypedTensor α} {batch keys : Nat} (sizes : mask.shape = [batch, keys])
    {row key : Nat} (rowBelow : row < batch) (keyBelow : key < keys) :
    (if mask.elementType = .bool then mask.truth
      else mask.tensor.map Arithmetic.isPositive).get [row, key] = markedAt mask row key := by
  have inside : Shape.Contains mask.shape [row, key] := by
    rw [sizes]
    exact ⟨rowBelow, keyBelow, trivial⟩
  unfold markedAt
  split
  · exact Tensor.get_map _ _ inside
  · exact Tensor.get_map _ _ inside

/-- A padding mask gives every key one term, for all heads and all queries. -/
theorem additiveMask_padding_reads {mask : TypedTensor α} {batch keys : Nat}
    (sizes : mask.shape = [batch, keys]) :
    ∃ terms, additiveMask .float32 mask = .ok terms ∧
      terms.elementType = .float32 ∧ terms.shape = [batch, 1, 1, keys] ∧
      ∀ row key, row < batch → key < keys → terms.tensor.get [row, 0, 0, key] =
        Arithmetic.ofInteger .float32 (if markedAt mask row key then 0 else droppedTerm) := by
  have rankEq : mask.rank = 2 := congrArg List.length sizes
  obtain ⟨kept, keptEq⟩ : ∃ kept : Tensor Bool, kept =
      if mask.elementType = .bool then mask.truth
      else mask.tensor.map Arithmetic.isPositive := ⟨_, rfl⟩
  have keptShape : kept.shape = [batch, keys] := by
    rw [keptEq]
    split <;> exact sizes
  obtain ⟨columns, columnsEq⟩ : ∃ columns : Tensor α, columns = kept.map fun flag =>
      Arithmetic.ofInteger .float32 (if flag then 0 else droppedTerm) := ⟨_, rfl⟩
  have columnsShape : columns.shape = [batch, keys] := by
    rw [columnsEq]
    exact keptShape
  have stackedShape : (columns.insertAxis 1).shape = [batch, 1, keys] := by
    rw [Tensor.shape_insertAxis, columnsShape]
    rfl
  have termsShape : ((columns.insertAxis 1).insertAxis 1).shape = [batch, 1, 1, keys] := by
    rw [Tensor.shape_insertAxis, stackedShape]
    rfl
  refine ⟨⟨.float32, (columns.insertAxis 1).insertAxis 1⟩, ?_, rfl, termsShape, ?_⟩
  · simp only [additiveMask, rankEq, ← keptEq, columnsEq]
    rfl
  · intro row key rowBelow keyBelow
    have inside : Shape.Contains kept.shape [row, key] := by
      rw [keptShape]
      exact ⟨rowBelow, keyBelow, trivial⟩
    have stacked : Shape.Contains (columns.insertAxis 1).shape [row, 0, key] := by
      rw [stackedShape]
      exact ⟨rowBelow, Nat.one_pos, keyBelow, trivial⟩
    have placed : Shape.Contains ((columns.insertAxis 1).insertAxis 1).shape [row, 0, 0, key] := by
      rw [termsShape]
      exact ⟨rowBelow, Nat.one_pos, Nat.one_pos, keyBelow, trivial⟩
    refine (Tensor.get_insertAxis placed).trans ((Tensor.get_insertAxis stacked).trans ?_)
    change columns.get [row, key] = _
    rw [columnsEq, Tensor.get_map _ _ inside, keptEq, marked_reads sizes rowBelow keyBelow]

/-- Terms for all pairs of a query and a key are taken as they are, in another element type. -/
theorem additiveMask_pairs_reads {mask : TypedTensor α} {batch queries keys : Nat}
    (sizes : mask.shape = [batch, 1, queries, keys]) :
    ∃ terms, additiveMask .float32 mask = .ok terms ∧
      terms.elementType = .float32 ∧ terms.shape = [batch, 1, queries, keys] ∧
      ∀ row query key, row < batch → query < queries → key < keys →
        terms.tensor.get [row, 0, query, key] =
          Arithmetic.cast mask.elementType .float32 (mask.tensor.get [row, 0, query, key]) := by
  have rankEq : mask.rank = 4 := congrArg List.length sizes
  refine ⟨mask.convert .float32, if_pos rankEq, TypedTensor.elementType_convert _ mask,
    (TypedTensor.shape_convert _ mask).trans sizes, ?_⟩
  intro row query key rowBelow queryBelow keyBelow
  have inside : Shape.Contains mask.shape [row, 0, query, key] := by
    rw [sizes]
    exact ⟨rowBelow, Nat.one_pos, queryBelow, keyBelow, trivial⟩
  exact TypedTensor.get_convert _ _ inside

theorem additiveMask_reads {mask : TypedTensor α} {batch queries keys : Nat}
    (masks : mask.Masks batch queries keys) (heads : Nat) :
    ∃ terms, additiveMask .float32 mask = .ok terms ∧ terms.elementType = .float32 ∧
      Shape.Repeats terms.shape [batch, heads, queries, keys] ∧
      ∀ row head query key, row < batch → head < heads → query < queries → key < keys →
        terms.tensor.getJoined [row, head, query, key] = termAt mask row query key := by
  rcases masks with padding | pairs
  · obtain ⟨terms, made, termsType, termsShape, reads⟩ := additiveMask_padding_reads padding
    refine ⟨terms, made, termsType, ?_, ?_⟩
    · rw [termsShape]
      exact ⟨[], _, rfl, Or.inl rfl, Or.inr rfl, Or.inr rfl, Or.inl rfl, trivial⟩
    · intro row head query key rowBelow headBelow queryBelow keyBelow
      have sizes : terms.tensor.shape = [batch, 1, 1, keys] := termsShape
      have projected : Shape.project [batch, 1, 1, keys] [row, head, query, key] =
          [row, 0, 0, key] := by
        simp [Shape.project, Shape.project_coordinate, rowBelow, keyBelow]
      unfold Tensor.getJoined
      rw [sizes, projected, reads row key rowBelow keyBelow, termAt_padding padding]
  · obtain ⟨terms, made, termsType, termsShape, reads⟩ := additiveMask_pairs_reads pairs
    refine ⟨terms, made, termsType, ?_, ?_⟩
    · rw [termsShape]
      exact ⟨[], _, rfl, Or.inl rfl, Or.inr rfl, Or.inl rfl, Or.inl rfl, trivial⟩
    · intro row head query key rowBelow headBelow queryBelow keyBelow
      have rankEq : mask.rank = 4 := congrArg List.length pairs
      have sizes : terms.tensor.shape = [batch, 1, queries, keys] := termsShape
      have projected : Shape.project [batch, 1, queries, keys] [row, head, query, key] =
          [row, 0, query, key] := by
        simp [Shape.project, Shape.project_coordinate, rowBelow, queryBelow, keyBelow]
      unfold Tensor.getJoined termAt
      rw [sizes, projected, reads row query key rowBelow queryBelow keyBelow, if_pos rankEq]

/-- The positions that every position reaches, for all positions up to a limit: ones in a lower
triangle. -/
def causalTable (limit : Nat) : Tensor Nat :=
  Tensor.ofFn [1, 1, limit, limit] fun index => if index.getD 3 0 ≤ index.getD 2 0 then 1 else 0

/-- Up to the limit the mask is cut out of the table: the rows of the last queries, and the columns
of the keys. -/
theorem causalMask_eq_slice {limit queries keys : Nat} (fewer : queries ≤ keys)
    (within : keys ≤ limit) :
    causalMask queries keys =
      (((causalTable limit).slice 2 (keys - queries) queries).slice 3 0 keys).map (· != 0) := by
  refine Tensor.ext_get (by rfl) ?_
  intro index inside
  have columns : Shape.Contains ([1, 1, queries, limit].set 3 keys) index := inside
  rcases Shape.contains_cons_iff.mp inside with ⟨row, _, rfl, rowBelow, inside⟩
  rcases Shape.contains_cons_iff.mp inside with ⟨head, _, rfl, headBelow, inside⟩
  rcases Shape.contains_cons_iff.mp inside with ⟨query, _, rfl, queryBelow, inside⟩
  rcases Shape.contains_cons_iff.mp inside with ⟨key, _, rfl, keyBelow, inside⟩
  obtain rfl := Shape.contains_nil_iff.mp inside
  have cut : Shape.Contains [1, 1, queries, keys] [row, head, query, key] :=
    ⟨rowBelow, headBelow, queryBelow, keyBelow, trivial⟩
  have rows : Shape.Contains ([1, 1, limit, limit].set 2 queries) [row, head, query, 0 + key] :=
    ⟨rowBelow, headBelow, queryBelow, by omega, trivial⟩
  have square : Shape.Contains [1, 1, limit, limit]
      [row, head, keys - queries + query, 0 + key] :=
    ⟨rowBelow, headBelow, by omega, by omega, trivial⟩
  rw [Tensor.get_map _ _ columns, Tensor.get_slice columns]
  change _ = (((causalTable limit).slice 2 (keys - queries) queries).get
    [row, head, query, 0 + key] != 0)
  rw [Tensor.get_slice rows]
  change (causalMask queries keys).get [row, head, query, key] = ((causalTable limit).get
    [row, head, keys - queries + query, 0 + key] != 0)
  unfold causalMask causalTable
  rw [Tensor.get_ofFn cut, Tensor.get_ofFn square]
  by_cases reached : key ≤ query + (keys - queries)
  · simp [reached, Nat.add_comm]
  · simp [reached, Nat.add_comm]

theorem causalMask_repeats (batch heads queries keys : Nat) :
    Shape.Repeats (causalMask queries keys).shape [batch, heads, queries, keys] :=
  ⟨[], [batch, heads, queries, keys], rfl, Or.inr rfl, Or.inr rfl, Or.inl rfl, Or.inl rfl, trivial⟩

/-- The last queries see the keys up to their own position. -/
theorem causalMask_getJoined {first queries query key : Nat} (row head : Nat)
    (queryBelow : query < queries) (keyBelow : key < first + queries) :
    (causalMask queries (first + queries)).getJoined [row, head, query, key] =
      decide (key ≤ first + query) := by
  have projected : Shape.project [1, 1, queries, first + queries] [row, head, query, key] =
      [0, 0, query, key] := by
    simp [Shape.project, Shape.project_coordinate, queryBelow, keyBelow]
  unfold Tensor.getJoined
  change (causalMask queries (first + queries)).get
    (Shape.project [1, 1, queries, first + queries] [row, head, query, key]) = _
  rw [projected]
  refine (Tensor.get_ofFn (by exact ⟨Nat.one_pos, Nat.one_pos, queryBelow, keyBelow, trivial⟩)
    _).trans ?_
  rw [decide_eq_decide]
  simp only [List.getD_cons_succ, List.getD_cons_zero]
  omega

end CausalAttention
