import CausalAttention.Number.Machine
import CausalAttention.Proofs.Mask

/-!
Which lengths have a local mask. The mask takes every length that can be cut into blocks but that of
the empty sequence, for which no window fits, and it refuses the other lengths as the blocks do.
-/

set_option autoImplicit false

namespace CausalAttention

namespace Memory

/-- What has room for windows has room for the positions as well. -/
theorem room_of_windows {batch sequence spread : Nat} (batchPositive : 0 < batch)
    (sequencePositive : 0 < sequence) (spreadPositive : 0 < spread)
    (room : requireRoom .int64 [batch, sequence, spread] = .ok ()) :
    requireSizes [(batch : Int)] = .ok () ∧ sequence < twoTo 64 ∧
      requireRoom .int64 [sequence] = .ok () ∧ requireRoom .int64 [batch, sequence] = .ok () := by
  have limits := require_eq_ok.mp room
  simp only [Bool.and_eq_true, decide_eq_true_eq, Shape.volume, Nat.mul_one] at limits
  have bytes : batch * (sequence * spread) * 8 < byteLimit := limits.2
  have fewer : batch * sequence ≤ batch * (sequence * spread) :=
    Nat.mul_le_mul_left batch (Nat.le_mul_of_pos_right sequence spreadPositive)
  have rows : batch ≤ batch * sequence := Nat.le_mul_of_pos_right batch sequencePositive
  have positions : sequence ≤ batch * sequence := Nat.le_mul_of_pos_left sequence batchPositive
  have limit : byteLimit = 17179869184 := rfl
  have signedLimit : twoTo 63 = 9223372036854775808 := rfl
  have wordLimit : twoTo 64 = 18446744073709551616 := rfl
  refine ⟨require_eq_ok.mpr ?_, by omega, require_eq_ok.mpr ?_, require_eq_ok.mpr ?_⟩
  · simp only [List.all_cons, List.all_nil, Bool.and_true, isWord, Bool.and_eq_true,
      decide_eq_true_eq]
    omega
  · simp only [isCountableFrom, Bool.and_eq_true, decide_eq_true_eq, Shape.volume,
      List.drop_succ_cons, List.drop_zero, List.map_nil, Nat.one_mul, Nat.mul_one,
      ElementType.byteCount]
    omega
  · simp only [isCountableFrom, Bool.and_eq_true, decide_eq_true_eq, Shape.volume,
      List.drop_succ_cons, List.drop_zero, List.map_cons, List.map_nil, Nat.one_mul, Nat.mul_one,
      ElementType.byteCount]
    omega

end Memory

variable {α : Type} [Arithmetic α]

theorem Blocks.ofSequence_empty {window : Int} (wide : 1 ≤ window) :
    ofSequence 0 window = .ok ⟨window.toNat, 0⟩ := by
  unfold ofSequence
  rw [if_neg (by omega), if_neg (by omega), if_pos rfl]

/-- No window of a block fits into an empty sequence, which has positions only in front of it. -/
theorem lookBack_empty (batch : Nat) {window : Int} (wide : 1 ≤ window) :
    (positions batch 0).lookBack window window 0 false = .error .windowDoesNotFit := by
  obtain ⟨size, rfl⟩ := Int.eq_ofNat_of_zero_le (show 0 ≤ window by omega)
  exact Tensor.lookBack_of_short size 0 false (by simp) (show 0 < size by omega) rfl

theorem localMask_of_refused {batch sequence window : Int} {failure : Failure}
    {padding : Option (TypedTensor α)}
    (refused : Blocks.ofSequence sequence window = .error failure) :
    localMask batch sequence window padding = .error failure ∧
      heldLocalMask batch sequence window padding = .error failure := by
  constructor
  · simp only [localMask, refused, bind, Except.bind]
  · simp only [heldLocalMask, refused, bind, Except.bind]

theorem exists_of_heldLocalMask {batch sequence window : Int} {padding : Option (TypedTensor α)}
    {mask : Tensor Bool} (made : heldLocalMask batch sequence window padding = .ok mask) :
    localMask batch sequence window padding = .ok mask := by
  rcases exists_of_bind_ok made with ⟨_, _, made⟩
  rcases exists_of_bind_ok made with ⟨_, _, made⟩
  rcases exists_of_bind_ok made with ⟨_, _, made⟩
  rcases exists_of_bind_ok made with ⟨_, _, made⟩
  rcases exists_of_bind_ok made with ⟨_, _, made⟩
  simp only at made
  split at made
  · rcases exists_of_bind_ok made with ⟨_, _, made⟩
    exact made
  · exact made

/-- A machine that can hold the windows holds the mask. -/
theorem heldLocalMask_of_room {batch sequence window : Nat} {blocks : Blocks}
    (cut : blocks.Cut sequence window) (batchPositive : 0 < batch)
    (padding : Option (TypedTensor α))
    (room : Memory.requireRoom .int64 [batch, sequence, window + blocks.length] = .ok ()) :
    heldLocalMask batch sequence window padding = localMask batch sequence window padding := by
  have sequencePositive : 0 < sequence := by
    rw [← cut.whole]
    exact Nat.mul_pos cut.countPositive cut.lengthPositive
  rcases Memory.room_of_windows batchPositive sequencePositive
    (Nat.add_pos_right window cut.lengthPositive) room with
      ⟨rowsFit, lengthFits, positionsFit, tokensFit⟩
  have word : require (decide ((sequence : Int) < (twoTo 64 : Int))) .numberTooLarge = .ok () :=
    require_eq_ok.mpr (decide_eq_true (by omega))
  unfold heldLocalMask
  simp only [cut.found, word, Int.toNat_natCast, rowsFit, positionsFit, tokensFit]
  change (if 0 < (sequence : Int) then _ else _) = _
  rw [if_pos (by omega), room]
  rfl

/-- Outside of the empty sequence the blocks and the mask accept the same lengths. -/
theorem accepted_lengths {batch : Int} (counted : 1 ≤ batch) (sequence window : Int) :
    (∀ blocks : Blocks, Blocks.ofSequence sequence window = .ok blocks → sequence ≠ 0 →
      ∃ mask, localMask batch sequence window (none : Option (TypedTensor α)) = .ok mask ∧
        mask.shape =
          [batch.toNat, blocks.count, 1, blocks.length, window.toNat + blocks.length] ∧
        (Memory.requireRoom .int64
            [batch.toNat, sequence.toNat, window.toNat + blocks.length] = .ok () →
          heldLocalMask batch sequence window (none : Option (TypedTensor α)) = .ok mask)) ∧
    (∀ failure, Blocks.ofSequence sequence window = .error failure →
      localMask batch sequence window (none : Option (TypedTensor α)) = .error failure ∧
        heldLocalMask batch sequence window (none : Option (TypedTensor α)) = .error failure) ∧
    (sequence = 0 → 1 ≤ window →
      Blocks.ofSequence sequence window = .ok ⟨window.toNat, 0⟩ ∧
        (positions batch.toNat 0).lookBack window window 0 false = .error .windowDoesNotFit ∧
        localMask batch sequence window (none : Option (TypedTensor α)) =
          .error (Memory.emptyWindowFailure batch.toNat window) ∧
        ∀ mask, heldLocalMask batch sequence window (none : Option (TypedTensor α)) ≠ .ok mask) := by
  refine ⟨?_, fun failure refused => localMask_of_refused refused, ?_⟩
  · intro blocks found nonempty
    have sizes := Blocks.sizes_of_ofSequence found
    obtain ⟨rows, rfl⟩ := Int.eq_ofNat_of_zero_le (show 0 ≤ batch by omega)
    obtain ⟨length, rfl⟩ := Int.eq_ofNat_of_zero_le sizes.1
    obtain ⟨size, rfl, cut⟩ := Blocks.cut_of_ofSequence found (show length ≠ 0 by omega)
    have unpadded : ∀ given ∈ (none : Option (TypedTensor α)), given.shape = [rows, length] := by
      simp
    rcases localMask_reads cut unpadded with ⟨mask, made, maskShape, _⟩
    refine ⟨mask, made, maskShape, ?_⟩
    intro room
    exact (heldLocalMask_of_room cut (by omega) none room).trans made
  · intro empty wide
    subst empty
    have found := Blocks.ofSequence_empty wide
    have refused : localMask batch 0 window (none : Option (TypedTensor α)) =
        .error (Memory.emptyWindowFailure batch.toNat window) := by
      unfold localMask
      rw [found]
      exact (if_neg (by omega)).trans (if_pos rfl)
    refine ⟨found, lookBack_empty batch.toNat wide, refused, ?_⟩
    intro mask made
    rw [exists_of_heldLocalMask made] at refused
    contradiction

theorem accepted_lengths_six_positions :
    (1 : Int) ≤ 1 ∧ Blocks.ofSequence 6 4 = .ok ⟨3, 2⟩ ∧
      ∃ mask, heldLocalMask 1 6 4 (none : Option (TypedTensor MachineNumber)) = .ok mask ∧
        mask.shape = [1, 2, 1, 3, 7] := by
  have found : Blocks.ofSequence 6 4 = .ok ⟨3, 2⟩ := rfl
  have counted : (1 : Int) ≤ 1 := by decide
  obtain ⟨mask, _, maskShape, held⟩ :=
    (@accepted_lengths MachineNumber _ 1 counted 6 4).1 ⟨3, 2⟩ found (by decide)
  exact ⟨counted, found, mask, held rfl, maskShape⟩

/-- The empty sequence is cut into no blocks of the window's length, but it has no mask. -/
theorem empty_sequence_unmasked :
    Blocks.ofSequence 0 2 = .ok ⟨2, 0⟩ ∧
      ¬∃ mask, heldLocalMask 1 0 2 (none : Option (TypedTensor MachineNumber)) = .ok mask ∧
        mask.shape = [1, 0, 1, 2, 2 + 2] := by
  have refused : heldLocalMask 1 0 2 (none : Option (TypedTensor MachineNumber)) =
      .error .windowDoesNotFit := rfl
  refine ⟨rfl, ?_⟩
  rintro ⟨mask, made, _⟩
  rw [refused] at made
  contradiction

end CausalAttention
