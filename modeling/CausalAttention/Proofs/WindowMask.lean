import CausalAttention.Proofs.AcceptedLengths
import CausalAttention.Proofs.Number.Truncation

/-!
The local mask as a relation between positions. Row `r` of block `i` is the query `i * length + r`,
and slot `c` of its window is the key `i * length + c - window`, which lies in front of the sequence
when it is negative. The query sees the keys of the sequence that are not in its future, lie fewer
than a window behind it, and are kept by the padding mask.
-/

set_option autoImplicit false

namespace CausalAttention

/-- Numbers of the type of the tensor throughout, none of them infinite or undefined. -/
def TypedTensor.IsFinite (typed : TypedTensor MachineNumber) : Prop :=
  ∀ index, Shape.Contains typed.shape index →
    (typed.tensor.get index).HasType typed.elementType ∧
      ∃ number, (typed.tensor.get index).rational? = some number

namespace Blocks

theorem sees_iff {blocks : Blocks} {window block inner slot : Nat} {kept : Nat → Bool}
    {query key : Int} (asked : query = block * blocks.length + inner)
    (shown : key = block * blocks.length + slot - window) :
    blocks.sees window kept block inner slot = true ↔
      0 ≤ key ∧ key ≤ query ∧ query - key < window ∧ kept key.toNat = true := by
  have start : ((block * blocks.length : Nat) : Int) = block * blocks.length := Int.natCast_mul ..
  unfold sees position?
  by_cases front : block * blocks.length + slot < window
  · rw [if_pos front]
    constructor
    · intro seen
      contradiction
    · rintro ⟨inside, _⟩
      omega
  · rw [if_neg front]
    have place : key.toNat = block * blocks.length + slot - window := by omega
    rw [place]
    simp only [Bool.and_eq_true, decide_eq_true_eq]
    constructor
    · rintro ⟨⟨past, keeps⟩, near⟩
      exact ⟨by omega, by omega, by omega, keeps⟩
    · rintro ⟨_, past, near, keeps⟩
      exact ⟨⟨by omega, keeps⟩, by omega⟩

end Blocks

/-- A padding mask of finite numbers keeps the positions whose number has an integer part. -/
theorem keptAt_iff {padding : Option (TypedTensor MachineNumber)}
    {batch sequence row position : Nat}
    (sizes : ∀ mask ∈ padding, mask.shape = [batch, sequence])
    (finite : ∀ mask ∈ padding, mask.IsFinite) (rowBelow : row < batch)
    (positionBelow : position < sequence) :
    keptAt padding row position = true ↔
      ∀ mask ∈ padding, ∃ number, (mask.tensor.get [row, position]).rational? = some number ∧
        towardZero number ≠ 0 := by
  cases padding with
  | none => simp [keptAt]
  | some mask =>
      have inside : Shape.Contains mask.shape [row, position] := by
        rw [sizes mask rfl]
        exact ⟨rowBelow, positionBelow, trivial⟩
      rcases finite mask rfl [row, position] inside with ⟨typed, number, exact⟩
      have kept : keptAt (some mask) row position = decide (towardZero number ≠ 0) :=
        MachineNumber.isNonzero_cast typed exact
      simp [kept, exact]

/-- A mask in the block layout is the relation between queries and the keys of their windows. -/
structure WindowRelation (batch window : Nat) (padding : Option (TypedTensor MachineNumber))
    (blocks : Blocks) (mask : Tensor Bool) : Prop where
  shape : mask.shape = [batch, blocks.count, 1, blocks.length, window + blocks.length]
  get : ∀ row block inner slot, row < batch → block < blocks.count → inner < blocks.length →
    slot < window + blocks.length → ∀ query key : Int,
    query = block * blocks.length + inner → key = block * blocks.length + slot - window →
    (mask.get [row, block, 0, inner, slot] = true ↔
      0 ≤ key ∧ key ≤ query ∧ query - key < window ∧
        ∀ given ∈ padding, ∃ number, (given.tensor.get [row, key.toNat]).rational? = some number ∧
          towardZero number ≠ 0)

theorem exists_windowRelation {batch sequence window : Nat} {blocks : Blocks}
    {padding : Option (TypedTensor MachineNumber)} (cut : blocks.Cut sequence window)
    (sizes : ∀ given ∈ padding, given.shape = [batch, sequence])
    (finite : ∀ given ∈ padding, given.IsFinite) :
    ∃ mask, localMask batch sequence window padding = .ok mask ∧
      WindowRelation batch window padding blocks mask := by
  rcases localMask_reads cut sizes with ⟨mask, made, maskShape, maskGet⟩
  refine ⟨mask, made, maskShape, ?_⟩
  intro row block inner slot rowBelow blockBelow innerBelow slotBelow query key asked shown
  rw [maskGet row block inner slot rowBelow blockBelow innerBelow slotBelow,
    Blocks.sees_iff asked shown]
  have blockEnd := cut.blockEnd blockBelow
  have start : ((block * blocks.length : Nat) : Int) = block * blocks.length := Int.natCast_mul ..
  -- Only a key of the sequence is looked up in the padding mask.
  constructor
  · rintro ⟨inside, past, near, kept⟩
    have below : key.toNat < sequence := by omega
    exact ⟨inside, past, near, (keptAt_iff sizes finite rowBelow below).mp kept⟩
  · rintro ⟨inside, past, near, kept⟩
    have below : key.toNat < sequence := by omega
    exact ⟨inside, past, near, (keptAt_iff sizes finite rowBelow below).mpr kept⟩

/-- What a machine answers within its limits is the same relation. -/
theorem exists_heldLocalMask {batch sequence window : Nat} {blocks : Blocks}
    {padding : Option (TypedTensor MachineNumber)} (cut : blocks.Cut sequence window)
    (batchPositive : 1 ≤ batch)
    (room : Memory.requireRoom .int64 [batch, sequence, window + blocks.length] = .ok ())
    (sizes : ∀ given ∈ padding, given.shape = [batch, sequence])
    (finite : ∀ given ∈ padding, given.IsFinite) :
    ∃ mask, heldLocalMask batch sequence window padding = .ok mask ∧
      WindowRelation batch window padding blocks mask := by
  rcases exists_windowRelation cut sizes finite with ⟨mask, made, relation⟩
  exact ⟨mask, (heldLocalMask_of_room cut batchPositive padding room).trans made, relation⟩

/-- A slot of the local mask holds exactly when it shows a key of the sequence that the query
reaches and that the padding mask, cut off to integers, keeps. -/
theorem localMask_iff_window {batch sequence window : Nat} (nonempty : 1 ≤ sequence)
    (wide : 1 ≤ window) {padding : Option (TypedTensor MachineNumber)}
    (sizes : ∀ given ∈ padding, given.shape = [batch, sequence])
    (finite : ∀ given ∈ padding, given.IsFinite) :
    ∃ blocks mask, Blocks.ofSequence sequence window = .ok blocks ∧
      localMask batch sequence window padding = .ok mask ∧
      mask.shape = [batch, blocks.count, 1, blocks.length, window + blocks.length] ∧
      ∀ row block inner slot, row < batch → block < blocks.count → inner < blocks.length →
        slot < window + blocks.length → ∀ query key : Int,
        query = block * blocks.length + inner → key = block * blocks.length + slot - window →
        (mask.get [row, block, 0, inner, slot] = true ↔
          0 ≤ key ∧ key ≤ query ∧ query - key < window ∧
            ∀ given ∈ padding, ∃ number,
              (given.tensor.get [row, key.toNat]).rational? = some number ∧
                towardZero number ≠ 0) := by
  rcases Blocks.exists_cut nonempty wide with ⟨blocks, cut⟩
  rcases exists_windowRelation cut sizes finite with ⟨mask, made, relation⟩
  exact ⟨blocks, mask, cut.found, made, relation.shape, relation.get⟩

/-- The query 2 of three positions does not see the key 1 in its window, which a mask of one half
does not keep, and sees itself, which a mask of minus one and a half keeps. -/
theorem localMask_iff_window_three_positions :
    let padding : TypedTensor MachineNumber := ⟨.float32, Tensor.ofFn [1, 3] fun index =>
      if index = [0, 1] then .real 0.5 else .real (-1.5)⟩
    ∃ mask : Tensor Bool, localMask 1 3 2 (some padding) = .ok mask ∧
      mask.shape = [1, 3, 1, 1, 3] ∧ mask.get [0, 2, 0, 0, 1] = false ∧
      mask.get [0, 2, 0, 0, 2] = true := by
  intro padding
  have half : (MachineNumber.real 0.5).rational? = some (1 / 2) := by decide +kernel
  have below : (MachineNumber.real (-1.5)).rational? = some (-3 / 2) := by decide +kernel
  have read (position : Nat) (inside : position < 3) : padding.tensor.get [0, position] =
      if [0, position] = [0, 1] then .real 0.5 else .real (-1.5) :=
    Tensor.get_ofFn (by exact ⟨Nat.one_pos, inside, trivial⟩) _
  have finite : padding.IsFinite := by
    intro index inside
    have entry : padding.tensor.get index = if index = [0, 1] then .real 0.5 else .real (-1.5) :=
      Tensor.get_ofFn inside _
    rw [entry]
    split
    · exact ⟨rfl, _, half⟩
    · exact ⟨rfl, _, below⟩
  have nonempty : 1 ≤ 3 := by decide
  have wide : 1 ≤ 2 := by decide
  have sizes : ∀ given ∈ some padding, given.shape = [1, 3] := by
    rintro given ⟨⟩
    rfl
  have finiteMask : ∀ given ∈ some padding, given.IsFinite := by
    rintro given ⟨⟩
    exact finite
  obtain ⟨blocks, mask, found, made, maskShape, entries⟩ :=
    localMask_iff_window nonempty wide sizes finiteMask
  have cut : blocks = ⟨1, 3⟩ := by
    cases found
    rfl
  subst cut
  refine ⟨mask, made, maskShape, ?_, ?_⟩
  · rw [← Bool.not_eq_true, entries 0 2 0 1 (by decide) (by decide) (by decide) (by decide) 2 1 rfl
      rfl]
    rintro ⟨_, _, _, kept⟩
    rcases kept padding rfl with ⟨number, exact, nonzero⟩
    have same : some number = some (1 / 2) :=
      exact.symm.trans ((congrArg MachineNumber.rational? (read 1 (by decide))).trans half)
    rw [Option.some.inj same] at nonzero
    exact nonzero (by decide +kernel)
  · rw [entries 0 2 0 2 (by decide) (by decide) (by decide) (by decide) 2 2 rfl rfl]
    refine ⟨by decide, by decide, by decide, ?_⟩
    rintro given ⟨⟩
    refine ⟨-3 / 2, ?_, ?_⟩
    · exact (congrArg MachineNumber.rational? (read 2 (by decide))).trans below
    · decide +kernel

end CausalAttention
