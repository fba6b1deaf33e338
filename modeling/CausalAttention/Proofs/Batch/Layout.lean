import CausalAttention.Layer.Run
import CausalAttention.Proofs.Batch.Attention
import CausalAttention.Proofs.Mask

/-!
Rows of a batch in the layouts of a layer: heads that are split and merged, blocks, windows, and
masks. The sizes that are asked for name the batch first and say the same of every row behind it.
-/

set_option autoImplicit false

namespace CausalAttention

namespace Tensor

variable {α : Type} [Inhabited α] {batch row count : Nat} {part whole result : Tensor α}

theorem IsRow.requireRank (isRow : IsRow batch row count part whole) (lower upper : Nat) :
    part.requireRank lower upper = whole.requireRank lower upper := by
  unfold Tensor.requireRank
  rw [isRow.rank_eq]

theorem IsRow.splitHeads (isRow : IsRow batch row count part whole) (below : row < batch)
    {heads headSize : Int} (made : whole.splitHeads heads headSize = .ok result) :
    ∃ small, part.splitHeads heads headSize = .ok small ∧
      IsRow batch row (count + 1) small result := by
  have wholeRank := isRow.rank_whole
  have partRank := isRow.rank_part
  have partRequired := isRow.requireRank 3 4
  rcases exists_of_bind_ok made with ⟨sizes, requested, made⟩
  rcases exists_of_bind_ok made with ⟨grouped, reshaped, made⟩
  cases made
  rcases exists_of_bind_ok requested with ⟨_, required, requested⟩
  have known := requireRank_eq_ok required
  obtain ⟨behind, rfl⟩ : ∃ behind, count = behind + 2 := ⟨count - 2, by omega⟩
  have features := isRow.extent_eq (behind + 1)
  obtain ⟨stack, stackLength, wholeFront, partFront⟩ : ∃ stack : Shape,
      stack.length = behind + 1 ∧ whole.shape.dropLast = batch :: stack ∧
        part.shape.dropLast = 1 :: stack := by
    rcases isRow with ⟨rest, length, wholeShape, partShape, _⟩
    rcases Shape.exists_concat length with ⟨stack, last, stackLength, rfl⟩
    refine ⟨stack, stackLength, ?_, ?_⟩
    · rw [wholeShape, ← List.cons_append, List.dropLast_concat]
    · rw [partShape, ← List.cons_append, List.dropLast_concat]
  have lastAxis : behind + 2 + 1 - 1 = behind + 1 + 1 := by omega
  simp only [wholeRank, lastAxis, wholeFront, pure, Except.pure] at requested
  split at requested
  · contradiction
  · rename_i covered
    cases requested
    have grouping : whole.reshape ((batch : Int) ::
        ((stack.map fun (size : Nat) => (size : Int)) ++ [heads, headSize])) = .ok grouped :=
      reshaped
    rcases isRow.reshape below grouping with ⟨groupedPart, partReshaped, groupedRow⟩
    have groupedLength : ((stack.map fun (size : Nat) => (size : Int)) ++
        [heads, headSize]).length = behind + 2 + 1 := by
      rw [List.length_append, List.length_map, stackLength]
      rfl
    rw [groupedLength] at groupedRow
    have axisEq : behind + 2 + 1 - 2 = behind + 1 := by omega
    have partRequested : part.splitSizes heads headSize =
        .ok (1 :: ((stack.map fun (size : Nat) => (size : Int)) ++ [heads, headSize])) := by
      simp only [splitSizes, partRequired, required, partRank, lastAxis, features, if_neg covered,
        partFront, bind, Except.bind, pure, Except.pure]
      rfl
    refine ⟨groupedPart.swapAxes (part.rank - 2), ?_, ?_⟩
    · simp only [Tensor.splitHeads, partRequested, partReshaped, bind, Except.bind, pure,
        Except.pure]
    · rw [partRank, wholeRank, axisEq]
      exact groupedRow.swapAxes below behind

theorem IsRow.mergeHeads (isRow : IsRow batch row count part whole) (below : row < batch)
    {heads headSize : Int} (made : whole.mergeHeads heads headSize = .ok result) :
    ∃ small behind, part.mergeHeads heads headSize = .ok small ∧
      IsRow batch row (behind + 1) small result := by
  have wholeRank := isRow.rank_whole
  have partRank := isRow.rank_part
  have partRequired := isRow.requireRank 4 5
  rcases exists_of_bind_ok made with ⟨sizes, requested, reshaped⟩
  rcases exists_of_bind_ok requested with ⟨_, required, requested⟩
  have known := requireRank_eq_ok required
  obtain ⟨behind, rfl⟩ : ∃ behind, count = behind + 3 := ⟨count - 3, by omega⟩
  have axisEq : behind + 3 + 1 - 3 = behind + 1 := by omega
  have frontEq : behind + 3 + 1 - 2 = behind + 1 + 1 := by omega
  have turnedRow := isRow.swapAxes below behind
  rw [wholeRank, axisEq] at reshaped
  obtain ⟨outer, wholeOuter, partOuter⟩ : ∃ outer : Shape,
      (Shape.swapAt (behind + 1) whole.shape).take (behind + 1 + 1) = batch :: outer ∧
        (Shape.swapAt (behind + 1) part.shape).take (behind + 1 + 1) = 1 :: outer := by
    rcases isRow with ⟨rest, _, wholeShape, partShape, _⟩
    rw [wholeShape, partShape]
    exact ⟨_, rfl, rfl⟩
  simp only [wholeRank, axisEq, frontEq, wholeOuter, pure, Except.pure] at requested
  cases requested
  have merging : (whole.swapAxes (behind + 1)).reshape ((batch : Int) ::
      ((outer.map fun (size : Nat) => (size : Int)) ++ [heads * headSize])) = .ok result :=
    reshaped
  rcases turnedRow.reshape below merging with ⟨small, partReshaped, smallRow⟩
  have partRequested : part.mergeSizes heads headSize =
      .ok (1 :: ((outer.map fun (size : Nat) => (size : Int)) ++ [heads * headSize])) := by
    simp only [mergeSizes, partRequired, required, partRank, axisEq, frontEq, partOuter, bind,
      Except.bind, pure, Except.pure]
    rfl
  refine ⟨small, outer.length, ?_, ?_⟩
  · simp only [Tensor.mergeHeads, partRequested, partRank, axisEq, partReshaped, bind, Except.bind]
  · have mergedLength : ((outer.map fun (size : Nat) => (size : Int)) ++
        [heads * headSize]).length = outer.length + 1 := by
      rw [List.length_append, List.length_map]
      rfl
    rwa [mergedLength] at smallRow

theorem IsRow.splitSequence (isRow : IsRow batch row 2 part whole) (below : row < batch)
    {outer inner features : Int} (made : whole.splitSequence outer inner (some features) =
      .ok result) :
    ∃ small, part.splitSequence outer inner (some features) = .ok small ∧
      IsRow batch row 3 small result := by
  have again := isRow
  rcases isRow with ⟨rest, length, wholeShape, partShape, _⟩
  match rest, length with
  | [positions, width], _ =>
      simp only [Tensor.splitSequence, sequenceSizes, wholeShape, partShape, bind, Except.bind,
        Option.getD_some] at made ⊢
      exact again.reshape below made

theorem IsRow.lookBack (isRow : IsRow batch row 2 part whole) (below : row < batch)
    {length : Nat} {window : Int} {filler : α}
    (made : whole.lookBack length window filler true = .ok result) :
    ∃ small, part.lookBack length window filler true = .ok small ∧
      IsRow batch row 3 small result := by
  have partRequired := isRow.requireRank 2 3
  rcases exists_of_bind_ok made with ⟨padded, leads, made⟩
  rcases exists_of_bind_ok leads with ⟨_, required, leads⟩
  rcases exists_of_bind_ok made with ⟨spread, cut, turned⟩
  rcases isRow.padFront below (by decide) leads with ⟨paddedPart, partLeads, paddedRow⟩
  rcases paddedRow.windows below (by decide) cut with ⟨spreadPart, partCut, spreadRow⟩
  have stackedRow : IsRow batch row (1 + 2) spreadPart spread := spreadRow
  rcases stackedRow.transpose below with ⟨small, other, partTurned, otherTurned, smallRow⟩
  obtain rfl : other = result := Except.ok.inj (otherTurned.symm.trans turned)
  refine ⟨small, ?_, smallRow⟩
  have partLead : part.lead window filler = .ok paddedPart := by
    simp only [lead, partRequired, required, bind, Except.bind]
    exact partLeads
  simp only [Tensor.lookBack, partLead, blockWindows, bind, Except.bind]
  have partCut' : paddedPart.windows 1 (window + (length : Int)) (length : Int) = .ok spreadPart :=
    partCut
  simp only [partCut', if_true]
  exact partTurned

end Tensor

variable {α : Type} [Arithmetic α] {batch row count : Nat}

theorem TypedTensor.IsRow.truth {part whole : TypedTensor α}
    (isRow : TypedTensor.IsRow batch row count part whole) (below : row < batch) :
    Tensor.IsRow batch row count part.truth whole.truth :=
  isRow.tensor.map below _

theorem Blocks.sees_congr {blocks : Blocks} {sequence window : Nat}
    (cut : blocks.Cut sequence window) {kept other : Nat → Bool}
    (same : ∀ position, position < sequence → kept position = other position)
    {block inner slot : Nat} (blockBelow : block < blocks.count)
    (slotBelow : slot < window + blocks.length) :
    blocks.sees window kept block inner slot = blocks.sees window other block inner slot := by
  unfold Blocks.sees
  cases shown : Blocks.position? blocks.length window block slot with
  | none => rfl
  | some position => simp only [same position (cut.position_lt blockBelow slotBelow shown)]

section Padding

variable {sequence : Nat} {padding paddingPart : Option (TypedTensor α)}

theorem padding_row_shape
    (paddingRow : Option.Rel (TypedTensor.IsRow batch row 1) paddingPart padding)
    (sizes : ∀ given ∈ padding, given.shape = [batch, sequence]) :
    ∀ given ∈ paddingPart, given.shape = [1, sequence] := by
  cases paddingRow with
  | none => rintro given ⟨⟩
  | some givenRow =>
      rintro given ⟨⟩
      rcases givenRow.tensor with ⟨rest, _, wholeShape, partShape, _⟩
      obtain rfl : rest = [sequence] :=
        (List.cons.inj (wholeShape.symm.trans (sizes _ rfl))).2
      exact partShape

theorem keptAt_row (paddingRow : Option.Rel (TypedTensor.IsRow batch row 1) paddingPart padding)
    (sizes : ∀ given ∈ padding, given.shape = [batch, sequence]) (position : Nat)
    (below : position < sequence) :
    keptAt paddingPart 0 position = keptAt padding row position := by
  cases paddingRow with
  | none => rfl
  | some givenRow =>
      rcases givenRow.tensor with ⟨rest, _, wholeShape, _, same⟩
      obtain rfl : rest = [sequence] :=
        (List.cons.inj (wholeShape.symm.trans (sizes _ rfl))).2
      simp only [keptAt, givenRow.elementType, same [position] ⟨below, trivial⟩]

/-- The local mask of a row is the row of the local mask. -/
theorem localMask_row {window : Int}
    (paddingRow : Option.Rel (TypedTensor.IsRow batch row 1) paddingPart padding)
    (below : row < batch) {mask : Tensor Bool}
    (made : localMask batch sequence window padding = .ok mask) :
    ∃ small, localMask 1 sequence window paddingPart = .ok small ∧
      Tensor.IsRow batch row 4 small mask := by
  obtain ⟨width, blocks, rfl, cut, sizes⟩ := cut_of_localMask made
  rcases localMask_reads cut sizes with ⟨again, againMade, maskShape, maskGet⟩
  obtain rfl : again = mask := Except.ok.inj (againMade.symm.trans made)
  rcases localMask_reads cut (padding_row_shape paddingRow sizes) with
    ⟨small, smallMade, smallShape, smallGet⟩
  refine ⟨small, smallMade, [blocks.count, 1, blocks.length, width + blocks.length], rfl, maskShape,
    smallShape, ?_⟩
  intro index inside
  rcases Shape.contains_cons_iff.mp inside with ⟨block, tail, rfl, blockBelow, inside⟩
  rcases Shape.contains_cons_iff.mp inside with ⟨middle, tail, rfl, middleBelow, inside⟩
  rcases Shape.contains_cons_iff.mp inside with ⟨inner, tail, rfl, innerBelow, inside⟩
  rcases Shape.contains_cons_iff.mp inside with ⟨slot, tail, rfl, slotBelow, inside⟩
  obtain rfl := Shape.contains_nil_iff.mp inside
  obtain rfl : middle = 0 := Nat.lt_one_iff.mp middleBelow
  rw [smallGet 0 block inner slot Nat.one_pos blockBelow innerBelow slotBelow,
    maskGet row block inner slot below blockBelow innerBelow slotBelow,
    Blocks.sees_congr cut (keptAt_row paddingRow sizes) blockBelow slotBelow]

end Padding

theorem additiveMask_row {mask maskPart terms : TypedTensor α}
    (maskRow : TypedTensor.IsRow batch row count maskPart mask) (below : row < batch)
    (made : additiveMask .float32 mask = .ok terms) :
    ∃ small, additiveMask .float32 maskPart = .ok small ∧
      TypedTensor.IsRow batch row 3 small terms := by
  have rankEq := maskRow.rank_whole
  unfold additiveMask at made ⊢
  rw [maskRow.rank_eq, maskRow.elementType]
  split at made
  · rename_i four
    cases made
    obtain rfl : count = 3 := by omega
    rw [if_pos four]
    exact ⟨_, rfl, maskRow.convert below _⟩
  · rename_i notFour
    rw [if_neg notFour]
    split at made
    · contradiction
    · rename_i two
      obtain rfl : count = 1 := by omega
      rw [if_neg two, if_neg (by decide)]
      rw [if_neg (by decide)] at made
      cases made
      refine ⟨_, rfl, rfl, ?_⟩
      have keptRow : Tensor.IsRow batch row 1
          (if mask.elementType = .bool then maskPart.truth
            else maskPart.tensor.map Arithmetic.isPositive)
          (if mask.elementType = .bool then mask.truth
            else mask.tensor.map Arithmetic.isPositive) := by
        split
        · exact maskRow.truth below
        · exact maskRow.tensor.map below _
      exact ((keptRow.map below _).insertAxis below).insertAxis below

end CausalAttention
