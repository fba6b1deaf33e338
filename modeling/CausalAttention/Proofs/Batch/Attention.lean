import CausalAttention.Proofs.Attention
import CausalAttention.Proofs.Batch.Operands

/-!
Rows of a batch under the operations of attention. Attention that succeeds on a batch succeeds on
each of its rows, and gives the row of what it gives on the batch.
-/

set_option autoImplicit false

namespace CausalAttention

variable {α : Type} [Arithmetic α] {batch row count : Nat}

namespace TypedTensor

structure IsRow (batch row count : Nat) (part whole : TypedTensor α) : Prop where
  elementType : part.elementType = whole.elementType
  tensor : Tensor.IsRow batch row count part.tensor whole.tensor

section

variable {part whole result : TypedTensor α}

theorem isRow_slice {rest : Shape} (row : Nat) (sizes : whole.shape = batch :: rest) :
    IsRow batch row rest.length (whole.slice 0 row 1) whole :=
  ⟨rfl, Tensor.isRow_slice row sizes⟩

theorem IsRow.eq_slice (isRow : IsRow batch row count part whole) :
    part = whole.slice 0 row 1 := by
  rcases part with ⟨type, tensor⟩
  rcases isRow with ⟨types, tensors⟩
  subst types
  unfold slice
  rw [← tensors.eq_slice]

theorem IsRow.rank_part (isRow : IsRow batch row count part whole) : part.rank = count + 1 :=
  isRow.tensor.rank_part

theorem IsRow.rank_whole (isRow : IsRow batch row count part whole) : whole.rank = count + 1 :=
  isRow.tensor.rank_whole

theorem IsRow.rank_eq (isRow : IsRow batch row count part whole) : part.rank = whole.rank :=
  isRow.tensor.rank_eq

theorem IsRow.shape_ne (isRow : IsRow batch row count part whole) (below : row < batch) :
    whole.shape ≠ [0] := by
  rcases isRow.tensor with ⟨rest, _, wholeShape, _, _⟩
  intro flat
  have none : batch = 0 := (List.cons.inj (wholeShape.symm.trans flat)).1
  omega

theorem IsRow.convert (isRow : IsRow batch row count part whole) (below : row < batch)
    (type : ElementType) : IsRow batch row count (part.convert type) (whole.convert type) := by
  refine ⟨by rw [elementType_convert, elementType_convert], ?_⟩
  unfold TypedTensor.convert
  rw [isRow.elementType]
  split
  · exact isRow.tensor
  · exact isRow.tensor.map below _

theorem IsRow.relayout {newCount : Nat} (isRow : IsRow batch row count part whole)
    {change : Tensor α → Except Failure (Tensor α)}
    (partChange : Tensor α → Except Failure (Tensor α))
    (made : whole.relayout change = .ok result)
    (follows : ∀ tensor, change whole.tensor = .ok tensor →
      ∃ small, partChange part.tensor = .ok small ∧
        Tensor.IsRow batch row newCount small tensor) :
    ∃ small, part.relayout partChange = .ok small ∧ IsRow batch row newCount small result := by
  rcases exists_of_map_ok made with ⟨tensor, changed, rfl⟩
  rcases follows tensor changed with ⟨small, partChanged, smallRow⟩
  exact ⟨_, relayout_of_ok partChanged, isRow.elementType, smallRow⟩

theorem IsRow.softmax (isRow : IsRow batch row (count + 1) part whole) (below : row < batch) :
    IsRow batch row (count + 1) part.softmax whole.softmax := by
  refine ⟨isRow.elementType, ?_⟩
  unfold TypedTensor.softmax
  rw [isRow.elementType]
  exact isRow.tensor.mapRows below _

theorem IsRow.mapRowPairs (isRow : IsRow batch row (count + 1) part whole) (below : row < batch)
    {operation : List α → List α → Nat → α} {matrix : TypedTensor α} (square : matrix.rank = 2)
    (made : whole.mapRowPairs operation matrix = .ok result) :
    ∃ small, part.mapRowPairs operation matrix = .ok small ∧
      IsRow batch row (count + 1) small result := by
  have ranks := isRow.rank_eq
  rcases isRow.tensor.rows below with ⟨stack, stackLength, wholeFront, partFront, rowsSame⟩
  have lasts : part.shape.getLast? = whole.shape.getLast? := by
    rcases isRow.tensor with ⟨rest, length, wholeShape, partShape, _⟩
    rcases Shape.exists_concat length with ⟨front, last, _, rfl⟩
    change part.tensor.shape.getLast? = whole.tensor.shape.getLast?
    rw [wholeShape, partShape, ← List.cons_append, ← List.cons_append, List.getLast?_concat,
      List.getLast?_concat]
  unfold TypedTensor.mapRowPairs at made ⊢
  rw [isRow.elementType, ranks, lasts]
  split at made
  · contradiction
  · rename_i sameType
    split at made
    · contradiction
    · rename_i sizes
      cases made
      rw [if_neg sameType, if_neg sizes]
      refine ⟨_, rfl, rfl, ?_⟩
      have outputs : matrix.tensor.rows.shape.length = 1 := by
        rw [Tensor.shape_rows, List.length_dropLast]
        change matrix.rank - 1 = 1
        omega
      have wholeRank : whole.tensor.rows.rank = stack.length + 1 := congrArg List.length wholeFront
      have partRank : part.tensor.rows.rank = stack.length + 1 := congrArg List.length partFront
      have counted : (stack ++ matrix.tensor.rows.shape).length = count + 1 := by
        rw [List.length_append, stackLength, outputs]
      simp only [wholeFront, partFront, List.cons_append, wholeRank, partRank]
      apply Tensor.isRow_ofFn counted below
      intro index inside
      rcases Shape.contains_append_iff.mp inside with ⟨place, tail, rfl, outside, _⟩
      have taken : (place ++ tail).take stack.length = place := by simp [← outside.length_eq]
      simp only [List.take_succ_cons, List.drop_succ_cons, List.getD_cons_succ, taken]
      rw [rowsSame place outside]

theorem IsRow.linear (isRow : IsRow batch row (count + 1) part whole) (below : row < batch)
    {matrix : TypedTensor α} (square : matrix.rank = 2) (made : whole.linear matrix = .ok result) :
    ∃ small, part.linear matrix = .ok small ∧ IsRow batch row (count + 1) small result := by
  unfold TypedTensor.linear at made ⊢
  rw [isRow.elementType]
  exact isRow.mapRowPairs below square made

theorem IsRow.affine (isRow : IsRow batch row (count + 1) part whole) (below : row < batch)
    {matrix terms : TypedTensor α} (square : matrix.rank = 2)
    (made : whole.affine matrix terms = .ok result) :
    ∃ small, part.affine matrix terms = .ok small ∧ IsRow batch row (count + 1) small result := by
  unfold TypedTensor.affine at made ⊢
  rw [isRow.elementType]
  exact isRow.mapRowPairs below square made

end

theorem IsRow.count_eq_of_append {front frontPart back backPart joined : TypedTensor α}
    {frontCount : Nat} (frontRow : IsRow batch row frontCount frontPart front)
    (backRow : IsRow batch row count backPart back) (below : row < batch) {axis : Int}
    (made : front.append axis back = .ok joined) : frontCount = count := by
  have frontConverted := congrArg List.length (shape_convert (front.joinType back) front)
  have backConverted := congrArg List.length (shape_convert (front.joinType back) back)
  rcases append_of_ok made (frontRow.shape_ne below) (backRow.shape_ne below) with
    ⟨position, _, appended⟩
  have ranks : (front.convert (front.joinType back)).tensor.shape.length =
      (back.convert (front.joinType back)).tensor.shape.length := (Tensor.append_agree appended).1
  have frontRank : front.shape.length = frontCount + 1 := frontRow.rank_whole
  have backRank : back.shape.length = count + 1 := backRow.rank_whole
  change (front.convert (front.joinType back)).tensor.shape.length = _ at frontConverted
  change (back.convert (front.joinType back)).tensor.shape.length = _ at backConverted
  omega

theorem IsRow.append {front frontPart back backPart joined : TypedTensor α} {frontCount : Nat}
    (frontRow : IsRow batch row frontCount frontPart front)
    (backRow : IsRow batch row count backPart back) (below : row < batch) {axis : Int} (place : Nat)
    (behind : (if axis < 0 then axis + (count + 1 : Nat) else axis) = (place + 1 : Nat))
    (within : place < count) (made : front.append axis back = .ok joined) :
    ∃ small, frontPart.append axis backPart = .ok small ∧
      IsRow batch row count small joined := by
  obtain rfl := frontRow.count_eq_of_append backRow below made
  have frontRank := frontRow.rank_whole
  have backRank := backRow.rank_whole
  have frontPartRank := frontRow.rank_part
  have backPartRank := backRow.rank_part
  have types : frontPart.joinType backPart = front.joinType back := by
    unfold joinType
    rw [frontRow.elementType, backRow.elementType, frontRow.rank_eq, backRow.rank_eq]
  rw [append_of_rank (by omega) (by omega) (by rw [frontRank]; exact behind) (by omega)] at made
  rcases exists_of_map_ok made with ⟨tensor, appended, rfl⟩
  rcases (frontRow.convert below (front.joinType back)).tensor.append
    (backRow.convert below (front.joinType back)).tensor below within appended with
    ⟨small, partAppended, smallRow⟩
  refine ⟨⟨front.joinType back, small⟩, ?_, rfl, smallRow⟩
  rw [append_of_rank (by omega) (by omega) (by rw [frontPartRank]; exact behind) (by omega), types,
    partAppended]
  rfl

structure Alongside (batch row count : Nat) (part whole : TypedTensor α) : Prop where
  elementType : part.elementType = whole.elementType
  rank : part.rank = whole.rank
  convert : ∀ type, Tensor.Alongside batch row count (part.convert type).tensor
    (whole.convert type).tensor

theorem IsRow.alongside {part whole : TypedTensor α} (isRow : IsRow batch row count part whole)
    (below : row < batch) : Alongside batch row count part whole :=
  ⟨isRow.elementType, isRow.rank_eq, fun type => (isRow.convert below type).tensor.alongside below⟩

theorem alongside_short {typed : TypedTensor α} (short : typed.rank ≤ count) :
    Alongside batch row count typed typed := by
  refine ⟨rfl, rfl, fun type => Tensor.alongside_short ?_⟩
  have converted : (typed.convert type).tensor.rank = typed.rank :=
    congrArg List.length (shape_convert type typed)
  rw [converted]
  exact short

section

variable {left leftPart right rightPart result : TypedTensor α}

theorem joinType_eq (leftRow : IsRow batch row count leftPart left)
    (rightAlong : Alongside batch row count rightPart right) :
    leftPart.joinType rightPart = left.joinType right := by
  unfold joinType
  rw [leftRow.elementType, rightAlong.elementType, leftRow.rank_eq, rightAlong.rank]

theorem IsRow.combine (leftRow : IsRow batch row count leftPart left)
    (rightAlong : Alongside batch row count rightPart right) (below : row < batch)
    {operation : ElementType → α → α → α} (made : left.combine operation right = .ok result) :
    ∃ small, leftPart.combine operation rightPart = .ok small ∧
      IsRow batch row count small result := by
  rcases exists_of_map_ok made with ⟨tensor, combined, rfl⟩
  rcases (leftRow.convert below _).tensor.combine (rightAlong.convert _) below combined with
    ⟨small, partCombined, smallRow⟩
  refine ⟨⟨left.joinType right, small⟩, ?_, rfl, smallRow⟩
  simp only [TypedTensor.combine, joinType_eq leftRow rightAlong, partCombined, Except.map]

theorem IsRow.multiply {factors : TypedTensor α} (leftRow : IsRow batch row count leftPart left)
    (short : factors.rank ≤ count) (below : row < batch)
    (made : left.multiply factors = .ok result) :
    ∃ small, leftPart.multiply factors = .ok small ∧ IsRow batch row count small result := by
  have factorsAlong : Alongside batch row count factors factors := alongside_short short
  unfold TypedTensor.multiply at made ⊢
  rw [joinType_eq leftRow factorsAlong]
  by_cases single : (left.joinType factors).accumulator ≠ left.joinType factors ∧
      Shape.volume factors.shape = 1
  · rw [if_pos single] at made ⊢
    rcases exists_of_map_ok made with ⟨tensor, combined, rfl⟩
    rcases (leftRow.convert below _).tensor.combine (factorsAlong.convert _) below combined with
      ⟨small, partCombined, smallRow⟩
    refine ⟨⟨left.joinType factors, small⟩, ?_, rfl, smallRow⟩
    simp only [TypedTensor.scale, joinType_eq leftRow factorsAlong, partCombined, Except.map]
  · rw [if_neg single] at made ⊢
    exact leftRow.combine factorsAlong below made

theorem elementType_of_product (made : left.product right = .ok result) :
    left.elementType = right.elementType := by
  unfold TypedTensor.product at made
  split at made
  · contradiction
  · split at made
    · contradiction
    · rename_i same
      exact Decidable.not_not.mp same

theorem type_of_product (made : left.product right = .ok result) :
    result.elementType = left.elementType := by
  unfold TypedTensor.product at made
  split at made
  · contradiction
  · split at made
    · contradiction
    · rcases exists_of_bind_ok made with ⟨full, _, made⟩
      simp only at made
      split at made
      · contradiction
      · rcases exists_of_bind_ok made with ⟨grouped, _, made⟩
        cases made
        rfl

theorem IsRow.product (leftRow : IsRow batch row (count + 2) leftPart left)
    (rightRow : IsRow batch row (count + 2) rightPart right) (below : row < batch)
    (made : left.product right = .ok result) :
    ∃ small, leftPart.product rightPart = .ok small ∧ IsRow batch row (count + 2) small result := by
  have sameType := elementType_of_product made
  have partType : leftPart.elementType = rightPart.elementType := by
    rw [leftRow.elementType, rightRow.elementType, sameType]
  have leftRank := leftRow.rank_whole
  have rightRank := rightRow.rank_whole
  have leftPartRank := leftRow.rank_part
  have rightPartRank := rightRow.rank_part
  rw [product_eq (by omega) (by omega) sameType] at made
  rcases exists_of_bind_ok made with ⟨full, multiplied, made⟩
  rcases stackedProduct_row leftRow.tensor rightRow.tensor below multiplied with
    ⟨small, partMultiplied, smallRow⟩
  have multiplies_eq : multiplies leftPart.tensor rightPart.tensor small =
      multiplies left.tensor right.tensor full := by
    have axisEq : count + 2 + 1 - 1 = (count + 1) + 1 := by omega
    have volumes : decide (Shape.volume small.shape ≠ 0) = decide (Shape.volume full.shape ≠ 0) :=
      decide_eq_decide.mpr (not_congr (smallRow.volume_iff below))
    unfold multiplies
    rw [leftRow.tensor.rank_part, leftRow.tensor.rank_whole, rightRow.tensor.rank_part,
      rightRow.tensor.rank_whole, axisEq, leftRow.tensor.extent_eq, volumes]
  refine ⟨⟨left.elementType, small⟩, ?_, ?_⟩
  · rw [product_eq (by omega) (by omega) partType, leftRow.elementType, partMultiplied]
    simp only [bind, Except.bind, pure, Except.pure, multiplies_eq] at made ⊢
    split at made
    · contradiction
    · rename_i multiplies
      rw [if_neg multiplies]
  · simp only [bind, Except.bind, pure, Except.pure] at made
    split at made
    · contradiction
    · cases made
      exact ⟨rfl, smallRow⟩

end

theorem IsRow.dropout {part whole result : TypedTensor α} (isRow : IsRow batch row count part whole)
    {dropout : Dropout α} (undrawn : dropout = .keepAll ∨ dropout = .undefinedRate)
    (made : dropout.apply whole = .ok result) :
    ∃ small, dropout.apply part = .ok small ∧ IsRow batch row count small result := by
  rcases undrawn with rfl | rfl
  · cases made
    exact ⟨part, rfl, isRow⟩
  · contradiction

end TypedTensor

namespace Attended

open TypedTensor

variable {query queryPart key keyPart value valuePart : TypedTensor α}
  {visible visiblePart : Tensor Bool} {maskedBias : TypedTensor α}

theorem maskedScores_row (queryRow : IsRow batch row (count + 2) queryPart query)
    (keyRow : IsRow batch row (count + 2) keyPart key)
    (visibleAlong : Tensor.Alongside batch row (count + 2) visiblePart visible)
    (single : maskedBias.shape = []) (below : row < batch) {scores : TypedTensor α}
    (made : maskedScores query key visible maskedBias = .ok scores) :
    ∃ small, maskedScores queryPart keyPart visiblePart maskedBias = .ok small ∧
      IsRow batch row (count + 2) small scores := by
  rcases exists_of_bind_ok made with ⟨columns, turned, made⟩
  rcases exists_of_bind_ok made with ⟨products, multiplied, made⟩
  rcases exists_of_bind_ok made with ⟨chosen, chose, made⟩
  cases made
  obtain ⟨columnsPart, partTurned, columnsRow⟩ :=
    (keyRow.convert below .float32).relayout Tensor.transpose turned fun tensor changed => by
        rcases (keyRow.convert below .float32).tensor.transpose below with
          ⟨small, other, smallTurned, otherTurned, smallRow⟩
        obtain rfl : other = tensor := Except.ok.inj (otherTurned.symm.trans changed)
        exact ⟨small, smallTurned, smallRow⟩
  rcases (queryRow.convert below .float32).product columnsRow below multiplied with
    ⟨productsPart, partMultiplied, productsRow⟩
  have short : ((maskedBias.convert .float32).tensor.map (Arithmetic.atLeast
      (Arithmetic.ofInteger .float32 Arithmetic.lowestSingle))).rank ≤ count + 2 := by
    have flat : (maskedBias.convert .float32).tensor.shape = [] :=
      (shape_convert _ maskedBias).trans single
    change (maskedBias.convert .float32).tensor.shape.length ≤ count + 2
    rw [flat]
    exact Nat.zero_le _
  rcases productsRow.tensor.choose visibleAlong (Tensor.alongside_short short) below chose with
    ⟨chosenPart, partChose, chosenRow⟩
  refine ⟨⟨.float32, chosenPart⟩, ?_, rfl, chosenRow⟩
  simp only [maskedScores, partTurned, partMultiplied, partChose, bind, Except.bind, pure,
    Except.pure]

theorem ofMasked_row (queryRow : IsRow batch row (count + 2) queryPart query)
    (keyRow : IsRow batch row (count + 2) keyPart key)
    (valueRow : IsRow batch row (count + 2) valuePart value)
    (visibleAlong : Tensor.Alongside batch row (count + 2) visiblePart visible)
    (single : maskedBias.shape = []) {dropout : Dropout α}
    (undrawn : dropout = .keepAll ∨ dropout = .undefinedRate)
    {additive additivePart headMask : Option (TypedTensor α)}
    (additiveRow : Option.Rel (IsRow batch row (count + 2)) additivePart additive)
    (short : ∀ factors ∈ headMask, factors.rank ≤ count + 2) (below : row < batch)
    {attended : Attended α}
    (made : ofMasked query key value visible maskedBias dropout additive headMask =
      .ok attended) :
    ∃ small, ofMasked queryPart keyPart valuePart visiblePart maskedBias dropout additivePart
        headMask = .ok small ∧
      IsRow batch row (count + 2) small.output attended.output ∧
      IsRow batch row (count + 2) small.weights attended.weights := by
  rw [ofMasked_eq] at made ⊢
  rcases exists_of_bind_ok made with ⟨masked, maskedMade, made⟩
  rcases exists_of_bind_ok made with ⟨scores, scoresMade, made⟩
  rcases exists_of_bind_ok made with ⟨retained, kept, made⟩
  rcases exists_of_bind_ok made with ⟨weights, weighed, made⟩
  rcases exists_of_bind_ok made with ⟨output, mixed, made⟩
  cases made
  rcases maskedScores_row queryRow keyRow visibleAlong single below maskedMade with
    ⟨maskedPart, partMasked, maskedRow⟩
  obtain ⟨scoresPart, partScores, scoresRow⟩ : ∃ scoresPart,
      additivePart.elim (.ok maskedPart) maskedPart.add = .ok scoresPart ∧
        IsRow batch row (count + 2) scoresPart scores := by
    cases additiveRow with
    | none =>
        cases scoresMade
        exact ⟨maskedPart, rfl, maskedRow⟩
    | some termsRow => exact maskedRow.combine (termsRow.alongside below) below scoresMade
  have normalisedRow := (scoresRow.softmax below).convert below value.elementType
  rcases normalisedRow.dropout undrawn kept with ⟨retainedPart, partKept, retainedRow⟩
  obtain ⟨weightsPart, partWeighed, weightsRow⟩ : ∃ weightsPart,
      headMask.elim (.ok retainedPart) retainedPart.multiply = .ok weightsPart ∧
        IsRow batch row (count + 2) weightsPart weights := by
    cases headMask with
    | none =>
        cases weighed
        exact ⟨retainedPart, rfl, retainedRow⟩
    | some factors => exact retainedRow.multiply (short factors rfl) below weighed
  rcases weightsRow.product valueRow below mixed with ⟨outputPart, partMixed, outputRow⟩
  refine ⟨⟨outputPart, weightsPart⟩, ?_, outputRow, weightsRow⟩
  simp only [partMasked, partScores, valueRow.elementType, partKept, partWeighed, partMixed, bind,
    Except.bind, pure, Except.pure]

end Attended

end CausalAttention
