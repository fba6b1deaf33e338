import CausalAttention.Proofs.Heads.Features
import CausalAttention.Proofs.Layer.Operands

/-!
The operands of the heads. A layer makes them from its input and its learned matrices, and those at
a head are made by the rows of the matrices that belong to the head.
-/

set_option autoImplicit false

namespace CausalAttention

/-- Parameters of which the projections agree in the rows of a head. -/
structure Parameters.AgreeAt {α : Type} [Arithmetic α] (size head : Nat)
    (left right : Parameters α) : Prop where
  query : TypedTensor.Related (Shape.RowOfHead size head) Eq left.query right.query
  key : TypedTensor.Related (Shape.RowOfHead size head) Eq left.key right.key
  value : TypedTensor.Related (Shape.RowOfHead size head) Eq left.value right.value

theorem Parameters.agreeAt_self {α : Type} [Arithmetic α] {size head : Nat}
    (parameters : Parameters α) : parameters.AgreeAt size head parameters :=
  ⟨TypedTensor.related_self _ _, TypedTensor.related_self _ _, TypedTensor.related_self _ _⟩

namespace Operands

variable {α : Type} [Arithmetic α] {heads size head : Nat}

/-- Operands that agree at a head, and in what all heads share. -/
structure Related (heads head : Nat) (left right : Operands α) : Prop where
  query : TypedTensor.Related (Shape.AtHead heads head) Eq left.query right.query
  key : TypedTensor.Related (Shape.AtHead heads head) Eq left.key right.key
  value : TypedTensor.Related (Shape.AtHead heads head) Eq left.value right.value
  visible : right.visible = left.visible
  additive : right.additive = left.additive

theorem related_self (operands : Operands α) : Related heads head operands operands :=
  ⟨TypedTensor.related_self _ _, TypedTensor.related_self _ _, TypedTensor.related_self _ _, rfl,
    rfl⟩

structure FeaturesRelated (type : ElementType) (size head : Nat) (left right : Operands α) :
    Prop where
  query : TypedTensor.Related (Shape.OfHead size head) Eq left.query right.query
  key : TypedTensor.Related (Shape.OfHead size head) Eq left.key right.key
  value : TypedTensor.Related (Shape.OfHead size head) Eq left.value right.value
  visible : right.visible = left.visible
  additive : right.additive = left.additive
  queryType : left.query.elementType = type
  keyType : left.key.elementType = type
  valueType : left.value.elementType = type

structure Split (heads size : Nat) (operands : Operands α) : Prop where
  query : Shape.HasHeads heads operands.query.shape
  key : Shape.HasHeads heads operands.key.shape
  value : Shape.HasHeads heads operands.value.shape
  features : operands.value.shape.getLast? = some size

end Operands

namespace Layer

open TypedTensor

variable {α : Type} [Arithmetic α] {layer : Layer α} {type : ElementType} {heads size head : Nat}
  {parameters : Parameters α} {input : LayerInput α} {operands : Operands α}

theorem extendKeysValues_related {past : Option (Cache α)}
    {key keyOther value valueOther : TypedTensor α} {extended : TypedTensor α × TypedTensor α}
    {front other : Shape} {rows lines : Nat}
    (keyRelated : Related (Shape.AtHead heads head) Eq key keyOther)
    (valueRelated : Related (Shape.AtHead heads head) Eq value valueOther)
    (keySizes : key.shape = front ++ [heads, rows, size])
    (valueSizes : value.shape = other ++ [heads, lines, size])
    (made : extendKeysValues past key value = .ok extended) :
    ∃ keys values, extendKeysValues past keyOther valueOther = .ok (keys, values) ∧
      Related (Shape.AtHead heads head) Eq extended.1 keys ∧
      Related (Shape.AtHead heads head) Eq extended.2 values ∧
      (∃ count, extended.1.shape = front ++ [heads, count, size]) ∧
      ∃ count, extended.2.shape = other ++ [heads, count, size] := by
  match past with
  | none =>
      cases made
      exact ⟨keyOther, valueOther, rfl, keyRelated, valueRelated, ⟨rows, keySizes⟩, lines,
        valueSizes⟩
  | some [pastKey, pastValue] =>
      rcases exists_of_bind_ok made with ⟨keys, keysMade, made⟩
      rcases exists_of_bind_ok made with ⟨values, valuesMade, made⟩
      cases made
      rcases keyRelated.append_positions keySizes keysMade with
        ⟨keysOther, otherKeys, keysRelated, keysShape⟩
      rcases valueRelated.append_positions valueSizes valuesMade with
        ⟨valuesOther, otherValues, valuesRelated, valuesShape⟩
      refine ⟨keysOther, valuesOther, ?_, keysRelated, valuesRelated, keysShape, valuesShape⟩
      simp only [extendKeysValues, otherKeys, otherValues, bind, Except.bind, pure, Except.pure]
  | some [] => contradiction
  | some [_] => contradiction
  | some (_ :: _ :: _ :: _) => contradiction

theorem Regular.heads_related (regular : layer.Regular type heads size) (below : head < heads)
    {states matrix other features result : TypedTensor α}
    (matrixSized : matrix.Sized type [heads * size, heads * size])
    (agree : Related (Shape.RowOfHead size head) Eq matrix other)
    (made : states.linear matrix = .ok features) (splits : layer.split features = .ok result) :
    ∃ small held, states.linear other = .ok small ∧ layer.split small = .ok held ∧
      Related (Shape.AtHead heads head) Eq result held ∧
      ∃ front rows, front ≠ [] ∧ result.shape = front ++ [heads, rows, size] := by
  rcases agree.linear matrixSized.shape_eq made with ⟨small, smallMade, smallRelated, typed⟩
  rcases regular.split_related below smallRelated (typed.trans matrixSized.type_eq) splits with
    ⟨held, heldMade, heldRelated⟩
  exact ⟨small, held, smallMade, heldMade, heldRelated, regular.shape_of_split splits⟩

theorem Regular.globalOperands_related (regular : layer.Regular type heads size)
    (below : head < heads) (agree : layer.parameters.AgreeAt size head parameters) {limit : Nat}
    (made : layer.globalOperands limit input = .ok operands) :
    ∃ others, ({ layer with parameters } : Layer α).globalOperands limit input = .ok others ∧
      operands.Related heads head others ∧ operands.Split heads size := by
  rcases exists_of_bind_ok made with ⟨queryFeatures, queryMade, made⟩
  rcases exists_of_bind_ok made with ⟨keyFeatures, keyMade, made⟩
  rcases exists_of_bind_ok made with ⟨valueFeatures, valueMade, made⟩
  rcases exists_of_bind_ok made with ⟨query, querySplit, made⟩
  rcases exists_of_bind_ok made with ⟨newKey, keySplit, made⟩
  rcases exists_of_bind_ok made with ⟨newValue, valueSplit, made⟩
  rcases exists_of_bind_ok made with ⟨⟨key, value⟩, extended, made⟩
  obtain ⟨queryFeaturesOther, queryOther, otherQueryMade, otherQuerySplit, queryRelated,
      queryFront, queries, queryStacked, querySizes⟩ :=
    regular.heads_related below regular.parameters.query agree.query queryMade querySplit
  obtain ⟨keyFeaturesOther, newKeyOther, otherKeyMade, otherKeySplit, newKeyRelated, keyFront,
      newKeys, keyStacked, newKeySizes⟩ :=
    regular.heads_related below regular.parameters.key agree.key keyMade keySplit
  obtain ⟨valueFeaturesOther, newValueOther, otherValueMade, otherValueSplit, newValueRelated,
      valueFront, newValues, valueStacked, newValueSizes⟩ :=
    regular.heads_related below regular.parameters.value agree.value valueMade valueSplit
  obtain ⟨keyOther, valueOther, otherExtended, keyRelated, valueRelated, ⟨keys, keySizes⟩, values,
      valueSizes⟩ :=
    extendKeysValues_related newKeyRelated newValueRelated newKeySizes newValueSizes extended
  simp only at made keyRelated valueRelated keySizes valueSizes
  by_cases tooLong : limit < key.positionCount
  · rw [if_pos tooLong] at made
    contradiction
  · rw [if_neg tooLong] at made
    rcases exists_of_bind_ok made with ⟨additive, additiveMade, made⟩
    cases made
    refine ⟨⟨queryOther, keyOther, valueOther,
      causalMask queryOther.positionCount keyOther.positionCount, additive⟩, ?_,
      ⟨queryRelated, keyRelated, valueRelated, ?_, rfl⟩, ?_⟩
    · have sameSplit : ({ layer with parameters } : Layer α).split = layer.split := rfl
      have short : ¬limit < keyOther.positionCount := by
        rw [keyRelated.positionCount]
        exact tooLong
      simp only [globalOperands, sameSplit, otherQueryMade, otherKeyMade, otherValueMade,
        otherQuerySplit, otherKeySplit, otherValueSplit, otherExtended, if_neg short, additiveMade,
        bind, Except.bind, pure, Except.pure]
    · simp only [queryRelated.positionCount, keyRelated.positionCount]
    · refine ⟨?_, ?_, ?_, by simp [valueSizes]⟩
      · rw [querySizes]
        exact Shape.hasHeads_of_append queryStacked
      · rw [keySizes]
        exact Shape.hasHeads_of_append keyStacked
      · rw [valueSizes]
        exact Shape.hasHeads_of_append valueStacked

theorem rank_of_extendHidden {past : Option (Cache α)} {hidden states : TypedTensor α}
    {count pastCount : Nat} (made : extendHidden past hidden count = .ok (states, pastCount))
    (tall : 2 ≤ hidden.rank) : states.rank = hidden.rank := by
  cases past with
  | none =>
      cases made
      rfl
  | some cache =>
      simp only [extendHidden] at made
      split at made
      · contradiction
      · cases cache with
        | nil => contradiction
        | cons first rest =>
            rcases exists_of_map_ok made with ⟨whole, joined, same⟩
            cases same
            exact rank_of_append joined tall

theorem sizes_of_states {past : Option (Cache α)} {hidden states matrix features : TypedTensor α}
    {batch count pastCount width : Nat} (sizes : hidden.shape = [batch, count, width])
    (extended : extendHidden past hidden count = .ok (states, pastCount))
    (matrixSizes : matrix.shape = [width, width]) (made : states.linear matrix = .ok features) :
    ∃ rows positions, states.shape = [rows, positions, width] := by
  rcases sizes_of_mapRowPairs matrixSizes made with ⟨stack, statesShape, _⟩
  have hiddenRank : hidden.rank = 3 := congrArg List.length sizes
  have statesRank : states.shape.length = 3 :=
    (rank_of_extendHidden extended (by omega)).trans hiddenRank
  rw [statesShape] at statesRank ⊢
  have stackLength : stack.length = 2 := by simpa using statesRank
  match stack, stackLength with
  | [rows, positions], _ => exact ⟨rows, positions, rfl⟩

/-- Hidden states without an axis for the features would be cut into single heads of one feature. -/
theorem Regular.features_of_several (regular : layer.Regular type heads size)
    (several : heads ≠ 1) {past : Option (Cache α)} {batch count pastCount window : Nat}
    {rest : Shape} {blocks : Blocks}
    {hidden states queryFeatures queryBlocks query keyFeatures keyWindows key : TypedTensor α}
    (sizes : hidden.shape = batch :: count :: rest)
    (queryMade : hidden.linear layer.parameters.query = .ok queryFeatures)
    (extended : extendHidden past hidden count = .ok (states, pastCount))
    (keyMade : states.linear layer.parameters.key = .ok keyFeatures)
    (cut : blocks.Cut (count + pastCount) window)
    (blocksMade : queryFeatures.relayout
      (Tensor.splitSequence (if past.isSome then ⟨1, 1⟩ else blocks : Blocks).count
        (if past.isSome then ⟨1, 1⟩ else blocks : Blocks).length (some layer.width)) =
          .ok queryBlocks)
    (keyLooked : windowFeatures blocks window keyFeatures = .ok keyWindows)
    (querySplit : layer.split queryBlocks = .ok query)
    (keySplit : layer.split (if past.isSome then keyWindows.takeLast 1 1 else keyWindows) =
      .ok key) :
    rest = [heads * size] := by
  rcases sizes_of_mapRowPairs regular.parameters.query.shape_eq queryMade with
    ⟨stack, hiddenSizes, featuresSizes⟩
  rcases exists_of_map_ok blocksMade with ⟨tensor, changed, rfl⟩
  rcases Tensor.sizes_of_splitSequence changed with
    ⟨rows, positions, flat, blocksShape⟩ | ⟨rows, positions, features, cube, _⟩
  · exfalso
    have wide : heads * size ≠ 1 := fun one => several (Nat.dvd_one.mp ⟨size, one.symm⟩)
    have stackEq : stack = [rows] := by
      simpa using congrArg List.dropLast (featuresSizes.symm.trans flat)
    have hiddenShape : hidden.shape = [rows, heads * size] := by rw [hiddenSizes, stackEq]; rfl
    -- The features of a head are counted along the positions of a block.
    rcases regular.sizes_of_split querySplit with ⟨outer, middle, _, splitSizes⟩
    have blockLast := congrArg List.getLast? (blocksShape.symm.trans splitSizes)
    cases past with
    | some cache =>
        have blockLength : 1 = heads * size := by simpa using blockLast
        exact wide blockLength.symm
    | none =>
        have blockLength : blocks.length = heads * size := by simpa using blockLast
        cases extended
        have keyShape : keyFeatures.tensor.shape = rows :: (heads * size) :: [] := by
          refine (shape_linear keyMade).trans ?_
          rw [hiddenShape, regular.parameters.key.shape_eq]
          rfl
        rcases exists_of_map_ok keyLooked with ⟨windows, looked, rfl⟩
        have known : ([] : Shape).length ≤ 1 := Nat.zero_le 1
        obtain ⟨again, againLooked, shows⟩ := Tensor.lookBack_shows known keyShape
          cut.lengthPositive (Nat.le_of_eq blockLength)
          (Arithmetic.ofInteger keyFeatures.elementType 0) true
        obtain rfl : windows = again := Except.ok.inj (looked.symm.trans againLooked)
        rcases regular.sizes_of_split keySplit with ⟨keyOuter, keyMiddle, _, keySizes⟩
        have windowLast := congrArg List.getLast? (shows.shape.symm.trans keySizes)
        have windowCount : heads * size / blocks.length = heads * size := by
          simpa [Tensor.windowPlace, Shape.swapAt] using windowLast
        have positive := cut.lengthPositive
        rw [blockLength, Nat.div_self (blockLength ▸ positive)] at windowCount
        exact wide windowCount.symm
  · have stackEq : stack = [rows, positions] := by
      simpa using congrArg List.dropLast (featuresSizes.symm.trans cube)
    have shapes := sizes.symm.trans hiddenSizes
    rw [stackEq] at shapes
    exact (List.cons.inj (List.cons.inj shapes).2).2

theorem windows_related {matrix other features windows : TypedTensor α}
    {states : TypedTensor α} {batch positions window width : Nat} {blocks : Blocks}
    (matrixSizes : matrix.shape = [width, width])
    (agree : Related (Shape.RowOfHead size head) Eq matrix other)
    (sizes : states.shape = [batch, positions, width]) (positive : 0 < blocks.length)
    (made : states.linear matrix = .ok features)
    (looked : windowFeatures blocks window features = .ok windows) (cached : Bool) :
    ∃ small shown, states.linear other = .ok small ∧
      windowFeatures blocks window small = .ok shown ∧
      Related (Shape.OfHead size head) Eq (if cached then windows.takeLast 1 1 else windows)
        (if cached then shown.takeLast 1 1 else shown) ∧
      (if cached then windows.takeLast 1 1 else windows).elementType = matrix.elementType := by
  rcases agree.linear matrixSizes made with ⟨small, smallMade, smallRelated, typed⟩
  have featuresShape : features.shape = [batch, positions, width] := by
    rw [shape_linear made, sizes, matrixSizes]
    rfl
  rcases smallRelated.windowFeatures featuresShape positive looked with
    ⟨shown, shownLooked, shownRelated, count, shownShape⟩
  have windowsType := (elementType_of_relayout looked).trans typed
  refine ⟨small, shown, smallMade, shownLooked, ?_⟩
  cases cached with
  | false => exact ⟨shownRelated, windowsType⟩
  | true =>
      have grouped : windows.tensor.shape = [batch, count, window + blocks.length] ++ [width] :=
        shownShape
      exact ⟨⟨shownRelated.elementType, shownRelated.tensor.takeLast 1 grouped (by simp)⟩,
        windowsType⟩

theorem requireWindowMask_related {marked : List Nat → Prop} {rel : α → α → Prop}
    {left right : TypedTensor α} (related : Related marked rel left right)
    (mask : Option (TypedTensor α)) :
    requireWindowMask mask right = requireWindowMask mask left := by
  have ranks : right.tensor.requireRank 2 3 = left.tensor.requireRank 2 3 := by
    unfold Tensor.requireRank Tensor.rank
    rw [related.tensor.shape]
  simp only [requireWindowMask, ranks]

theorem eq_of_rows {left right : TypedTensor α} {size columns : Nat}
    (related : Related (Shape.RowOfHead size 0) Eq left right)
    (sizes : left.shape = [size, columns]) : right = left := by
  rcases left with ⟨leftType, leftTensor⟩
  rcases right with ⟨rightType, rightTensor⟩
  obtain rfl : rightType = leftType := related.elementType
  refine congrArg (TypedTensor.mk rightType) (Tensor.ext_get related.tensor.shape ?_)
  intro index inside
  change Shape.Contains rightTensor.shape index at inside
  rw [show rightTensor.shape = leftTensor.shape from related.tensor.shape] at inside
  refine (related.tensor.entries index inside ?_).symm
  rw [show leftTensor.shape = [size, columns] from sizes] at inside
  rcases Shape.contains_cons_iff.mp inside with ⟨row, tail, rfl, below, _⟩
  exact Nat.div_eq_of_lt below

theorem Regular.localFeatures_of_single (regular : layer.Regular type heads size)
    (single : heads = 1) (below : head < heads)
    (agree : layer.parameters.AgreeAt size head parameters) (setting : Setting) :
    ({ layer with parameters } : Layer α).localFeatures setting input =
      layer.localFeatures setting input := by
  subst single
  obtain rfl : head = 0 := by omega
  have sized := regular.parameters
  rw [Nat.one_mul] at sized
  have query := eq_of_rows agree.query sized.query.shape_eq
  have key := eq_of_rows agree.key sized.key.shape_eq
  have value := eq_of_rows agree.value sized.value.shape_eq
  unfold localFeatures
  simp only [query, key, value]

theorem Regular.localFeatures_related (regular : layer.Regular type heads size)
    (several : heads ≠ 1) (agree : layer.parameters.AgreeAt size head parameters)
    {setting : Setting} {features : Operands α} {query key : TypedTensor α}
    (made : layer.localFeatures setting input = .ok features)
    (querySplit : layer.split features.query = .ok query)
    (keySplit : layer.split features.key = .ok key) :
    ∃ others, ({ layer with parameters } : Layer α).localFeatures setting input = .ok others ∧
      features.FeaturesRelated type size head others := by
  unfold localFeatures at made
  rcases sizes : input.hidden.shape with _ | ⟨batch, _ | ⟨count, rest⟩⟩
  · simp only [sizes] at made
    contradiction
  · simp only [sizes] at made
    contradiction
  simp only [sizes, pure_bind] at made
  rcases exists_of_bind_ok made with ⟨queryFeatures, queryMade, made⟩
  rcases exists_of_bind_ok made with ⟨⟨states, pastCount⟩, extended, made⟩
  rcases exists_of_bind_ok made with ⟨keyFeatures, keyMade, made⟩
  rcases exists_of_bind_ok made with ⟨valueFeatures, valueMade, made⟩
  rcases exists_of_bind_ok made with ⟨_, positive, made⟩
  rcases exists_of_bind_ok made with ⟨_, permitted, made⟩
  rcases exists_of_bind_ok made with ⟨window, windowRead, made⟩
  rcases exists_of_bind_ok made with ⟨blocks, found, made⟩
  by_cases empty : count + pastCount = 0
  · simp only [if_pos empty] at made
    contradiction
  · simp only [if_neg empty] at made
    rcases exists_of_bind_ok made with ⟨fullMask, masked, made⟩
    rcases exists_of_bind_ok made with ⟨queryBlocks, blocksMade, made⟩
    rcases exists_of_bind_ok made with ⟨keyWindows, keyLooked, made⟩
    rcases exists_of_bind_ok made with ⟨valueWindows, valueLooked, made⟩
    cases made
    obtain ⟨span, rfl, cut⟩ := Blocks.cut_of_ofSequence found empty
    obtain rfl : rest = [heads * size] := regular.features_of_several several sizes queryMade
      extended keyMade cut blocksMade keyLooked querySplit keySplit
    obtain ⟨queryFeaturesOther, otherQueryMade, featuresRelated, featuresType⟩ :=
      agree.query.linear regular.parameters.query.shape_eq queryMade
    have cutSizes : queryFeatures.tensor.shape = [batch, count, heads * size] := by
      refine (shape_linear queryMade).trans ?_
      rw [sizes, regular.parameters.query.shape_eq]
      rfl
    rw [regular.width] at blocksMade
    obtain ⟨queryBlocksOther, otherBlocksMade, blocksRelated⟩ :=
      featuresRelated.relayout blocksMade fun _ changed =>
        featuresRelated.tensor.splitSequence cutSizes changed
    rw [← regular.width] at otherBlocksMade
    have blocksType : queryBlocks.elementType = type := by
      rw [elementType_of_relayout blocksMade, featuresType, regular.parameters.query.type_eq]
    obtain ⟨rows, positions, statesSizes⟩ :=
      sizes_of_states sizes extended regular.parameters.key.shape_eq keyMade
    obtain ⟨keyFeaturesOther, keyWindowsOther, otherKeyMade, otherKeyLooked, keyRelated,
        keyType⟩ :=
      windows_related regular.parameters.key.shape_eq agree.key statesSizes cut.lengthPositive
        keyMade keyLooked input.past.isSome
    obtain ⟨valueFeaturesOther, valueWindowsOther, otherValueMade, otherValueLooked, valueRelated,
        valueType⟩ :=
      windows_related regular.parameters.value.shape_eq agree.value statesSizes
        cut.lengthPositive valueMade valueLooked input.past.isSome
    refine ⟨⟨queryBlocksOther, if input.past.isSome then keyWindowsOther.takeLast 1 1
      else keyWindowsOther, if input.past.isSome then valueWindowsOther.takeLast 1 1
      else valueWindowsOther, if input.past.isSome then (fullMask.takeLast 1 1).takeLast 3 1
      else fullMask, none⟩, ?_, blocksRelated, keyRelated, valueRelated, rfl,
      rfl, blocksType, keyType.trans regular.parameters.key.type_eq,
      valueType.trans regular.parameters.value.type_eq⟩
    simp only [localFeatures, sizes, otherQueryMade, extended, otherKeyMade,
      otherValueMade, positive, requireWindowMask_related featuresRelated, permitted, windowRead,
      found, if_neg empty, masked, otherBlocksMade, otherKeyLooked, otherValueLooked, bind,
      Except.bind, pure, Except.pure]

/-- Operands at a head are made from the rows of the matrices that belong to the head. -/
theorem Regular.operands_related (regular : layer.Regular type heads size) (below : head < heads)
    (agree : layer.parameters.AgreeAt size head parameters)
    (made : layer.operands input = .ok operands) :
    ∃ others, ({ layer with parameters } : Layer α).operands input = .ok others ∧
      operands.Related heads head others ∧ operands.Split heads size := by
  obtain ⟨reaches, reach⟩ : ∃ reaches, layer.reach = reaches := ⟨_, rfl⟩
  cases reaches with
  | everything limit =>
      have sameReach : ({ layer with parameters } : Layer α).reach = .everything limit := reach
      rw [operands_of_everything reach] at made
      rw [operands_of_everything sameReach]
      exact regular.globalOperands_related below agree made
  | window setting =>
      have sameReach : ({ layer with parameters } : Layer α).reach = .window setting := reach
      rw [operands_of_window reach] at made
      rw [operands_of_window sameReach]
      rcases exists_of_bind_ok made with ⟨features, featuresMade, splits⟩
      rcases exists_of_bind_ok splits with ⟨query, querySplit, made⟩
      rcases exists_of_bind_ok made with ⟨key, keySplit, made⟩
      rcases exists_of_bind_ok made with ⟨value, valueSplit, made⟩
      cases made
      have split : Operands.Split heads size { features with query, key, value } := by
        rcases regular.shape_of_split valueSplit with ⟨front, rows, _, valueShape⟩
        exact ⟨regular.hasHeads_of_split querySplit, regular.hasHeads_of_split keySplit,
          regular.hasHeads_of_split valueSplit, by simp [valueShape]⟩
      by_cases single : heads = 1
      · refine ⟨_, ?_, Operands.related_self _, split⟩
        rw [regular.localFeatures_of_single single below agree, featuresMade]
        exact splits
      · obtain ⟨others, otherMade, related⟩ :=
          regular.localFeatures_related single agree featuresMade querySplit keySplit
        obtain ⟨queryOther, otherQuerySplit, queryRelated⟩ :=
          regular.split_related below related.query related.queryType querySplit
        obtain ⟨keyOther, otherKeySplit, keyRelated⟩ :=
          regular.split_related below related.key related.keyType keySplit
        obtain ⟨valueOther, otherValueSplit, valueRelated⟩ :=
          regular.split_related below related.value related.valueType valueSplit
        refine ⟨{ others with query := queryOther, key := keyOther, value := valueOther }, ?_,
          ⟨queryRelated, keyRelated, valueRelated, related.visible, related.additive⟩, split⟩
        have sameSplit : ({ layer with parameters } : Layer α).split = layer.split := rfl
        simp only [otherMade, splitOperands, sameSplit, otherQuerySplit, otherKeySplit,
          otherValueSplit, bind, Except.bind, pure, Except.pure]

end Layer

end CausalAttention
