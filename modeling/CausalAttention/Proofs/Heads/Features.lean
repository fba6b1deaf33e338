import CausalAttention.Layer.Run
import CausalAttention.Proofs.Heads.Related
import CausalAttention.Proofs.Layer.Regular
import CausalAttention.Proofs.LookBack

/-!
Features of one head. They depend on the rows of a matrix that belong to the head, they stay with
the head where positions are moved, and splitting and merging take them to the entries at the head
and back.
-/

set_option autoImplicit false

namespace CausalAttention

namespace Shape

/-- An index whose last coordinate is a feature of a head. -/
def OfHead (size head : Nat) (index : List Nat) : Prop :=
  index.getLastD 0 / size = head

def RowOfHead (size head : Nat) (index : List Nat) : Prop :=
  index.headD 0 / size = head

theorem ofHead_concat {size head feature : Nat} {place : List Nat} :
    OfHead size head (place ++ [feature]) ↔ feature / size = head := by
  simp [OfHead]

theorem getLastD_indexAt {front back : Shape} {width : Nat} {index : List Nat}
    (inside : Contains (back ++ [width]) index)
    (fits : volume (front ++ [width]) = volume (back ++ [width])) :
    (indexAt (front ++ [width]) (offset (back ++ [width]) index)).getLastD 0 =
      index.getLastD 0 := by
  rcases inside.exists_concat with ⟨place, feature, rfl, outside, below⟩
  have bound := offset_lt_volume inside
  rw [← fits] at bound
  have placed := contains_indexAt bound
  have counted := offset_indexAt bound
  generalize indexAt (front ++ [width]) (offset (back ++ [width]) (place ++ [feature])) = source
    at placed counted ⊢
  rcases placed.exists_concat with ⟨other, found, rfl, elsewhere, foundBelow⟩
  rw [offset_append elsewhere, offset_append outside] at counted
  simp only [volume, offset, Nat.mul_one, Nat.add_zero] at counted
  have remainders : found % width = feature % width := by
    have taken := congrArg (· % width) counted
    simpa [Nat.mul_add_mod_of_lt, Nat.mul_comm _ width] using taken
  rw [Nat.mod_eq_of_lt foundBelow, Nat.mod_eq_of_lt below] at remainders
  simp [remainders]

end Shape

namespace Tensor

variable {α : Type} [Inhabited α] {marked : List Nat → Prop} {rel : α → α → Prop}
  {left right result small : Tensor α} {size head : Nat}

theorem Related.moved {others : List Nat → Prop} (related : Related marked rel left right)
    (sizes : small.shape = result.shape) (source : List Nat → List Nat)
    (moves : ∀ index, Shape.Contains result.shape index → others index →
      Shape.Contains left.shape (source index) ∧ marked (source index) ∧
        result.get index = left.get (source index) ∧ small.get index = right.get (source index)) :
    Related others rel result small := by
  refine ⟨sizes, ?_⟩
  intro index inside place
  rcases moves index inside place with ⟨within, sourcePlace, resultGet, smallGet⟩
  rw [resultGet, smallGet]
  exact related.entries _ within sourcePlace

theorem Related.swapAxes {others : List Nat → Prop} {axis : Nat}
    (related : Related marked rel left right)
    (places : ∀ index, others index → marked (Shape.swapAt axis index)) :
    Related others rel (left.swapAxes axis) (right.swapAxes axis) := by
  have swapped : (right.swapAxes axis).shape = (left.swapAxes axis).shape :=
    congrArg (Shape.swapAt axis) related.shape
  refine related.moved swapped (Shape.swapAt axis) ?_
  intro index inside place
  have back := Shape.contains_swapAt axis inside
  rw [shape_swapAxes, Shape.swapAt_swapAt] at back
  refine ⟨back, places index place, get_swapAxes inside, get_swapAxes ?_⟩
  rw [related.shape]
  exact inside

theorem Related.reshape {others : List Nat → Prop} {sizes : List Int}
    (related : Related marked rel left right) (made : left.reshape sizes = .ok result)
    (places : ∀ index, Shape.Contains result.shape index → others index →
      marked (Shape.indexAt left.shape (Shape.offset result.shape index))) :
    ∃ small, right.reshape sizes = .ok small ∧ Related others rel result small := by
  have inferred := infer?_of_reshape made
  have fits := volume_of_reshape made
  rw [← related.shape] at inferred fits
  rcases exists_reshape inferred fits with ⟨small, smallMade, smallShape⟩
  refine ⟨small, smallMade, related.moved smallShape
    (fun index => Shape.indexAt left.shape (Shape.offset result.shape index)) ?_⟩
  intro index inside place
  have within : Shape.Contains small.shape index := by
    rw [smallShape]
    exact inside
  have bound := Shape.offset_lt_volume inside
  rw [← volume_of_reshape made] at bound
  refine ⟨Shape.contains_indexAt bound, places index inside place, get_reshape made inside, ?_⟩
  rw [get_reshape smallMade within, smallShape, related.shape]

/-- Regrouping of the positions keeps every entry with its feature. -/
theorem Related.reshape_positions {front back : Shape} {width : Nat} {sizes : List Int}
    (related : Related (Shape.OfHead size head) rel left right)
    (leftSizes : left.shape = front ++ [width]) (made : left.reshape sizes = .ok result)
    (resultSizes : result.shape = back ++ [width]) :
    ∃ small, right.reshape sizes = .ok small ∧
      Related (Shape.OfHead size head) rel result small := by
  refine related.reshape made ?_
  intro index inside ofHead
  have volumes := volume_of_reshape made
  rw [leftSizes, resultSizes] at volumes ⊢
  rw [resultSizes] at inside
  exact (congrArg (· / size) (Shape.getLastD_indexAt inside volumes)).trans ofHead

theorem Related.takeLast {front : Shape} {width axis : Nat} (count : Nat)
    (related : Related (Shape.OfHead size head) rel left right)
    (sizes : left.shape = front ++ [width]) (within : axis < front.length) :
    Related (Shape.OfHead size head) rel (left.takeLast axis count)
      (right.takeLast axis count) := by
  have extents : right.extent axis = left.extent axis := by
    unfold extent
    rw [related.shape]
  have shapes : (right.takeLast axis count).shape = (left.takeLast axis count).shape := by
    rw [shape_takeLast, shape_takeLast, extents, related.shape]
  refine related.moved shapes (fun index => index.set axis
    (index.getD axis 0 + (left.extent axis - min count (left.extent axis)))) ?_
  intro index inside ofHead
  have again := inside
  rw [← shapes] at again
  refine ⟨?_, ?_, get_takeLast inside, by rw [get_takeLast again, extents]⟩
  · rw [shape_takeLast] at inside
    have axisBelow : axis < left.shape.length := by
      rw [sizes, List.length_append]
      exact Nat.lt_add_right _ within
    have bound := Shape.Contains.getD_set_lt axisBelow inside
    refine inside.of_set ?_
    change _ < left.extent axis
    omega
  · rw [shape_takeLast, sizes, List.set_append_left _ _ within] at inside
    rcases inside.exists_concat with ⟨place, feature, rfl, outside, _⟩
    have placed : axis < place.length := by
      rw [outside.length_eq, List.length_set]
      exact within
    rw [List.set_append_left _ _ placed, Shape.ofHead_concat]
    exact Shape.ofHead_concat.mp ofHead

theorem Related.append {front joined : Tensor α} {axis : Nat}
    (related : Related marked Eq left right) (within : axis < left.rank)
    (kept : ∀ index, Shape.Contains joined.shape index → marked index →
      ∀ coordinate, marked (index.set axis coordinate))
    (made : front.append axis left = .ok joined) :
    ∃ small, front.append axis right = .ok small ∧ Related marked Eq joined small := by
  rcases append_agree made with ⟨ranks, others⟩
  have extents : right.extent axis = left.extent axis := by
    unfold extent
    rw [related.shape]
  have agree : ¬(front.rank ≠ right.rank ∨ front.shape.set axis 0 ≠ right.shape.set axis 0) := by
    unfold rank at ranks ⊢
    rw [related.shape]
    simp [ranks, others]
  cases appended : front.append axis right with
  | error failure =>
      rw [Tensor.append, if_neg agree] at appended
      contradiction
  | ok small =>
      have joinedShape := shape_append made
      have smallShape : small.shape = joined.shape := by
        rw [shape_append appended, joinedShape, extents]
      refine ⟨small, rfl, smallShape, ?_⟩
      intro index inside place
      have again := inside
      rw [← smallShape] at again
      rw [get_append made inside, get_append appended again]
      split
      · rfl
      · rename_i late
        refine related.entries _ ?_ (kept index inside place _)
        rw [joinedShape] at inside
        have frontWithin : axis < front.rank := by
          rw [ranks]
          exact within
        have bound := Shape.Contains.getD_set_lt frontWithin inside
        have resized : front.shape.set axis (front.extent axis + left.extent axis) =
            left.shape.set axis (front.extent axis + left.extent axis) := by
          have both := congrArg (fun shape : Shape => shape.set axis
            (front.extent axis + left.extent axis)) others
          simpa only [List.set_set] using both
        rw [resized] at inside
        refine inside.of_set ?_
        change _ < left.extent axis
        omega

theorem sizes_of_splitHeads {tensor : Tensor α} {heads size : Nat}
    (made : tensor.splitHeads heads size = .ok result) :
    ∃ outer positions, (outer.length = 1 ∨ outer.length = 2) ∧
      tensor.shape = outer ++ [positions, heads * size] := by
  rcases exists_of_bind_ok made with ⟨requested, sized, _⟩
  rcases exists_of_bind_ok sized with ⟨_, ranked, sized⟩
  have known : tensor.shape.length = 3 ∨ tensor.shape.length = 4 := requireRank_eq_ok ranked
  obtain ⟨many, counted⟩ : ∃ many, tensor.shape.length = many + 1 + 1 :=
    ⟨tensor.shape.length - 2, by omega⟩
  rcases Shape.exists_concat counted with ⟨front, features, frontLength, sizes⟩
  rcases Shape.exists_concat frontLength with ⟨outer, positions, outerLength, rfl⟩
  have last : tensor.extent (tensor.rank - 1) = features := by
    unfold extent rank
    rw [sizes]
    simp
  simp only [last] at sized
  split at sized
  · contradiction
  · rename_i covered
    have featuresEq : features = heads * size := by
      have covers := Decidable.not_not.mp covered
      rw [← Int.natCast_mul] at covers
      exact Int.ofNat_inj.mp covers
    refine ⟨outer, positions, by omega, ?_⟩
    rw [sizes, featuresEq, List.append_assoc]
    rfl

omit [Inhabited α] in
theorem sizes_of_splitSequence {tensor : Tensor α} {count length width : Nat}
    (made : tensor.splitSequence count length (some (width : Int)) = .ok result) :
    (∃ batch positions, tensor.shape = [batch, positions] ∧ result.shape = [batch, count, length]) ∨
      ∃ batch positions features, tensor.shape = [batch, positions, features] ∧
        result.shape = [batch, count, length, width] := by
  rcases exists_of_bind_ok made with ⟨requested, sized, regrouped⟩
  unfold sequenceSizes at sized
  match sizes : tensor.shape with
  | [] =>
      simp only [sizes] at sized
      contradiction
  | [_] =>
      simp only [sizes] at sized
      contradiction
  | [batch, positions] =>
      simp only [sizes] at sized
      cases sized
      have requested : tensor.reshape (([batch, count, length] : Shape).map
          fun (size : Nat) => (size : Int)) = .ok result := regrouped
      exact Or.inl ⟨batch, positions, rfl, shape_of_reshape requested⟩
  | [batch, positions, features] =>
      simp only [sizes] at sized
      cases sized
      have requested : tensor.reshape (([batch, count, length, width] : Shape).map
          fun (size : Nat) => (size : Int)) = .ok result := regrouped
      exact Or.inr ⟨batch, positions, features, rfl, shape_of_reshape requested⟩
  | _ :: _ :: _ :: _ :: _ =>
      simp only [sizes] at sized
      contradiction

theorem Related.splitSequence {batch positions count length width : Nat}
    (related : Related (Shape.OfHead size head) rel left right)
    (sizes : left.shape = [batch, positions, width])
    (made : left.splitSequence count length (some (width : Int)) = .ok result) :
    ∃ small, right.splitSequence count length (some (width : Int)) = .ok small ∧
      Related (Shape.OfHead size head) rel result small := by
  have requested {tensor : Tensor α} (shapeEq : tensor.shape = [batch, positions, width]) :
      tensor.splitSequence count length (some (width : Int)) =
        tensor.reshape (([batch, count, length, width] : Shape).map
          fun (size : Nat) => (size : Int)) := by
    simp only [Tensor.splitSequence, sequenceSizes, shapeEq, bind, Except.bind]
    rfl
  rw [requested sizes] at made
  rw [requested (related.shape.trans sizes)]
  have grouped : left.shape = [batch, positions] ++ [width] := sizes
  have blocked : result.shape = [batch, count, length] ++ [width] := shape_of_reshape made
  exact related.reshape_positions grouped made blocked

theorem Related.mergeHeads {front : Shape} {many rows heads : Nat}
    (related : Related (Shape.AtHead heads head) rel left right)
    (sizes : left.shape = front ++ [many, rows, size]) (known : heads = 1 ∨ many = heads)
    (made : left.mergeHeads heads size = .ok result) :
    ∃ small, right.mergeHeads heads size = .ok small ∧
      Related (Shape.OfHead size head) rel result small ∧
      ∃ stack, result.shape = stack ++ [heads * size] := by
  have rightSizes := related.shape.trans sizes
  have same := made
  rcases exists_of_bind_ok made with ⟨requested, sized, regrouped⟩
  rcases exists_of_bind_ok sized with ⟨_, ranked, requestedEq⟩
  have frontLength : front.length = 1 ∨ front.length = 2 := by
    have counted : left.shape.length = 4 ∨ left.shape.length = 5 := requireRank_eq_ok ranked
    rw [sizes, List.length_append] at counted
    simpa using counted
  by_cases single : heads = 1
  · have rightSized : right.mergeSizes heads size = .ok requested := by
      rw [← sized]
      unfold mergeSizes Tensor.requireRank rank
      rw [related.shape]
    have ranks : right.rank = left.rank := congrArg List.length related.shape
    have turned : Related (fun _ => True) rel (left.swapAxes (left.rank - 3))
        (right.swapAxes (left.rank - 3)) :=
      related.swapAxes fun _ _ => Or.inl single
    obtain ⟨small, smallMade, smallRelated⟩ :=
      turned.reshape regrouped fun _ _ (_ : Shape.OfHead size head _) => trivial
    refine ⟨small, ?_, smallRelated, ?_⟩
    · simp only [Tensor.mergeHeads, rightSized, ranks, smallMade, bind, Except.bind]
    · cases requestedEq
      have natural : (((left.swapAxes (left.rank - 3)).shape.take (left.rank - 2)).map
          fun (size : Nat) => (size : Int)) ++ [(heads : Int) * (size : Int)] =
          ((left.swapAxes (left.rank - 3)).shape.take (left.rank - 2) ++ [heads * size]).map
            fun (size : Nat) => (size : Int) := by
        simp
      have requested : (left.swapAxes (left.rank - 3)).reshape
          (((left.swapAxes (left.rank - 3)).shape.take (left.rank - 2) ++ [heads * size]).map
            fun (size : Nat) => (size : Int)) = .ok result := by
        rw [← natural]
        exact regrouped
      exact ⟨_, shape_of_reshape requested⟩
  · obtain rfl : many = heads := known.resolve_left single
    obtain ⟨whole, wholeMade, wholeShape, wholeGet⟩ := mergeHeads_reads frontLength sizes
    obtain rfl : whole = result := Except.ok.inj (wholeMade.symm.trans same)
    obtain ⟨small, smallMade, smallShape, smallGet⟩ := mergeHeads_reads frontLength rightSizes
    refine ⟨small, smallMade, ⟨smallShape.trans wholeShape.symm, ?_⟩, front ++ [rows], ?_⟩
    · intro index inside ofHead
      rw [wholeShape] at inside
      rcases inside.exists_pair with ⟨place, row, feature, rfl, outside, rowBelow, featureBelow⟩
      rcases head_below featureBelow with ⟨headBelow, innerBelow, _⟩
      rw [wholeGet place row feature outside rowBelow featureBelow,
        smallGet place row feature outside rowBelow featureBelow]
      have ofFeature : feature / size = head := by simpa [Shape.OfHead] using ofHead
      refine related.entries _ ?_ (Or.inr ⟨place, row, feature % size, by rw [ofFeature]⟩)
      rw [sizes]
      exact outside.append ⟨headBelow, rowBelow, innerBelow, trivial⟩
    · rw [wholeShape, List.append_assoc]
      rfl

end Tensor

namespace TypedTensor

variable {α : Type} [Arithmetic α] {size head : Nat}

theorem sizes_of_mapRowPairs {operation : List α → List α → Nat → α}
    {input matrix result : TypedTensor α} {outputs features : Nat}
    (sizes : matrix.shape = [outputs, features])
    (made : input.mapRowPairs operation matrix = .ok result) :
    ∃ stack, input.shape = stack ++ [features] ∧ result.shape = stack ++ [outputs] := by
  have resultShape := shape_mapRowPairs made
  unfold mapRowPairs at made
  split at made
  · contradiction
  · split at made
    · contradiction
    · rename_i fits
      have lasts : input.shape.getLast? = some features := by
        rw [Decidable.not_not.mp (not_or.mp fits).2, sizes]
        rfl
      rcases List.getLast?_eq_some_iff.mp lasts with ⟨stack, inputShape⟩
      refine ⟨stack, inputShape, ?_⟩
      rw [resultShape, inputShape, sizes, List.dropLast_concat]
      rfl

/-- Matrices that agree in the rows of a head make the same features of it. -/
theorem Related.linear {input matrix other features : TypedTensor α} {outputs width : Nat}
    (related : Related (Shape.RowOfHead size head) Eq matrix other)
    (sizes : matrix.shape = [outputs, width]) (made : input.linear matrix = .ok features) :
    ∃ small, input.linear other = .ok small ∧
      Related (Shape.OfHead size head) Eq features small ∧
      features.elementType = matrix.elementType := by
  rcases sizes_of_mapRowPairs sizes made with ⟨stack, inputSizes, _⟩
  have sameType := elementType_of_mapRowPairs made
  obtain ⟨again, againMade, featuresType, featuresShape, featuresGet⟩ :=
    linear_reads sameType inputSizes sizes
  obtain rfl : again = features := Except.ok.inj (againMade.symm.trans made)
  obtain ⟨small, smallMade, smallType, smallShape, smallGet⟩ :=
    linear_reads (sameType.trans related.elementType.symm) inputSizes (related.shape.trans sizes)
  refine ⟨small, smallMade, ⟨smallType.trans featuresType.symm,
    smallShape.trans featuresShape.symm, ?_⟩, featuresType.trans sameType⟩
  intro index inside ofHead
  have within : Shape.Contains (stack ++ [outputs]) index := by
    rw [← featuresShape]
    exact inside
  rcases within.exists_concat with ⟨place, output, rfl, outside, below⟩
  rw [featuresGet place output outside below, smallGet place output outside below]
  have matrixSizes : matrix.tensor.shape = [outputs] ++ [width] := sizes
  have otherSizes : other.tensor.shape = [outputs] ++ [width] := related.shape.trans sizes
  have row : Shape.Contains [outputs] [output] := ⟨below, trivial⟩
  unfold projected
  rw [Tensor.rows_reads matrixSizes row, Tensor.rows_reads otherSizes row]
  congr 1
  apply List.map_congr_left
  intro step member
  refine related.tensor.entries _ ?_ (Shape.ofHead_concat.mp ofHead)
  rw [matrixSizes]
  exact row.concat (List.mem_range.mp member)

variable {left right result : TypedTensor α} {rel : α → α → Prop}

theorem Related.positionCount {marked : List Nat → Prop} (related : Related marked rel left right) :
    right.positionCount = left.positionCount := by
  unfold TypedTensor.positionCount Tensor.extent
  rw [related.rank, related.tensor.shape]

theorem Related.relayout {marked others : List Nat → Prop}
    {change : Tensor α → Except Failure (Tensor α)} (related : Related marked rel left right)
    (made : left.relayout change = .ok result)
    (follows : ∀ tensor, change left.tensor = .ok tensor →
      ∃ small, change right.tensor = .ok small ∧ Tensor.Related others rel tensor small) :
    ∃ small, right.relayout change = .ok small ∧ Related others rel result small := by
  rcases exists_of_map_ok made with ⟨tensor, changed, rfl⟩
  rcases follows tensor changed with ⟨small, otherChanged, smallRelated⟩
  exact ⟨_, relayout_of_ok otherChanged, related.elementType, smallRelated⟩

theorem Related.windowFeatures {blocks : Blocks} {window batch positions width : Nat}
    (related : Related (Shape.OfHead size head) Eq left right)
    (sizes : left.shape = [batch, positions, width]) (positive : 0 < blocks.length)
    (made : Layer.windowFeatures blocks window left = .ok result) :
    ∃ small, Layer.windowFeatures blocks window right = .ok small ∧
      Related (Shape.OfHead size head) Eq result small ∧
      ∃ count, result.shape = [batch, count, window + blocks.length, width] := by
  rcases exists_of_map_ok made with ⟨tensor, looked, rfl⟩
  change left.tensor.lookBack blocks.length window (Arithmetic.ofInteger left.elementType 0) true =
    .ok tensor at looked
  have leftSizes : left.tensor.shape = batch :: positions :: [width] := sizes
  have rightSizes : right.tensor.shape = batch :: positions :: [width] :=
    related.shape.trans sizes
  have known : ([width] : Shape).length ≤ 1 := Nat.le_refl 1
  by_cases short : positions < blocks.length
  · rw [Tensor.lookBack_of_short window _ true known short leftSizes] at looked
    contradiction
  · have enough := Nat.le_of_not_lt short
    obtain ⟨again, againLooked, shows⟩ :=
      Tensor.lookBack_shows known leftSizes positive enough
        (Arithmetic.ofInteger left.elementType 0) true
    obtain rfl : again = tensor := Except.ok.inj (againLooked.symm.trans looked)
    obtain ⟨small, smallLooked, smallShows⟩ :=
      Tensor.lookBack_shows known rightSizes positive enough
        (Arithmetic.ofInteger left.elementType 0) true
    have otherLooked : right.tensor.lookBack blocks.length window
        (Arithmetic.ofInteger right.elementType 0) true = .ok small := by
      rw [related.elementType]
      exact smallLooked
    refine ⟨⟨right.elementType, small⟩, relayout_of_ok otherLooked,
      ⟨related.elementType, smallShows.shape.trans shows.shape.symm, ?_⟩, _, shows.shape⟩
    intro index inside ofHead
    rw [shows.shape] at inside
    rcases Shape.contains_cons_iff.mp inside with ⟨row, tail, rfl, rowBelow, inner⟩
    rcases Shape.contains_cons_iff.mp inner with ⟨block, tail, rfl, blockBelow, inner⟩
    rcases Shape.contains_cons_iff.mp inner with ⟨slot, tail, rfl, slotBelow, inner⟩
    rcases Shape.contains_cons_iff.mp inner with ⟨feature, tail, rfl, featureBelow, inner⟩
    obtain rfl := Shape.contains_nil_iff.mp inner
    have place : Shape.Contains [width] [feature] := ⟨featureBelow, trivial⟩
    refine (shows.get row block slot [feature] rowBelow blockBelow slotBelow place).trans
      (Eq.trans ?_ (smallShows.get row block slot [feature] rowBelow blockBelow slotBelow
        place).symm)
    unfold Tensor.getOr
    cases shown : Blocks.position? blocks.length window block slot with
    | none => rfl
    | some position =>
        have placeEq := Blocks.position?_eq_some.mp shown
        have blockEnd : block * blocks.length + blocks.length ≤ positions := by
          rw [← Nat.succ_mul]
          exact Nat.le_trans (Nat.mul_le_mul_right _ blockBelow) (Nat.div_mul_le_self _ _)
        refine related.tensor.entries _ ?_ ofHead
        rw [leftSizes]
        exact ⟨rowBelow, by omega, featureBelow, trivial⟩

theorem rank_of_append {axis : Int} {front back joined : TypedTensor α}
    (made : front.append axis back = .ok joined) (tall : 2 ≤ back.rank) :
    joined.rank = back.rank := by
  have frontConverted : (front.convert (front.joinType back)).tensor.shape = front.shape :=
    shape_convert _ front
  have backConverted : (back.convert (front.joinType back)).tensor.rank = back.rank :=
    congrArg List.length (shape_convert _ back)
  by_cases flat : front.shape = [0]
  · simp only [append, frontConverted, flat, if_true, backConverted] at made
    generalize (if axis < 0 then axis + (back.rank : Int) else axis) = position at made
    split at made
    · contradiction
    · split at made
      · contradiction
      · cases made
        exact backConverted
  · have backTall : back.shape ≠ [0] := by
      intro short
      have single : back.rank = 1 := congrArg List.length short
      omega
    rcases append_of_ok made flat backTall with ⟨place, _, appended⟩
    have joinedRank : joined.rank = (front.convert (front.joinType back)).tensor.rank := by
      change joined.tensor.shape.length = _
      rw [Tensor.shape_append appended, List.length_set]
      rfl
    rw [joinedRank, (Tensor.append_agree appended).1, backConverted]

variable {heads : Nat}

theorem Related.append_positions {past joined : TypedTensor α} {front : Shape} {rows : Nat}
    (related : Related (Shape.AtHead heads head) Eq left right)
    (sizes : left.shape = front ++ [heads, rows, size])
    (made : past.append (-2) left = .ok joined) :
    ∃ small, past.append (-2) right = .ok small ∧
      Related (Shape.AtHead heads head) Eq joined small ∧
      ∃ count, joined.shape = front ++ [heads, count, size] := by
  have types : past.joinType right = past.joinType left := by
    unfold TypedTensor.joinType
    rw [related.elementType, related.rank]
  have converted := related.convert (past.joinType left)
  have stacked : left.shape = (front ++ [heads]) ++ [rows, size] := by simpa using sizes
  have leftRank : left.rank = front.length + 3 := by
    change left.shape.length = _
    simp [sizes]
  have leftShape : (left.convert (past.joinType left)).tensor.shape =
      front ++ [heads, rows, size] := (shape_convert _ left).trans sizes
  by_cases flat : past.shape = [0]
  · rw [append_of_flat flat (by omega)] at made
    cases made
    rw [append_of_flat flat (by rw [related.rank]; omega), types]
    exact ⟨_, rfl, ⟨rfl, converted.tensor⟩, rows, leftShape⟩
  · obtain ⟨pastRank, typeEq, appended, joinedShape⟩ := append_stacked stacked made flat
    have axisEq : (front ++ [heads]).length = front.length + 1 := by simp
    rw [axisEq] at appended joinedShape
    obtain ⟨count, joinedShape⟩ : ∃ count, joined.shape = front ++ [heads, count, size] :=
      ⟨_, joinedShape.trans (List.append_assoc ..)⟩
    have within : front.length + 1 < (left.convert (past.joinType left)).tensor.rank := by
      unfold Tensor.rank
      rw [leftShape]
      simp
    obtain ⟨small, otherAppended, smallRelated⟩ := converted.tensor.append within (by
      intro index inside atHead coordinate
      rcases atHead with single | ⟨place, row, column, rfl⟩
      · exact Or.inl single
      · have joinedSizes : joined.tensor.shape = front ++ [heads, count, size] := joinedShape
        rw [joinedSizes] at inside
        have placeLength : place.length = front.length := by simpa using inside.length_eq
        refine Or.inr ⟨place, coordinate, column, ?_⟩
        rw [← placeLength]
        simp) appended
    refine ⟨⟨past.joinType left, small⟩, ?_, ⟨typeEq.symm, smallRelated⟩, count, joinedShape⟩
    have rightRank : right.rank = left.rank := related.rank
    have counted : (if (-2 : Int) < 0 then (-2 : Int) + past.rank else -2) =
        ((front.length + 1 : Nat) : Int) := by
      rw [if_pos (by decide), pastRank]
      omega
    rw [append_of_rank (by omega) (by omega) counted (by omega), types, otherAppended]
    rfl

end TypedTensor

/-! ### Layers -/

namespace Layer

open TypedTensor

variable {α : Type} [Arithmetic α] {layer : Layer α} {type : ElementType} {heads size head : Nat}
  {left right result : TypedTensor α} {rel : α → α → Prop}

theorem Regular.exists_splitHeads (regular : layer.Regular type heads size)
    (made : layer.split left = .ok result) :
    left.tensor.splitHeads heads size = .ok result.tensor := by
  unfold split at made
  rcases regular.division with whole | ⟨rfl, single⟩
  · simp only [whole] at made
    rcases exists_of_map_ok made with ⟨tensor, changed, rfl⟩
    exact changed
  · simp only [single] at made
    rcases exists_of_bind_ok made with ⟨_, _, made⟩
    rcases exists_of_map_ok made with ⟨tensor, changed, rfl⟩
    exact changed

theorem Regular.sizes_of_split (regular : layer.Regular type heads size)
    (made : layer.split left = .ok result) :
    ∃ outer positions, (outer.length = 1 ∨ outer.length = 2) ∧
      left.shape = outer ++ [positions, heads * size] :=
  Tensor.sizes_of_splitHeads (regular.exists_splitHeads made)

theorem Regular.shape_of_split (regular : layer.Regular type heads size)
    (made : layer.split left = .ok result) :
    ∃ outer positions, outer ≠ [] ∧ result.shape = outer ++ [heads, positions, size] := by
  rcases regular.sizes_of_split made with ⟨outer, positions, known, sizes⟩
  obtain ⟨again, againMade, againShape, _⟩ := Tensor.splitHeads_reads known sizes
  obtain rfl := Except.ok.inj ((regular.exists_splitHeads made).symm.trans againMade)
  refine ⟨outer, positions, ?_, againShape⟩
  rintro rfl
  simp at known

theorem Regular.hasHeads_of_split (regular : layer.Regular type heads size)
    (made : layer.split left = .ok result) : Shape.HasHeads heads result.shape := by
  rcases regular.shape_of_split made with ⟨outer, positions, stacked, sizes⟩
  rw [sizes]
  exact Shape.hasHeads_of_append stacked

theorem Regular.split_related (regular : layer.Regular type heads size) (below : head < heads)
    (related : Related (Shape.OfHead size head) Eq left right) (typed : left.elementType = type)
    (made : layer.split left = .ok result) :
    ∃ small, layer.split right = .ok small ∧
      Related (Shape.AtHead heads head) Eq result small := by
  rcases regular.sizes_of_split made with ⟨outer, positions, known, sizes⟩
  obtain ⟨again, againMade, resultSized, resultGet⟩ := regular.split_reads known ⟨typed, sizes⟩
  obtain rfl : result = again := Except.ok.inj (made.symm.trans againMade)
  obtain ⟨small, smallMade, smallSized, smallGet⟩ :=
    regular.split_reads known ⟨related.elementType.trans typed, related.shape.trans sizes⟩
  have resultShape : result.tensor.shape = outer ++ [heads, positions, size] :=
    resultSized.shape_eq
  refine ⟨small, smallMade, smallSized.type_eq.trans resultSized.type_eq.symm,
    smallSized.shape_eq.trans resultShape.symm, ?_⟩
  intro index inside atHead
  rw [resultShape] at inside
  rcases inside.exists_triple with
    ⟨place, found, position, feature, rfl, outside, foundBelow, positionBelow, featureBelow⟩
  have same : found = head := by
    rcases atHead with single | ⟨other, row, column, split⟩
    · omega
    · exact (List.cons.inj (List.append_inj' split rfl).2).1
  subst same
  rw [resultGet place found position feature outside foundBelow positionBelow featureBelow,
    smallGet place found position feature outside foundBelow positionBelow featureBelow]
  have leftSizes : left.tensor.shape = outer ++ [positions, heads * size] := sizes
  refine related.tensor.entries _ ?_ ?_
  · rw [leftSizes]
    exact outside.pair positionBelow (feature_below foundBelow featureBelow)
  · have last : (place ++ [position, found * size + feature]).getLastD 0 = found * size + feature :=
      by simp
    unfold Shape.OfHead
    rw [last]
    exact (head_of_feature found featureBelow).1

theorem Regular.merge_eq (regular : layer.Regular type heads size) (attended : TypedTensor α) :
    layer.merge attended = attended.relayout (Tensor.mergeHeads heads size) := by
  unfold merge
  rcases regular.division with whole | ⟨rfl, single⟩
  · rw [whole]
  · rw [single]
    rfl

theorem Regular.merge_related (regular : layer.Regular type heads size)
    (related : Related (Shape.AtHead heads head) rel left right)
    (hasHeads : Shape.HasHeads heads left.shape) (last : left.shape.getLast? = some size)
    (made : layer.merge left = .ok result) :
    ∃ small, layer.merge right = .ok small ∧ Related (Shape.OfHead size head) rel result small ∧
      ∃ stack, result.shape = stack ++ [heads * size] := by
  rcases hasHeads with ⟨front, many, rows, columns, sizes, _, known⟩
  obtain rfl : columns = size := by
    rw [sizes] at last
    simpa using last
  rw [regular.merge_eq] at made ⊢
  rcases exists_of_map_ok made with ⟨tensor, changed, rfl⟩
  rcases related.tensor.mergeHeads sizes known changed with ⟨small, smallMade, smallRelated, shaped⟩
  exact ⟨_, relayout_of_ok smallMade, ⟨related.elementType, smallRelated⟩, shaped⟩

end Layer

end CausalAttention
