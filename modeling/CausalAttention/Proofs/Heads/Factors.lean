import CausalAttention.Proofs.Exact.Arithmetic
import CausalAttention.Proofs.Heads.Related
import Mathlib.Algebra.BigOperators.Ring.Finset

/-!
Factors for the heads, in arithmetic without rounding. What attention gives at a head depends on
the factor of this head as a relation does that sums of products keep, and the factors of the other
heads do not matter to it.
-/

set_option autoImplicit false

namespace CausalAttention

open Exact

namespace Shape

variable {heads head : Nat}

theorem AtHead.project_factor {front : Shape} {many rows columns : Nat} {index : List Nat}
    (atHead : AtHead heads head index) (below : head < heads) (stacked : front ≠ [])
    (inside : Contains (front ++ [many, rows, columns]) index) :
    Shape.project [1, heads, 1, 1] index = [0, head, 0, 0] := by
  rcases inside.exists_triple with ⟨place, found, row, column, rfl, outside, _, _, _⟩
  have placed : place ≠ [] := by
    rintro rfl
    exact stacked (List.length_eq_zero_iff.mp outside.length_eq.symm)
  have same : heads = 1 ∨ found = head := by
    rcases atHead with single | ⟨other, otherRow, otherColumn, split⟩
    · exact Or.inl single
    · exact Or.inr (List.cons.inj (List.append_inj' split rfl).2).1
  have apart : place ++ [found, row, column] =
      place.dropLast ++ [place.getLast placed, found, row, column] := by
    conv_lhs => rw [← List.dropLast_concat_getLast placed]
    simp
  have read : (if heads = 1 then 0 else found) = head := by
    split <;> omega
  rw [apart, project_append (by simp)]
  simp [Shape.project, read]

theorem HasHeads.repeats_factors {shape : Shape} (hasHeads : HasHeads heads shape) :
    Repeats [1, heads, 1, 1] shape := by
  rcases hasHeads with ⟨front, many, rows, columns, rfl, stacked, known⟩
  refine ⟨front.dropLast, [front.getLast stacked, many, rows, columns], ?_,
    Or.inr rfl, ?_, Or.inr rfl, Or.inr rfl, trivial⟩
  · conv_lhs => rw [← List.dropLast_concat_getLast stacked]
    simp
  · omega

end Shape

namespace TypedTensor

variable {α : Type} [CommRing α] [Arithmetic α] [Unrounded α] {type : ElementType}

@[simp] theorem tensor_convert (floating : type.isFloating = true) (typed : TypedTensor α) :
    (typed.convert type).tensor = typed.tensor := by
  have unchanged : (Arithmetic.convert type : α → α) = id := by
    funext number
    exact Unrounded.convert floating number
  unfold convert
  split
  · rfl
  · change typed.tensor.map (Arithmetic.convert type) = typed.tensor
    rw [unchanged]
    refine Tensor.ext_get (Tensor.shape_map _ _) ?_
    intro index inside
    exact Tensor.get_map _ _ inside

theorem multiply_eq {left factors : TypedTensor α}
    (floating : (left.joinType factors).isFloating = true) :
    left.multiply factors =
      (left.tensor.combine (fun entry factor => entry * factor) factors.tensor).map
        fun tensor => ⟨left.joinType factors, tensor⟩ := by
  have wide := floating_accumulator floating
  have plain : (Arithmetic.multiply (left.joinType factors) : α → α → α) =
      fun entry factor => entry * factor := by
    funext entry factor
    exact Unrounded.multiply floating entry factor
  by_cases single : (left.joinType factors).accumulator ≠ left.joinType factors ∧
      Shape.volume factors.shape = 1
  · simp only [multiply, if_pos single, scale, tensor_convert floating, tensor_convert wide,
      Unrounded.convert floating, Unrounded.convert wide, Unrounded.multiply wide]
  · simp only [multiply, if_neg single, combine, tensor_convert floating, plain]

theorem keptByDot_scaled (floating : type.isFloating = true) (factor : α) :
    KeptByDot type fun entry other : α => other = factor * entry := by
  intro count first second entries grown
  rw [dot_range floating, dot_range floating, Finset.mul_sum]
  refine Finset.sum_congr rfl ?_
  intro step member
  rw [grown step (Finset.mem_range.mp member), mul_assoc]

variable {heads head : Nat} {left right : TypedTensor α}

omit [CommRing α] [Unrounded α] in
theorem getJoined_factor {factors : TypedTensor α} {large : Shape} {index : List Nat}
    (sizes : factors.shape = [1, heads, 1, 1]) (hasHeads : Shape.HasHeads heads large)
    (below : head < heads) (inside : Shape.Contains large index)
    (atHead : Shape.AtHead heads head index) :
    factors.tensor.getJoined index = factors.tensor.get [0, head, 0, 0] := by
  rcases hasHeads with ⟨front, many, rows, columns, rfl, stacked, _⟩
  have shapeEq : factors.tensor.shape = [1, heads, 1, 1] := sizes
  unfold Tensor.getJoined
  rw [shapeEq, atHead.project_factor below stacked inside]

def factorAt (headMask : Option (TypedTensor α)) (head : Nat) : α :=
  headMask.elim 1 fun factors => factors.tensor.get [0, head, 0, 0]

omit [CommRing α] [Arithmetic α] [Unrounded α] in
theorem rank_ne_zero_of_hasHeads (hasHeads : Shape.HasHeads heads left.shape) : left.rank ≠ 0 := by
  rcases hasHeads.exists_matrices with ⟨stack, height, width, sizes, _⟩
  have rankEq : left.rank = (stack ++ [height, width]).length := congrArg List.length sizes
  simp [rankEq]

omit [CommRing α] [Arithmetic α] [Unrounded α] in
theorem joinType_factors {factors : TypedTensor α} (hasHeads : Shape.HasHeads heads left.shape)
    (sizes : factors.shape = [1, heads, 1, 1]) :
    left.joinType factors = left.elementType.join factors.elementType := by
  have factorAxes : factors.rank ≠ 0 := by
    have rankEq : factors.rank = 4 := congrArg List.length sizes
    omega
  exact ElementType.joinRanked_of_axes _ _ (rank_ne_zero_of_hasHeads hasHeads) factorAxes

omit [CommRing α] [Arithmetic α] [Unrounded α] in
theorem floating_joinType (hasHeads : Shape.HasHeads heads left.shape)
    (floating : left.elementType.isFloating = true) (factors : TypedTensor α) :
    (left.joinType factors).isFloating = true :=
  ElementType.isFloating_joinRanked floating _ (rank_ne_zero_of_hasHeads hasHeads) _

theorem Related.multiply {given : Option (TypedTensor α)} {factors weights : TypedTensor α}
    {rel : α → α → Prop} (related : Related (Shape.AtHead heads head) Eq left right)
    (hasHeads : Shape.HasHeads heads left.shape) (below : head < heads)
    (floating : left.elementType.isFloating = true)
    (givenSizes : ∀ others ∈ given, others.shape = [1, heads, 1, 1])
    (sizes : factors.shape = [1, heads, 1, 1])
    (narrow : left.elementType.join factors.elementType = weights.elementType)
    (scaled : ∀ entry, rel (entry * factorAt given head)
      (entry * factors.tensor.get [0, head, 0, 0]))
    (made : given.elim (.ok left) left.multiply = .ok weights) :
    ∃ small, right.multiply factors = .ok small ∧
      Related (Shape.AtHead heads head) rel weights small ∧ Shape.HasHeads heads weights.shape := by
  have joined : right.joinType factors = weights.elementType := by
    rw [related.joinType, joinType_factors hasHeads sizes]
    exact narrow
  have joinedFloating : (right.joinType factors).isFloating = true := by
    rw [related.joinType]
    exact floating_joinType hasHeads floating factors
  rw [multiply_eq joinedFloating, joined]
  cases given with
  | none =>
      cases made
      have repeats : Shape.Repeats factors.tensor.shape right.tensor.shape := by
        change Shape.Repeats factors.shape right.shape
        rw [sizes, related.shape]
        exact hasHeads.repeats_factors
      obtain ⟨small, smallMade, smallShape, smallGet⟩ :=
        Tensor.combine_reads (fun entry factor => entry * factor) repeats
      refine ⟨⟨left.elementType, small⟩, ?_, ⟨rfl, smallShape.trans related.shape, ?_⟩, hasHeads⟩
      · rw [smallMade]
        rfl
      · intro index inside atHead
        have within : Shape.Contains right.tensor.shape index := by
          rw [related.tensor.shape]
          exact inside
        have single := scaled (left.tensor.get index)
        rw [factorAt, Option.elim_none, mul_one] at single
        rw [smallGet index within, getJoined_factor sizes hasHeads below inside atHead,
          ← related.tensor.entries index inside atHead]
        exact single
  | some others =>
      rw [Option.elim_some, multiply_eq (floating_joinType hasHeads floating others)] at made
      rcases exists_of_map_ok made with ⟨tensor, combined, rfl⟩
      have wide : Shape.HasHeads heads tensor.shape :=
        hasHeads.of_repeats (Shape.repeats_of_join? (Tensor.shape_combine combined)).1
      have sameSizes : factors.tensor.shape = others.tensor.shape :=
        sizes.trans (givenSizes others rfl).symm
      obtain ⟨small, smallMade, smallRelated, _⟩ : ∃ small,
          right.tensor.combine (fun entry factor => entry * factor) factors.tensor = .ok small ∧
            Tensor.Related (Shape.AtHead heads head) rel tensor small ∧
            Shape.HasHeads heads tensor.shape := by
        refine related.tensor.combine hasHeads sameSizes combined ?_
        intro index inside atHead first second same
        rw [getJoined_factor sizes wide below inside atHead,
          getJoined_factor (givenSizes others rfl) wide below inside atHead, ← same]
        exact scaled first
      rw [smallMade]
      exact ⟨_, rfl, ⟨rfl, smallRelated⟩, wide⟩

end TypedTensor

namespace Attended

open TypedTensor

variable {α : Type} [CommRing α] [Arithmetic α] [Unrounded α] {heads head : Nat}
  {query queryOther key keyOther value valueOther : TypedTensor α} {visible : Tensor Bool}
  {maskedBias : TypedTensor α}

omit [CommRing α] [Unrounded α] in
theorem scores_related {additive : Option (TypedTensor α)} {masked scores : TypedTensor α}
    (queryRelated : Related (Shape.AtHead heads head) Eq query queryOther)
    (queryHeads : Shape.HasHeads heads query.shape)
    (keyRelated : Related (Shape.AtHead heads head) Eq key keyOther)
    (keyHeads : Shape.HasHeads heads key.shape)
    (maskedMade : maskedScores query key visible maskedBias = .ok masked)
    (scoresMade : additive.elim (.ok masked) masked.add = .ok scores) :
    ∃ maskedOther scoresOther, maskedScores queryOther keyOther visible maskedBias =
        .ok maskedOther ∧
      additive.elim (.ok maskedOther) maskedOther.add = .ok scoresOther ∧
      Related (Shape.AtHead heads head) Eq scores scoresOther ∧
      Shape.HasHeads heads scores.shape := by
  obtain ⟨maskedOther, otherMasked, maskedRelated, maskedHeads⟩ :=
    maskedScores_related queryRelated queryHeads keyRelated keyHeads maskedMade
  cases additive with
  | none =>
      cases scoresMade
      exact ⟨maskedOther, maskedOther, otherMasked, rfl, maskedRelated, maskedHeads⟩
  | some terms =>
      rcases maskedRelated.combine_shared maskedHeads scoresMade with
        ⟨scoresOther, otherScores, scoresRelated, scoresHeads⟩
      exact ⟨maskedOther, scoresOther, otherMasked, otherScores, scoresRelated, scoresHeads⟩

/-- What attention gives at a head depends on the operands at this head, and on its factor as a
relation does that sums of products keep. -/
theorem ofMasked_related {additive given : Option (TypedTensor α)} {factors : TypedTensor α}
    {rel : α → α → Prop} {attended : Attended α}
    (queryRelated : Related (Shape.AtHead heads head) Eq query queryOther)
    (queryHeads : Shape.HasHeads heads query.shape)
    (keyRelated : Related (Shape.AtHead heads head) Eq key keyOther)
    (keyHeads : Shape.HasHeads heads key.shape)
    (valueRelated : Related (Shape.AtHead heads head) Eq value valueOther)
    (valueHeads : Shape.HasHeads heads value.shape) (below : head < heads)
    (floating : value.elementType.isFloating = true)
    (givenSizes : ∀ others ∈ given, others.shape = [1, heads, 1, 1])
    (sizes : factors.shape = [1, heads, 1, 1])
    (narrow : value.elementType.join factors.elementType = value.elementType)
    (scaled : ∀ entry, rel (entry * factorAt given head)
      (entry * factors.tensor.get [0, head, 0, 0]))
    (kept : KeptByDot value.elementType rel)
    (made : ofMasked query key value visible maskedBias .keepAll additive given = .ok attended) :
    ∃ small, ofMasked queryOther keyOther valueOther visible maskedBias .keepAll additive
        (some factors) = .ok small ∧
      Related (Shape.AtHead heads head) rel attended.output small.output ∧
      Shape.HasHeads heads attended.output.shape ∧
      attended.output.shape.getLast? = value.shape.getLast? := by
  rw [ofMasked_eq] at made
  rcases exists_of_bind_ok made with ⟨masked, maskedMade, made⟩
  rcases exists_of_bind_ok made with ⟨scores, scoresMade, made⟩
  rcases exists_of_bind_ok made with ⟨retained, kept, made⟩
  rcases exists_of_bind_ok made with ⟨weights, weighed, made⟩
  rcases exists_of_bind_ok made with ⟨output, mixed, made⟩
  cases made
  cases kept
  obtain ⟨maskedOther, scoresOther, otherMasked, otherScores, scoresRelated, scoresHeads⟩ :=
    scores_related queryRelated queryHeads keyRelated keyHeads maskedMade scoresMade
  have sharesRelated := (scoresRelated.softmax scoresHeads).convert value.elementType
  have sharesHeads : Shape.HasHeads heads (scores.softmax.convert value.elementType).shape := by
    rw [shape_convert]
    exact scoresHeads
  have sharesType : (scores.softmax.convert value.elementType).elementType = value.elementType :=
    elementType_convert _ _
  have weightsType := elementType_of_product mixed
  obtain ⟨weightsOther, otherWeighed, weightsRelated, weightsHeads⟩ :=
    sharesRelated.multiply sharesHeads below (sharesType.symm ▸ floating) givenSizes sizes
      (by rw [sharesType, narrow, weightsType]) scaled weighed
  have weightsFloating : weights.elementType.isFloating = true := by
    rw [weightsType]
    exact floating
  have numeric : weights.elementType ≠ .bool := by
    intro same
    rw [same] at weightsFloating
    contradiction
  obtain ⟨outputOther, otherMixed, outputRelated, outputHeads, outputLast⟩ :=
    weightsRelated.product weightsHeads valueRelated valueHeads numeric
      (weightsType.symm ▸ kept) mixed
  refine ⟨⟨outputOther, weightsOther⟩, ?_, outputRelated, outputHeads, outputLast⟩
  rw [ofMasked_eq]
  simp only [otherMasked, otherScores, valueRelated.elementType, Dropout.apply_keepAll,
    Option.elim_some, otherWeighed, otherMixed, bind, Except.bind, pure, Except.pure]

omit [CommRing α] [Unrounded α] in
theorem elementType_of_ofMasked {dropout : Dropout α} {additive given : Option (TypedTensor α)}
    {attended : Attended α}
    (made : ofMasked query key value visible maskedBias dropout additive given = .ok attended) :
    attended.output.elementType = value.elementType := by
  rw [ofMasked_eq] at made
  rcases exists_of_bind_ok made with ⟨masked, _, made⟩
  rcases exists_of_bind_ok made with ⟨scores, _, made⟩
  rcases exists_of_bind_ok made with ⟨retained, _, made⟩
  rcases exists_of_bind_ok made with ⟨weights, _, made⟩
  rcases exists_of_bind_ok made with ⟨output, mixed, made⟩
  cases made
  exact (type_of_product mixed).trans (elementType_of_product mixed)

theorem narrow_of_ofMasked {additive : Option (TypedTensor α)} {factors : TypedTensor α}
    {attended : Attended α} (queryHeads : Shape.HasHeads heads query.shape)
    (keyHeads : Shape.HasHeads heads key.shape) (floating : value.elementType.isFloating = true)
    (sizes : factors.shape = [1, heads, 1, 1])
    (made : ofMasked query key value visible maskedBias .keepAll additive (some factors) =
      .ok attended) :
    value.elementType.join factors.elementType = value.elementType := by
  rw [ofMasked_eq] at made
  rcases exists_of_bind_ok made with ⟨masked, maskedMade, made⟩
  rcases exists_of_bind_ok made with ⟨scores, scoresMade, made⟩
  rcases exists_of_bind_ok made with ⟨retained, kept, made⟩
  rcases exists_of_bind_ok made with ⟨weights, weighed, made⟩
  rcases exists_of_bind_ok made with ⟨output, mixed, _⟩
  cases kept
  obtain ⟨_, _, _, _, _, scoresHeads⟩ :=
    scores_related (related_self (Shape.AtHead heads 0) query) queryHeads (related_self _ key)
      keyHeads maskedMade scoresMade
  have sharesType : (scores.softmax.convert value.elementType).elementType = value.elementType :=
    elementType_convert _ _
  have sharesHeads : Shape.HasHeads heads (scores.softmax.convert value.elementType).shape := by
    rw [shape_convert]
    exact scoresHeads
  have joined := joinType_factors sharesHeads sizes
  have joinedFloating := floating_joinType sharesHeads (sharesType.symm ▸ floating) factors
  rw [sharesType] at joined
  rw [Option.elim_some, multiply_eq joinedFloating] at weighed
  rcases exists_of_map_ok weighed with ⟨tensor, _, rfl⟩
  exact joined.symm.trans (elementType_of_product mixed)

end Attended

end CausalAttention
