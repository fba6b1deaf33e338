import CausalAttention.Proofs.PaddingMask

/-!
What the positions that a padding mask drops can reach. Two inputs that differ in dropped positions
alone have the same means over all windows, as long as the position that asks is not among those
that differ.
-/

set_option autoImplicit false

namespace CausalAttention

open Exact

section Agreement

variable {α : Type} [Arithmetic α] {states others : TypedTensor α} {width row position : Nat}

def TypedTensor.AgreeAt (states others : TypedTensor α) (width row position : Nat) : Prop :=
  ∀ feature, feature < width →
    states.tensor.get [row, position, feature] = others.tensor.get [row, position, feature]

theorem TypedTensor.AgreeAt.projected (agree : states.AgreeAt others width row position)
    {type : ElementType} {batch sequence : Nat}
    (sized : states.Sized type [batch, sequence, width])
    (othersSized : others.Sized type [batch, sequence, width]) (rowBelow : row < batch)
    (positionBelow : position < sequence) (matrix : TypedTensor α) :
    states.projected matrix [row, position] = others.projected matrix [row, position] := by
  have sizes : states.tensor.shape = [batch, sequence] ++ [width] := sized.shape_eq
  have othersSizes : others.tensor.shape = [batch, sequence] ++ [width] := othersSized.shape_eq
  have inside : Shape.Contains [batch, sequence] [row, position] :=
    ⟨rowBelow, positionBelow, trivial⟩
  have rows : states.tensor.rows.get [row, position] = others.tensor.rows.get [row, position] := by
    rw [Tensor.rows_reads sizes inside, Tensor.rows_reads othersSizes inside]
    apply List.map_congr_left
    intro feature member
    exact agree feature (List.mem_range.mp member)
  funext feature
  unfold TypedTensor.projected
  rw [rows, sized.type_eq, othersSized.type_eq]

end Agreement

namespace Layer

variable [Falloff] {layer : Layer ℚ} {type : ElementType}
  {heads size batch sequence window : Nat} {hidden other : TypedTensor ℚ}
  {mask : Option (TypedTensor ℚ)}

theorem Regular.windowMean_of_agree (regular : layer.Regular type heads size)
    (sized : hidden.Sized type [batch, sequence, heads * size])
    (otherSized : other.Sized type [batch, sequence, heads * size])
    (counts : ∀ given ∈ mask, given.Counts batch sequence) {row query : Nat}
    (rowBelow : row < batch) (queryBelow : query < sequence)
    (kept : ∀ position, position < sequence → isDropped mask row position = false →
      hidden.AgreeAt other (heads * size) row position)
    (here : hidden.AgreeAt other (heads * size) row query) (entry : Nat) :
    layer.windowMean type size hidden window mask row query entry =
      layer.windowMean type size other window mask row query entry := by
  apply regular.windowMean_congr
  · exact here.projected sized otherSized rowBelow queryBelow
  · intro matrix key member
    rcases (mem_windowKeys_of_counts counts rowBelow queryBelow).mp member with ⟨past, _, stays⟩
    have keyBelow : key < sequence := Nat.lt_of_le_of_lt past queryBelow
    exact (kept key keyBelow stays).projected sized otherSized rowBelow keyBelow matrix

/-- Positions that the mask drops are invisible to all others: two inputs that agree on the kept
positions are answered alike wherever they agree and a kept key is seen. -/
theorem padded_positions_invisible (regular : layer.Regular type heads size)
    (spans : layer.reach.Spans sequence window) (nonempty : 1 ≤ sequence)
    (sized : hidden.Sized type [batch, sequence, heads * size])
    (otherSized : other.Sized type [batch, sequence, heads * size])
    (counts : ∀ given ∈ mask, given.Counts batch sequence)
    (modest : ∀ query, query < sequence → layer.ModestAt type heads size hidden batch window query)
    (otherModest : ∀ query, query < sequence →
      layer.ModestAt type heads size other batch window query)
    (kept : ∀ row position, row < batch → position < sequence →
      isDropped mask row position = false → hidden.AgreeAt other (heads * size) row position)
    (useCache : Bool) :
    ∃ answer otherAnswer,
      layer.run ⟨hidden, none, mask, none, useCache⟩ = .ok answer ∧
      layer.run ⟨other, none, mask, none, useCache⟩ = .ok otherAnswer ∧
      answer.output.Sized type [batch, sequence, heads * size] ∧
      otherAnswer.output.Sized type [batch, sequence, heads * size] ∧
      ∀ row query, row < batch → query < sequence →
        hidden.AgreeAt other (heads * size) row query →
        (∃ key, key ≤ query ∧ query < key + window ∧ isDropped mask row key = false) →
        answer.output.AgreeAt otherAnswer.output (heads * size) row query := by
  obtain ⟨answer, ran, means⟩ := regular.run_spans spans sized nonempty counts modest useCache
  obtain ⟨otherAnswer, otherRan, otherMeans⟩ :=
    regular.run_spans spans otherSized nonempty counts otherModest useCache
  refine ⟨answer, otherAnswer, ran, otherRan, means.sized, otherMeans.sized, ?_⟩
  rintro row query rowBelow queryBelow here ⟨key, seen⟩ entry entryBelow
  have some : (windowKeys window (keptAt mask row) (0 + query)).Nonempty := by
    rw [Nat.zero_add]
    exact ⟨key, (mem_windowKeys_of_counts counts rowBelow queryBelow).mpr seen⟩
  have same : layer.windowMean type size hidden window mask row query entry =
      layer.windowMean type size other window mask row query entry :=
    regular.windowMean_of_agree sized otherSized counts rowBelow queryBelow
      (fun position => kept row position rowBelow) here entry
  calc answer.output.tensor.get [row, query, entry]
    _ = layer.windowMean type size hidden window mask row (0 + query) entry :=
        means.mean row query entry rowBelow queryBelow entryBelow some
    _ = layer.windowMean type size other window mask row (0 + query) entry := by
        rw [Nat.zero_add, same]
    _ = otherAnswer.output.tensor.get [row, query, entry] :=
        (otherMeans.mean row query entry rowBelow queryBelow entryBelow some).symm

def threePositions (second : ℚ) : TypedTensor ℚ :=
  ⟨.float32, Tensor.ofFn [1, 3, 1] fun index => if index.getD 1 0 = 1 then second else 1⟩

theorem threePositions_agreeAt (second third : ℚ) {position : Nat} (below : position < 3)
    (apart : position ≠ 1) :
    (threePositions second).AgreeAt (threePositions third) 1 0 position := by
  intro feature featureBelow
  have inside : Shape.Contains [1, 3, 1] [0, position, feature] :=
    ⟨Nat.one_pos, below, featureBelow, trivial⟩
  have entry (number : ℚ) : (threePositions number).tensor.get [0, position, feature] = 1 :=
    (Tensor.get_ofFn inside _).trans (if_neg apart)
  rw [entry, entry]

omit [Falloff] in
theorem threePositions_modest (reach : Reach) {second : ℚ} (listed : second ∈ [1, 5]) :
    let _ : Falloff := Falloff.linear
    let layer : Layer ℚ := constant .float32 1 1 reach 1
    layer.Modest .float32 1 1 (threePositions second) 1 3 := by
  intro falloff layer
  -- The products are the same for every reach, so they are computed for one.
  have products : ∀ number ∈ [(1 : ℚ), 5], ∀ query < 3, ∀ key < 3,
      let layer : Layer ℚ := constant .float32 1 1 (.everything 0) 1
      |layer.pairScore .float32 1 (threePositions number) 0 query 0 key| ≤ 4000 := by
    decide +kernel
  intro row query head key rowBelow queryBelow headBelow keyBelow
  interval_cases row
  interval_cases head
  exact products second listed query queryBelow key keyBelow

omit [Falloff] in
/-- With the second of three positions dropped, its content reaches neither of the others, for a
layer that reaches everything and for one with a window of two. -/
theorem padded_positions_invisible_three_positions :
    let _ : Falloff := Falloff.linear
    let layer (reach : Reach) : Layer ℚ := constant .float32 1 1 reach 1
    let mask : TypedTensor ℚ :=
      ⟨.int64, Tensor.ofFn [1, 3] fun index => if index.getD 1 0 = 1 then 0 else 1⟩
    ∀ reach ∈ [Reach.everything 3, Reach.window (.int 2)], ∃ answer otherAnswer,
      (layer reach).run { hidden := threePositions 1, attentionMask := some mask } = .ok answer ∧
      (layer reach).run { hidden := threePositions 5, attentionMask := some mask } =
        .ok otherAnswer ∧
      answer.output.tensor.get [0, 0, 0] = otherAnswer.output.tensor.get [0, 0, 0] ∧
      answer.output.tensor.get [0, 2, 0] = otherAnswer.output.tensor.get [0, 2, 0] := by
  intro falloff layer mask
  have regular (reach : Reach) : (layer reach).Regular .float32 1 1 := regular_constant rfl reach 1
  have sized (second : ℚ) : (threePositions second).Sized .float32 [1, 3, 1 * 1] := ⟨rfl, rfl⟩
  have counts : ∀ given ∈ some mask, given.Counts 1 3 := by
    apply forall_mem_some
    constructor
    · rfl
    · intro row position rowBelow positionBelow
      use if position = 1 then 0 else 1
      interval_cases row
      interval_cases position <;> decide +kernel
  have dropped : isDropped (some mask) 0 1 = true := by decide +kernel
  have stays : isDropped (some mask) 0 0 = false ∧ isDropped (some mask) 0 2 = false := by
    decide +kernel
  have kept : ∀ row position, row < 1 → position < 3 → isDropped (some mask) row position = false →
      (threePositions 1).AgreeAt (threePositions 5) (1 * 1) row position := by
    intro row position rowBelow positionBelow here
    interval_cases row
    apply threePositions_agreeAt 1 5 positionBelow
    rintro rfl
    rw [dropped] at here
    contradiction
  have invisible (reach : Reach) {window : Nat} (spans : reach.Spans 3 window) (wide : 1 ≤ window) :
      ∃ answer otherAnswer,
        (layer reach).run { hidden := threePositions 1, attentionMask := some mask } =
          .ok answer ∧
        (layer reach).run { hidden := threePositions 5, attentionMask := some mask } =
          .ok otherAnswer ∧
        answer.output.tensor.get [0, 0, 0] = otherAnswer.output.tensor.get [0, 0, 0] ∧
        answer.output.tensor.get [0, 2, 0] = otherAnswer.output.tensor.get [0, 2, 0] := by
    have modest := threePositions_modest reach (List.mem_cons_self : (1 : ℚ) ∈ [1, 5])
    have otherModest := threePositions_modest reach (by simp : (5 : ℚ) ∈ [1, 5])
    obtain ⟨answer, otherAnswer, ran, otherRan, _, _, agree⟩ :=
      padded_positions_invisible (regular reach) spans (by decide) (sized 1) (sized 5) counts
        (fun _ below => modest.modestAt below window)
        (fun _ below => otherModest.modestAt below window) kept false
    have front := agree 0 0 Nat.one_pos (by decide)
      (threePositions_agreeAt 1 5 (by decide) (by decide)) ⟨0, by omega, by omega, stays.1⟩
    have back := agree 0 2 Nat.one_pos (by decide)
      (threePositions_agreeAt 1 5 (by decide) (by decide)) ⟨2, by omega, by omega, stays.2⟩
    exact ⟨answer, otherAnswer, ran, otherRan, front 0 (by decide), back 0 (by decide)⟩
  intro reach listed
  rcases List.mem_cons.mp listed with rfl | later
  · exact invisible (.everything 3) ⟨Nat.le_refl 3, Nat.le_refl 3⟩ (by decide)
  · rcases List.mem_singleton.mp later with rfl
    exact invisible (.window (.int 2)) ⟨rfl, by decide⟩ (by decide)

end Layer

end CausalAttention
