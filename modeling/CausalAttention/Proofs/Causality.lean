import CausalAttention.Proofs.Exact.Windows

/-!
What a local layer answers a position with, when later positions change. A position that sees a
kept key takes the mean over its window, which ends with the position. A position whose window
holds no kept key takes the plain mean over the slots of its block, among them the later positions
of the block.
-/

set_option autoImplicit false

namespace CausalAttention

namespace Layer

section Block

variable {α : Type} [Arithmetic α] {layer : Layer α} {type : ElementType}
  {heads size window row block inner slot : Nat} {blocks : Blocks} {states others : TypedTensor α}

theorem slotFeature_congr {matrix : TypedTensor α}
    (same : ∀ position, position < block * blocks.length + blocks.length →
      states.projected matrix [row, position] = others.projected matrix [row, position])
    (slotBelow : slot < window + blocks.length) (feature : Nat) :
    slotFeature type states matrix row (Blocks.position? blocks.length window block slot) feature =
      slotFeature type others matrix row (Blocks.position? blocks.length window block slot)
        feature := by
  cases shown : Blocks.position? blocks.length window block slot with
  | none => rfl
  | some position =>
      exact congrFun (same position (Blocks.position?_lt slotBelow shown)) feature

/-- The queries of a block ask for nothing past its end. -/
theorem Regular.blockOutput_congr (regular : layer.Regular type heads size)
    {mask : Option (TypedTensor α)} (innerBelow : inner < blocks.length)
    (same : ∀ matrix position, position < block * blocks.length + blocks.length →
      states.projected matrix [row, position] = others.projected matrix [row, position])
    (entry : Nat) :
    layer.rowOutput type size none (window + blocks.length)
        (layer.localScore type size states blocks window mask row block inner)
        (layer.localValue type states blocks window row block) entry =
      layer.rowOutput type size none (window + blocks.length)
        (layer.localScore type size others blocks window mask row block inner)
        (layer.localValue type others blocks window row block) entry := by
  refine (regular.rowOutput_congr ?_ entry).trans (regular.rowOutput_congr_values ?_ entry)
  · intro head _ slot slotBelow
    have keys : slotFeature type states layer.parameters.key row
          (Blocks.position? blocks.length window block slot) =
        slotFeature type others layer.parameters.key row
          (Blocks.position? blocks.length window block slot) := by
      funext feature
      exact slotFeature_congr (same _) slotBelow feature
    have within : block * blocks.length + inner < block * blocks.length + blocks.length :=
      Nat.add_lt_add_left innerBelow _
    unfold localScore
    rw [keys, same _ _ within]
  · intro slot slotBelow feature
    exact slotFeature_congr (same _) slotBelow feature

end Block

open Exact

variable [Falloff] {layer : Layer ℚ} {type : ElementType}
  {heads size batch sequence window count : Nat} {hidden other : TypedTensor ℚ}
  {mask : Option (TypedTensor ℚ)}

theorem projected_of_front (sizes : hidden.shape = [batch, sequence, heads * size])
    (otherSizes : other.shape = [batch, sequence, heads * size])
    (same : hidden.slice 1 0 count = other.slice 1 0 count) (within : count ≤ sequence)
    {row position : Nat} (rowBelow : row < batch) (positionBelow : position < count)
    (matrix : TypedTensor ℚ) :
    hidden.projected matrix [row, position] = other.projected matrix [row, position] := by
  have reached : 0 + count ≤ sequence := by omega
  have part := projected_part sizes reached rowBelow positionBelow matrix
  have otherPart := projected_part otherSizes reached rowBelow positionBelow matrix
  rw [Nat.zero_add] at part otherPart
  rw [← part, ← otherPart, same]

theorem Regular.windowMean_of_front (regular : layer.Regular type heads size)
    (sizes : hidden.shape = [batch, sequence, heads * size])
    (otherSizes : other.shape = [batch, sequence, heads * size])
    (same : hidden.slice 1 0 count = other.slice 1 0 count) (within : count ≤ sequence)
    {row position : Nat} (rowBelow : row < batch) (positionBelow : position < count)
    (entry : Nat) :
    layer.windowMean type size hidden window mask row position entry =
      layer.windowMean type size other window mask row position entry := by
  apply regular.windowMean_congr
  · exact projected_of_front sizes otherSizes same within rowBelow positionBelow
  · intro matrix key member
    have past := (mem_windowKeys.mp member).1
    exact projected_of_front sizes otherSizes same within rowBelow (by omega) matrix

section Answers

variable {blocks : Blocks} {answer otherAnswer : Attended ℚ} {row position entry : Nat}

theorem Regular.allQueries_congr_kept (regular : layer.Regular type heads size)
    (cut : blocks.Cut sequence window) (padding : ∀ given ∈ mask, given.shape = [batch, sequence])
    (sizes : hidden.shape = [batch, sequence, heads * size])
    (otherSizes : other.shape = [batch, sequence, heads * size])
    (modest : layer.Modest type heads size hidden batch sequence)
    (otherModest : layer.Modest type heads size other batch sequence)
    (answered : layer.LocalAnswer type heads size hidden batch blocks window mask none
      blocks.allQueries answer)
    (otherAnswered : layer.LocalAnswer type heads size other batch blocks window mask none
      blocks.allQueries otherAnswer)
    (same : hidden.slice 1 0 count = other.slice 1 0 count) (within : count ≤ sequence)
    (rowBelow : row < batch) (positionBelow : position < count) (entryBelow : entry < heads * size)
    (seen : (windowKeys window (keptAt mask row) position).Nonempty) :
    answer.output.tensor.get [row, position, entry] =
      otherAnswer.output.tensor.get [row, position, entry] := by
  have inside := Nat.lt_of_lt_of_le positionBelow within
  calc answer.output.tensor.get [row, position, entry]
    _ = layer.windowMean type size hidden window mask row position entry :=
        regular.allQueries_output cut padding (modest.modestAt inside window) answered rowBelow
          inside entryBelow seen
    _ = layer.windowMean type size other window mask row position entry :=
        regular.windowMean_of_front sizes otherSizes same within rowBelow positionBelow entry
    _ = otherAnswer.output.tensor.get [row, position, entry] :=
        (regular.allQueries_output cut padding (otherModest.modestAt inside window) otherAnswered
          rowBelow inside entryBelow seen).symm

theorem Regular.allQueries_congr_block (regular : layer.Regular type heads size)
    (cut : blocks.Cut sequence window)
    (sizes : hidden.shape = [batch, sequence, heads * size])
    (otherSizes : other.shape = [batch, sequence, heads * size])
    (answered : layer.LocalAnswer type heads size hidden batch blocks window mask none
      blocks.allQueries answer)
    (otherAnswered : layer.LocalAnswer type heads size other batch blocks window mask none
      blocks.allQueries otherAnswer)
    (same : hidden.slice 1 0 count = other.slice 1 0 count) (within : count ≤ sequence)
    (rowBelow : row < batch) (positionBelow : position < sequence)
    (entryBelow : entry < heads * size)
    (ended : (position / blocks.length + 1) * blocks.length ≤ count) :
    answer.output.tensor.get [row, position, entry] =
      otherAnswer.output.tensor.get [row, position, entry] := by
  have innerBelow := Nat.mod_lt position cut.lengthPositive
  rw [Nat.succ_mul] at ended
  have agree : ∀ matrix key, key < position / blocks.length * blocks.length + blocks.length →
      hidden.projected matrix [row, key] = other.projected matrix [row, key] := by
    intro matrix key below
    exact projected_of_front sizes otherSizes same within rowBelow (Nat.lt_of_lt_of_le below ended)
      matrix
  calc answer.output.tensor.get [row, position, entry]
    _ = _ := answered.position_row cut rowBelow positionBelow entryBelow
    _ = _ := regular.blockOutput_congr innerBelow agree entry
    _ = otherAnswer.output.tensor.get [row, position, entry] :=
        (otherAnswered.position_row cut rowBelow positionBelow entryBelow).symm

end Answers

/-- Positions up to one at which two inputs still agree are answered alike, when their window holds
a kept key or their block ends there. -/
theorem local_causal (regular : layer.Regular type heads size)
    (reach : layer.reach = .window (.int window)) (wide : 1 ≤ window)
    (sized : hidden.Sized type [batch, sequence, heads * size])
    (otherSized : other.Sized type [batch, sequence, heads * size])
    (padding : ∀ given ∈ mask, given.shape = [batch, sequence])
    (modest : layer.Modest type heads size hidden batch sequence)
    (otherModest : layer.Modest type heads size other batch sequence) {last : Nat}
    (within : last < sequence) (same : hidden.slice 1 0 (last + 1) = other.slice 1 0 (last + 1)) :
    ∃ answer otherAnswer blocks,
      layer.run { hidden, attentionMask := mask } = .ok answer ∧
      layer.run { hidden := other, attentionMask := mask } = .ok otherAnswer ∧
      Blocks.ofSequence sequence window = .ok blocks ∧
      ∀ row position entry, row < batch → position ≤ last → entry < heads * size →
        ((∃ key, key ≤ position ∧ position < key + window ∧ keptAt mask row key = true) ∨
          (position / blocks.length + 1) * blocks.length ≤ last + 1) →
        answer.output.tensor.get [row, position, entry] =
          otherAnswer.output.tensor.get [row, position, entry] := by
  have nonempty : 1 ≤ sequence := by omega
  rcases Blocks.exists_cut nonempty wide with ⟨blocks, cut⟩
  have run (states : TypedTensor ℚ) (held : states.Sized type [batch, sequence, heads * size]) :
      LocalRun type heads size states batch sequence blocks window
        { hidden := states, attentionMask := mask } :=
    ⟨held, cut, Or.inl ⟨rfl, rfl⟩, (fun given member => Or.inl (padding given member)),
      forall_mem_none⟩
  obtain ⟨answer, ran, answered, _⟩ :=
    (run hidden sized).run_answers regular reach forall_mem_none
  obtain ⟨otherAnswer, otherRan, otherAnswered, _⟩ :=
    (run other otherSized).run_answers regular reach forall_mem_none
  refine ⟨answer, otherAnswer, blocks, ran, otherRan, cut.found, ?_⟩
  rintro row position entry rowBelow upTo entryBelow (⟨key, kept⟩ | ended)
  · have seen : (windowKeys window (keptAt mask row) position).Nonempty :=
      ⟨key, mem_windowKeys.mpr kept⟩
    exact regular.allQueries_congr_kept cut padding sized.shape_eq otherSized.shape_eq modest
      otherModest answered otherAnswered same within rowBelow (Nat.lt_succ_of_le upTo) entryBelow
      seen
  · exact regular.allQueries_congr_block cut sized.shape_eq otherSized.shape_eq answered
      otherAnswered same within rowBelow (Nat.lt_of_le_of_lt upTo within) entryBelow ended

def twoPositions (last : ℚ) : TypedTensor ℚ :=
  ⟨.float32, Tensor.ofFn [1, 2, 1] fun index => if index.getD 1 0 = 1 then last else 0⟩

def dropsFirst : TypedTensor ℚ :=
  ⟨.int64, Tensor.ofFn [1, 2] fun index => if index.getD 1 0 = 1 then 1 else 0⟩

theorem twoPositions_front (last other : ℚ) :
    (twoPositions last).slice 1 0 1 = (twoPositions other).slice 1 0 1 := by
  have sized (number : ℚ) : (twoPositions number).Sized .float32 [1, 2, 1] := ⟨rfl, rfl⟩
  have whole : Shape.Contains [1, 2, 1] [0, 0, 0] := by decide
  have entry (number : ℚ) : ((twoPositions number).slice 1 0 1).tensor.get [0, 0, 0] = 0 := by
    refine ((sized number).get_slice 1 0 1 (by decide)).trans ?_
    exact Tensor.get_ofFn whole _
  apply ((sized last).slice 1 0 1).ext ((sized other).slice 1 0 1)
  intro row rowBelow position positionBelow feature featureBelow
  change position < 1 at positionBelow
  interval_cases row
  interval_cases position
  interval_cases feature
  exact (entry last).trans (entry other).symm

omit [Falloff] in
theorem twoPositions_modest (reach : Reach) :
    let _ : Falloff := Falloff.linear
    let layer : Layer ℚ := constant .float32 1 1 reach 1
    layer.Modest .float32 1 1 (twoPositions 0) 1 2 ∧
      layer.Modest .float32 1 1 (twoPositions 4) 1 2 := by
  intro falloff layer
  -- The products are the same for every reach, so they are computed for one.
  have products : ∀ query < 2, ∀ key < 2,
      let layer : Layer ℚ := constant .float32 1 1 (.everything 0) 1
      |layer.pairScore .float32 1 (twoPositions 0) 0 query 0 key| ≤ 4000 ∧
        |layer.pairScore .float32 1 (twoPositions 4) 0 query 0 key| ≤ 4000 := by
    decide +kernel
  constructor
  · intro row query head key rowBelow queryBelow headBelow keyBelow
    interval_cases row
    interval_cases head
    exact (products query queryBelow key keyBelow).1
  · intro row query head key rowBelow queryBelow headBelow keyBelow
    interval_cases row
    interval_cases head
    exact (products query queryBelow key keyBelow).2

omit [Falloff] in
/-- The first position does not see the second, with a window of two and nothing dropped, or with
a window of one even when the first is dropped. -/
theorem local_causal_two_positions :
    let _ : Falloff := Falloff.linear
    let layer (window : Int) : Layer ℚ := constant .float32 1 1 (.window (.int window)) 1
    (∃ answer otherAnswer, (layer 2).run { hidden := twoPositions 0 } = .ok answer ∧
      (layer 2).run { hidden := twoPositions 4 } = .ok otherAnswer ∧
      answer.output.tensor.get [0, 0, 0] = otherAnswer.output.tensor.get [0, 0, 0]) ∧
    ∃ answer otherAnswer,
      (layer 1).run { hidden := twoPositions 0, attentionMask := some dropsFirst } = .ok answer ∧
      (layer 1).run { hidden := twoPositions 4, attentionMask := some dropsFirst } =
        .ok otherAnswer ∧
      answer.output.tensor.get [0, 0, 0] = otherAnswer.output.tensor.get [0, 0, 0] := by
  intro falloff layer
  have sized (last : ℚ) : (twoPositions last).Sized .float32 [1, 2, 1 * 1] := ⟨rfl, rfl⟩
  have same := twoPositions_front 0 4
  constructor
  · have regular : (layer 2).Regular .float32 1 1 := regular_constant rfl _ 1
    have reach : (layer 2).reach = .window (.int (2 : Nat)) := rfl
    rcases twoPositions_modest (.window (.int 2)) with ⟨modest, otherModest⟩
    obtain ⟨answer, otherAnswer, _, ran, otherRan, _, agree⟩ := local_causal regular reach
      (by decide) (sized 0) (sized 4) forall_mem_none modest otherModest (by decide) same
    exact ⟨answer, otherAnswer, ran, otherRan, agree 0 0 0 (by decide) (by decide) (by decide)
      (Or.inl ⟨0, by decide, by decide, rfl⟩)⟩
  · have regular : (layer 1).Regular .float32 1 1 := regular_constant rfl _ 1
    have reach : (layer 1).reach = .window (.int (1 : Nat)) := rfl
    have padding : ∀ given ∈ some dropsFirst, given.shape = [1, 2] := forall_mem_some rfl
    rcases twoPositions_modest (.window (.int 1)) with ⟨modest, otherModest⟩
    obtain ⟨answer, otherAnswer, blocks, ran, otherRan, found, agree⟩ := local_causal regular reach
      (by decide) (sized 0) (sized 4) padding modest otherModest (by decide) same
    have single : Blocks.ofSequence 2 1 = .ok ⟨1, 2⟩ := rfl
    obtain rfl : blocks = ⟨1, 2⟩ := Except.ok.inj (found.symm.trans single)
    exact ⟨answer, otherAnswer, ran, otherRan, agree 0 0 0 (by decide) (by decide) (by decide)
      (Or.inr (by decide))⟩

omit [Falloff] in
/-- With a window of two and the first position dropped, the window of the first position holds no
kept key. Its answer is one or two as the second position holds a zero or a four. -/
theorem dropped_position_reads_later :
    let _ : Falloff := Falloff.linear
    let layer : Layer ℚ := constant .float32 1 1 (.window (.int 2)) 1
    layer.Modest .float32 1 1 (twoPositions 0) 1 2 ∧
    layer.Modest .float32 1 1 (twoPositions 4) 1 2 ∧
    (twoPositions 0).slice 1 0 1 = (twoPositions 4).slice 1 0 1 ∧
    ∃ answer otherAnswer,
      layer.run { hidden := twoPositions 0, attentionMask := some dropsFirst } = .ok answer ∧
      layer.run { hidden := twoPositions 4, attentionMask := some dropsFirst } =
        .ok otherAnswer ∧
      answer.output.tensor.get [0, 0, 0] = 1 ∧ otherAnswer.output.tensor.get [0, 0, 0] = 2 := by
  intro falloff layer
  have read : ((layer.run { hidden := twoPositions 0, attentionMask := some dropsFirst }
      ).toOption.map fun answer => answer.output.tensor.get [0, 0, 0]) = some 1 := by
    decide +kernel
  have otherRead : ((layer.run { hidden := twoPositions 4, attentionMask := some dropsFirst }
      ).toOption.map fun answer => answer.output.tensor.get [0, 0, 0]) = some 2 := by
    decide +kernel
  rcases exists_of_map_toOption read with ⟨answer, ran, entry⟩
  rcases exists_of_map_toOption otherRead with ⟨otherAnswer, otherRan, otherEntry⟩
  exact ⟨(twoPositions_modest _).1, (twoPositions_modest _).2, twoPositions_front 0 4, answer,
    otherAnswer, ran, otherRan, entry, otherEntry⟩

end Layer

end CausalAttention
