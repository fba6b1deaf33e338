import CausalAttention.Layer.Run
import CausalAttention.Proofs.Layer.Regular
import CausalAttention.Proofs.Mask

/-!
What a local layer answers with. Without a cache every query of every block attends to the window
of its block; with a cache the one new query is the last one of the last block of the sequence.
-/

set_option autoImplicit false

namespace CausalAttention

variable {α : Type} [Arithmetic α]

/-- The queries of a run: the blocks that they are cut into, and the place of the first of them
in the blocks of the whole sequence. -/
structure QueryCut where
  count : Nat
  length : Nat
  firstBlock : Nat
  firstInner : Nat

namespace Blocks

def allQueries (blocks : Blocks) : QueryCut :=
  ⟨blocks.count, blocks.length, 0, 0⟩

def lastQuery (blocks : Blocks) : QueryCut :=
  ⟨1, 1, blocks.count - 1, blocks.length - 1⟩

theorem Cut.requirePositive_window {blocks : Blocks} {sequence window : Nat}
    (cut : blocks.Cut sequence window) :
    requirePositive (.int window) (.windowTooSmall (.int window)) = .ok () := by
  have lengthPositive := cut.lengthPositive
  have lengthLe := cut.lengthLe
  rw [requirePositive_int, if_pos (by omega)]

theorem Cut.lastPosition {blocks : Blocks} {sequence window : Nat}
    (cut : blocks.Cut sequence window) :
    (blocks.count - 1) * blocks.length + (blocks.length - 1) = sequence - 1 := by
  obtain ⟨earlier, counted⟩ : ∃ earlier, blocks.count = earlier + 1 :=
    ⟨blocks.count - 1, by have := cut.countPositive; omega⟩
  have whole := cut.whole
  have positive := cut.lengthPositive
  rw [counted, Nat.succ_mul] at whole
  rw [counted, Nat.add_sub_cancel]
  omega

theorem Cut.lastPlace {blocks : Blocks} {sequence window : Nat}
    (cut : blocks.Cut sequence window) :
    (sequence - 1) / blocks.length = blocks.count - 1 ∧
      (sequence - 1) % blocks.length = blocks.length - 1 := by
  have positive := cut.lengthPositive
  have below : blocks.length - 1 < blocks.length := Nat.sub_lt positive Nat.one_pos
  rw [← cut.lastPosition, Nat.add_comm]
  constructor
  · rw [Nat.add_mul_div_right _ _ positive, Nat.div_eq_of_lt below, Nat.zero_add]
  · rw [Nat.add_mul_mod_self_right, Nat.mod_eq_of_lt below]

end Blocks

structure TypedTensor.BlockHeads (held : TypedTensor α) (type : ElementType)
    (batch count heads slots size : Nat) (content : Nat → Nat → Nat → Nat → α) : Prop where
  sized : held.Sized type [batch, count, heads, slots, size]
  get : ∀ row block head slot feature, row < batch → block < count → head < heads →
    slot < slots → feature < size →
    held.tensor.get [row, block, head, slot, feature] =
      content row block slot (head * size + feature)

theorem TypedTensor.BlockHeads.headRow_eq {held : TypedTensor α} {type : ElementType}
    {batch count heads slots size : Nat} {content : Nat → Nat → Nat → Nat → α}
    (holds : held.BlockHeads type batch count heads slots size content)
    {row block head slot : Nat} (rowBelow : row < batch) (blockBelow : block < count)
    (headBelow : head < heads) (slotBelow : slot < slots) :
    ((List.range size).map fun feature =>
        held.tensor.get ([row, block, head] ++ [slot, feature])) =
      Layer.headRow size head (content row block slot) := by
  apply List.map_congr_left
  intro feature member
  exact holds.get row block head slot feature rowBelow blockBelow headBelow slotBelow
    (List.mem_range.mp member)

/-- A mask for a sequence of a local layer: a padding mask of its positions, or one in the layout
of its blocks. -/
def TypedTensor.MasksWindows (mask : TypedTensor α) (batch sequence : Nat) (blocks : Blocks)
    (window : Nat) : Prop :=
  mask.shape = [batch, sequence] ∨
    mask.shape = [batch, blocks.count, 1, blocks.length, window + blocks.length]

theorem Tensor.lastRow_reads {β : Type} [Inhabited β] {tensor : Tensor β}
    {batch count middle length slots : Nat} (countPositive : 0 < count)
    (lengthPositive : 0 < length) (sizes : tensor.shape = [batch, count, middle, length, slots]) :
    ((tensor.takeLast 1 1).takeLast 3 1).shape = [batch, 1, middle, 1, slots] ∧
      ∀ row block between inner slot, row < batch → block < 1 → between < middle → inner < 1 →
        slot < slots → ((tensor.takeLast 1 1).takeLast 3 1).get [row, block, between, inner, slot] =
          tensor.get [row, count - 1 + block, between, length - 1 + inner, slot] := by
  rcases takeLast_reads 1 sizes countPositive rfl with ⟨blockShape, blockGet⟩
  rcases takeLast_reads 3 blockShape lengthPositive rfl with ⟨rowShape, rowGet⟩
  refine ⟨rowShape, ?_⟩
  intro row block between inner slot rowBelow blockBelow betweenBelow innerBelow slotBelow
  have lastBelow : length - 1 + inner < length := by omega
  refine (rowGet [row, block, between, inner, slot]
    ⟨rowBelow, blockBelow, betweenBelow, innerBelow, slotBelow, trivial⟩).trans ?_
  exact blockGet [row, block, between, length - 1 + inner, slot]
    ⟨rowBelow, blockBelow, betweenBelow, lastBelow, slotBelow, trivial⟩

namespace Layer

variable {layer : Layer α} {type : ElementType} {heads size batch sequence window : Nat}
  {blocks : Blocks} {states : TypedTensor α}

def slotFeature (type : ElementType) (states matrix : TypedTensor α) (row : Nat)
    (position? : Option Nat) (feature : Nat) : α :=
  match position? with
  | none => Arithmetic.ofInteger type 0
  | some position => states.projected matrix [row, position] feature

/-- Whether the mask of a run lets a query of a block see a slot. -/
def shows (blocks : Blocks) (window : Nat) (mask : Option (TypedTensor α))
    (row block inner slot : Nat) : Bool :=
  match mask with
  | none => blocks.sees window (keptAt mask row) block inner slot
  | some given =>
      if given.rank = 5 then Arithmetic.isNonzero (given.tensor.get [row, block, 0, inner, slot])
      else blocks.sees window (keptAt mask row) block inner slot

def localScore (layer : Layer α) (type : ElementType) (size : Nat) (states : TypedTensor α)
    (blocks : Blocks) (window : Nat) (mask : Option (TypedTensor α))
    (row block inner head slot : Nat) : α :=
  if shows blocks window mask row block inner slot then
    Attended.similarity type
      (headRow size head
        (states.projected layer.parameters.query [row, block * blocks.length + inner]))
      (headRow size head (slotFeature type states layer.parameters.key row
        (Blocks.position? blocks.length window block slot)))
  else Attended.hiddenScore layer.maskedBias

def localValue (layer : Layer α) (type : ElementType) (states : TypedTensor α) (blocks : Blocks)
    (window row block slot feature : Nat) : α :=
  slotFeature type states layer.parameters.value row
    (Blocks.position? blocks.length window block slot) feature

/-- What a local layer answers the queries of a cut with. -/
structure LocalAnswer (layer : Layer α) (type : ElementType) (heads size : Nat)
    (states : TypedTensor α) (batch : Nat) (blocks : Blocks) (window : Nat)
    (mask headMask : Option (TypedTensor α)) (queries : QueryCut) (answer : Attended α) :
    Prop where
  weightsSized : answer.weights.Sized type
    [batch, queries.count, heads, queries.length, window + blocks.length]
  outputSized : answer.output.Sized type [batch, queries.count * queries.length, heads * size]
  weightsGet : ∀ row block head inner slot, row < batch → block < queries.count →
    head < heads → inner < queries.length → slot < window + blocks.length →
    answer.weights.tensor.get [row, block, head, inner, slot] =
      rowWeight type headMask (window + blocks.length)
        (layer.localScore type size states blocks window mask row
          (queries.firstBlock + block) (queries.firstInner + inner)) head slot
  outputGet : ∀ row position entry, row < batch → position < queries.count * queries.length →
    entry < heads * size → answer.output.tensor.get [row, position, entry] =
      layer.rowOutput type size headMask (window + blocks.length)
        (layer.localScore type size states blocks window mask row
          (queries.firstBlock + position / queries.length)
          (queries.firstInner + position % queries.length))
        (layer.localValue type states blocks window row
          (queries.firstBlock + position / queries.length)) entry

theorem LocalAnswer.position_row {mask headMask : Option (TypedTensor α)} {answer : Attended α}
    (answered : layer.LocalAnswer type heads size states batch blocks window mask headMask
      blocks.allQueries answer) (cut : blocks.Cut sequence window) {row position entry : Nat}
    (rowBelow : row < batch) (positionBelow : position < sequence)
    (entryBelow : entry < heads * size) :
    answer.output.tensor.get [row, position, entry] =
      layer.rowOutput type size headMask (window + blocks.length)
        (layer.localScore type size states blocks window mask row (position / blocks.length)
          (position % blocks.length))
        (layer.localValue type states blocks window row (position / blocks.length)) entry := by
  have covered : position < blocks.count * blocks.length := by
    rw [cut.whole]
    exact positionBelow
  refine (answered.outputGet row position entry rowBelow covered entryBelow).trans ?_
  simp only [Blocks.allQueries, Nat.zero_add]

theorem Regular.splitBlocks_reads (regular : layer.Regular type heads size)
    {features : TypedTensor α} {count slots : Nat} {content : Nat → Nat → Nat → Nat → α}
    (sized : features.Sized type [batch, count, slots, heads * size])
    (entries : ∀ row block slot feature, row < batch → block < count → slot < slots →
      feature < heads * size →
      features.tensor.get [row, block, slot, feature] = content row block slot feature) :
    ∃ held, layer.split features = .ok held ∧
      held.BlockHeads type batch count heads slots size content := by
  have known : ([batch, count] : Shape).length = 1 ∨ ([batch, count] : Shape).length = 2 :=
    Or.inr rfl
  rcases regular.split_reads known sized with ⟨held, splitted, heldSized, heldGet⟩
  refine ⟨held, splitted, heldSized, ?_⟩
  intro row block head slot feature rowBelow blockBelow headBelow slotBelow featureBelow
  have within := feature_below headBelow featureBelow
  have entry := heldGet [row, block] head slot feature ⟨rowBelow, blockBelow, trivial⟩ headBelow
    slotBelow featureBelow
  exact entry.trans (entries row block slot _ rowBelow blockBelow slotBelow within)

/-- The windows of the blocks of a cut: the features of their slots, and the part of the mask that
belongs to the queries. -/
structure Shown (layer : Layer α) (type : ElementType) (heads size : Nat)
    (states : TypedTensor α) (batch : Nat) (blocks : Blocks) (window : Nat)
    (mask : Option (TypedTensor α)) (queries : QueryCut) (key value : TypedTensor α)
    (visible : Tensor Bool) : Prop where
  keySized : key.Sized type [batch, queries.count, window + blocks.length, heads * size]
  valueSized : value.Sized type [batch, queries.count, window + blocks.length, heads * size]
  visibleShape : visible.shape =
    [batch, queries.count, 1, queries.length, window + blocks.length]
  keyGet : ∀ row block slot feature, row < batch → block < queries.count →
    slot < window + blocks.length → feature < heads * size →
    key.tensor.get [row, block, slot, feature] =
      slotFeature type states layer.parameters.key row
        (Blocks.position? blocks.length window (queries.firstBlock + block) slot) feature
  valueGet : ∀ row block slot feature, row < batch → block < queries.count →
    slot < window + blocks.length → feature < heads * size →
    value.tensor.get [row, block, slot, feature] =
      layer.localValue type states blocks window row (queries.firstBlock + block) slot feature
  visibleGet : ∀ row block inner slot, row < batch → block < queries.count →
    inner < queries.length → slot < window + blocks.length →
    visible.get [row, block, 0, inner, slot] =
      shows blocks window mask row (queries.firstBlock + block) (queries.firstInner + inner) slot

structure Windows (layer : Layer α) (type : ElementType) (heads size : Nat)
    (states : TypedTensor α) (batch : Nat) (blocks : Blocks) (window : Nat)
    (mask : Option (TypedTensor α)) (queries : QueryCut)
    (query key value : TypedTensor α) (visible : Tensor Bool) : Prop
    extends layer.Shown type heads size states batch blocks window mask queries key value
      visible where
  querySized : query.Sized type [batch, queries.count, queries.length, heads * size]
  queryGet : ∀ row block inner feature, row < batch → block < queries.count →
    inner < queries.length → feature < heads * size →
    query.tensor.get [row, block, inner, feature] =
      states.projected layer.parameters.query
        [row, (queries.firstBlock + block) * blocks.length + (queries.firstInner + inner)] feature

def attendWindows (layer : Layer α) (queryBlocks keyWindows valueWindows : TypedTensor α)
    (visible : Tensor Bool) (headMask : Option (TypedTensor α)) (sizes : List Int) :
    Except Failure (Attended α) := do
  let query ← layer.split queryBlocks
  let key ← layer.split keyWindows
  let value ← layer.split valueWindows
  let attended ← Attended.ofMasked query key value visible layer.maskedBias
    layer.attentionDropout none headMask
  let output ← layer.finish attended.output (some sizes)
  return ⟨output, attended.weights⟩

namespace Windows

variable {mask headMask : Option (TypedTensor α)} {queries : QueryCut}
  {queryBlocks keyWindows valueWindows : TypedTensor α} {visible : Tensor Bool}

/-- The operands of the queries, split into heads, go together, and they score the slots as the
blocks of the whole sequence have them. -/
theorem operands (regular : layer.Regular type heads size)
    (windows : layer.Windows type heads size states batch blocks window mask queries queryBlocks
      keyWindows valueWindows visible)
    (perHead : ∀ factors ∈ headMask, PerHead factors heads) :
    ∃ query key value, layer.split queryBlocks = .ok query ∧ layer.split keyWindows = .ok key ∧
      layer.split valueWindows = .ok value ∧
      Attended.Fits query key value visible layer.maskedBias none headMask type
        [batch, queries.count, heads] queries.length (window + blocks.length) size ∧
      (∀ row block head inner slot, row < batch → block < queries.count → head < heads →
        inner < queries.length → slot < window + blocks.length →
        Attended.score query key visible layer.maskedBias none size [row, block, head] inner slot =
          layer.localScore type size states blocks window mask row (queries.firstBlock + block)
            (queries.firstInner + inner) head slot) ∧
      value.BlockHeads type batch queries.count heads (window + blocks.length) size
        fun row block => layer.localValue type states blocks window row
          (queries.firstBlock + block) := by
  obtain ⟨query, querySplit, queryHolds⟩ :=
    regular.splitBlocks_reads windows.querySized windows.queryGet
  rcases regular.splitBlocks_reads windows.keySized windows.keyGet with ⟨key, keySplit, keyHolds⟩
  obtain ⟨value, valueSplit, valueHolds⟩ :=
    regular.splitBlocks_reads windows.valueSized windows.valueGet
  refine ⟨query, key, value, querySplit, keySplit, valueSplit, ?_, ?_, valueHolds⟩
  · refine {
      numeric := regular.numeric
      queryType := queryHolds.sized.type_eq
      keyType := keyHolds.sized.type_eq
      valueType := valueHolds.sized.type_eq
      queryShape := queryHolds.sized.shape_eq
      keyShape := keyHolds.sized.shape_eq
      valueShape := valueHolds.sized.shape_eq
      visibleShape := ?_
      biasShape := regular.biasShape
      additiveType := forall_mem_none
      additiveShape := forall_mem_none
      headMaskAxes := fun factors given => (perHead factors given).rank_ne_zero
      headMaskShape := fun factors given =>
        (perHead factors given).repeats [batch] queries.count queries.length
          (window + blocks.length) }
    rw [windows.visibleShape]
    exact ⟨[], _, rfl, Or.inl rfl, Or.inl rfl, Or.inr rfl, Or.inl rfl, Or.inl rfl, trivial⟩
  · intro row block head inner slot rowBelow blockBelow headBelow innerBelow slotBelow
    have seen : visible.getJoined [row, block, head, inner, slot] =
        visible.get [row, block, 0, inner, slot] := by
      have projected : Shape.project
          [batch, queries.count, 1, queries.length, window + blocks.length]
          [row, block, head, inner, slot] = [row, block, 0, inner, slot] := by
        simp [Shape.project, Shape.project_coordinate, rowBelow, blockBelow, innerBelow, slotBelow]
      unfold Tensor.getJoined
      rw [windows.visibleShape, projected]
    have place : [row, block, head] ++ [inner, slot] = [row, block, head, inner, slot] := rfl
    unfold Attended.score localScore Attended.plus
    rw [place, seen,
      windows.visibleGet row block inner slot rowBelow blockBelow innerBelow slotBelow,
      queryHolds.headRow_eq rowBelow blockBelow headBelow innerBelow,
      keyHolds.headRow_eq rowBelow blockBelow headBelow slotBelow, queryHolds.sized.type_eq]

/-- The queries of a cut are answered, unless the head mask widens the type of the values. -/
theorem answers (regular : layer.Regular type heads size)
    (windows : layer.Windows type heads size states batch blocks window mask queries queryBlocks
      keyWindows valueWindows visible)
    (perHead : ∀ factors ∈ headMask, PerHead factors heads)
    (narrow : ∀ factors ∈ headMask, type.join factors.elementType = type) {positions : Nat}
    (covered : queries.count * queries.length = positions) :
    ∃ answer, layer.attendWindows queryBlocks keyWindows valueWindows visible headMask
        [(batch : Int), positions, layer.width] = .ok answer ∧
      layer.LocalAnswer type heads size states batch blocks window mask headMask queries
        answer := by
  obtain ⟨query, key, value, querySplit, keySplit, valueSplit, operandsFit, scoreEq, valueHolds⟩ :=
    windows.operands regular perHead
  rcases Attended.ofMasked_mixes operandsFit narrow with ⟨attended, made, mixes⟩
  have attendedSized : attended.output.Sized type
      [batch, queries.count, heads, queries.length, size] := ⟨mixes.outputType, mixes.outputShape⟩
  obtain ⟨output, finished, outputSized, outputGet⟩ :=
    regular.finish_regrouped_reads covered attendedSized
  have queryType : query.elementType = type := operandsFit.queryType
  have weightEq (row block head inner slot : Nat) (rowBelow : row < batch)
      (blockBelow : block < queries.count) (headBelow : head < heads)
      (innerBelow : inner < queries.length) :
      Attended.weight query key visible layer.maskedBias none headMask (window + blocks.length)
        size [row, block, head] inner slot =
      rowWeight type headMask (window + blocks.length)
        (layer.localScore type size states blocks window mask row (queries.firstBlock + block)
          (queries.firstInner + inner)) head slot := by
    unfold Attended.weight
    rw [queryType]
    refine (times_of_heads perHead type [row] block inner slot _).trans ?_
    apply rowWeight_congr
    intro other otherBelow
    exact scoreEq row block head inner other rowBelow blockBelow headBelow innerBelow otherBelow
  refine ⟨⟨output, attended.weights⟩, ?_, ?_⟩
  · simp only [attendWindows, querySplit, keySplit, valueSplit, regular.attentionDropout, made,
      finished, bind, Except.bind, pure, Except.pure]
  · subst covered
    refine {
      weightsSized := ⟨mixes.weightsType, mixes.weightsShape⟩
      outputSized := outputSized
      weightsGet := ?_
      outputGet := ?_ }
    · intro row block head inner slot rowBelow blockBelow headBelow innerBelow slotBelow
      have inside : Shape.Contains [batch, queries.count, heads] [row, block, head] :=
        ⟨rowBelow, blockBelow, headBelow, trivial⟩
      exact (mixes.weightsGet [row, block, head] inner slot inside innerBelow slotBelow).trans
        (weightEq row block head inner slot rowBelow blockBelow headBelow innerBelow)
    · intro row position entry rowBelow positionBelow entryBelow
      refine (outputGet row position entry rowBelow positionBelow entryBelow).trans ?_
      rcases head_below positionBelow with ⟨blockBelow, innerBelow, _⟩
      apply regular.outputEntry_of_mixed fun head part => attended.output.tensor.get
        [row, position / queries.length, head, position % queries.length, part]
      · intro head part headBelow partBelow
        have inside : Shape.Contains [batch, queries.count, heads]
            [row, position / queries.length, head] := ⟨rowBelow, blockBelow, headBelow, trivial⟩
        exact mixes.outputGet _ _ part inside innerBelow partBelow
      · intro head slot headBelow _
        exact weightEq row _ head _ slot rowBelow blockBelow headBelow innerBelow
      · intro head slot part headBelow slotBelow partBelow
        exact valueHolds.get row _ head slot part rowBelow blockBelow headBelow slotBelow partBelow

theorem fails_of_wider (regular : layer.Regular type heads size)
    (windows : layer.Windows type heads size states batch blocks window mask queries queryBlocks
      keyWindows valueWindows visible)
    (perHead : ∀ factors ∈ headMask, PerHead factors heads)
    {factors : TypedTensor α} (given : headMask = some factors)
    (wider : type.join factors.elementType ≠ type) (sizes : List Int) :
    layer.attendWindows queryBlocks keyWindows valueWindows visible headMask sizes =
      .error .elementTypesDisagree := by
  obtain ⟨query, key, value, querySplit, keySplit, valueSplit, operandsFit, _⟩ :=
    windows.operands regular perHead
  simp only [attendWindows, querySplit, keySplit, valueSplit, regular.attentionDropout,
    Attended.ofMasked_of_wider operandsFit given wider, bind, Except.bind]

end Windows

/-! ### One run -/

theorem windowMask_reads (cut : blocks.Cut sequence window) {mask : Option (TypedTensor α)}
    (masks : ∀ given ∈ mask, given.MasksWindows batch sequence blocks window) :
    ∃ full, windowMask batch sequence window mask = .ok full ∧
      full.shape = [batch, blocks.count, 1, blocks.length, window + blocks.length] ∧
      ∀ row block inner slot, row < batch → block < blocks.count → inner < blocks.length →
        slot < window + blocks.length →
        full.get [row, block, 0, inner, slot] = shows blocks window mask row block inner slot := by
  cases mask with
  | none =>
      have sizes : ∀ given ∈ (none : Option (TypedTensor α)), given.shape = [batch, sequence] :=
        forall_mem_none
      exact localMask_reads cut sizes
  | some given =>
      rcases masks given rfl with padding | layout
      · have rankEq : given.rank = 2 := congrArg List.length padding
        have sizes : ∀ other ∈ some given, other.shape = [batch, sequence] := by
          intro other same
          cases same
          exact padding
        rcases localMask_reads cut sizes with ⟨full, made, fullShape, fullGet⟩
        refine ⟨full, ?_, fullShape, ?_⟩
        · simp only [windowMask, rankEq]
          exact made
        · intro row block inner slot rowBelow blockBelow innerBelow slotBelow
          rw [fullGet row block inner slot rowBelow blockBelow innerBelow slotBelow]
          simp only [shows, rankEq]
          rfl
      · have rankEq : given.rank = 5 := congrArg List.length layout
        refine ⟨given.truth, ?_, layout, ?_⟩
        · simp only [windowMask, rankEq, if_true]
        · intro row block inner slot rowBelow blockBelow innerBelow slotBelow
          have inside : Shape.Contains given.shape [row, block, 0, inner, slot] := by
            rw [layout]
            exact ⟨rowBelow, blockBelow, Nat.one_pos, innerBelow, slotBelow, trivial⟩
          simp only [shows, rankEq, if_true]
          exact Tensor.get_map _ _ inside

omit [Arithmetic α] in
theorem requireWindowMask_of_fits {mask : Option (TypedTensor α)} {queries : TypedTensor α}
    (masks : ∀ given ∈ mask, given.MasksWindows batch sequence blocks window)
    (queriesRank : queries.tensor.rank = 3) : requireWindowMask mask queries = .ok () := by
  cases mask with
  | none => rfl
  | some given =>
      rcases masks given rfl with padding | layout
      · have rankEq : given.rank = 2 := congrArg List.length padding
        simp only [requireWindowMask, rankEq, if_true]
      · have rankEq : given.rank = 5 := congrArg List.length layout
        have ranked : queries.tensor.requireRank 2 3 = .ok () :=
          Tensor.requireRank_of_rank (Or.inr queriesRank)
        simp only [requireWindowMask, rankEq, ranked]
        rfl

theorem windowFeatures_reads (cut : blocks.Cut sequence window) {matrix : TypedTensor α}
    {width : Nat} (sized : states.Sized type [batch, sequence, width])
    (matrixSized : matrix.Sized type [width, width]) :
    ∃ features spread, states.linear matrix = .ok features ∧
      windowFeatures blocks window features = .ok spread ∧
      spread.Sized type [batch, blocks.count, window + blocks.length, width] ∧
      ∀ row block slot feature, row < batch → block < blocks.count →
        slot < window + blocks.length → feature < width →
        spread.tensor.get [row, block, slot, feature] =
          slotFeature type states matrix row (Blocks.position? blocks.length window block slot)
            feature := by
  rcases sized.linear_reads matrixSized with ⟨features, made, featuresSized, featuresGet⟩
  have sizes : features.tensor.shape = [batch, blocks.count * blocks.length, width] := by
    rw [cut.whole]
    exact featuresSized.shape_eq
  obtain ⟨result, looked, resultShape, resultGet⟩ := Tensor.lookBack_features_reads window
    (Arithmetic.ofInteger features.elementType 0) cut.countPositive cut.lengthPositive sizes
  refine ⟨features, ⟨features.elementType, result⟩, made, TypedTensor.relayout_of_ok looked,
    ⟨featuresSized.type_eq, resultShape⟩, ?_⟩
  intro row block slot feature rowBelow blockBelow slotBelow featureBelow
  refine (resultGet row block slot feature rowBelow blockBelow slotBelow featureBelow).trans ?_
  cases shown : Blocks.position? blocks.length window block slot with
  | none => simp only [Tensor.getOr, slotFeature, featuresSized.type_eq]
  | some position =>
      exact featuresGet row position feature rowBelow
        (cut.position_lt blockBelow slotBelow shown) featureBelow

theorem lastBlock_reads {features : TypedTensor α} {count slots width : Nat} (positive : 0 < count)
    (sized : features.Sized type [batch, count, slots, width]) :
    (features.takeLast 1 1).Sized type [batch, 1, slots, width] ∧
      ∀ row block slot feature, row < batch → block < 1 → slot < slots → feature < width →
        (features.takeLast 1 1).tensor.get [row, block, slot, feature] =
          features.tensor.get [row, count - 1 + block, slot, feature] := by
  rcases sized.takeLast_reads 1 positive rfl with ⟨lastSized, lastGet⟩
  refine ⟨lastSized, ?_⟩
  intro row block slot feature rowBelow blockBelow slotBelow featureBelow
  exact lastGet _ ⟨rowBelow, blockBelow, slotBelow, featureBelow, trivial⟩

theorem exists_shown (regular : layer.Regular type heads size) (cut : blocks.Cut sequence window)
    (sized : states.Sized type [batch, sequence, heads * size]) {mask : Option (TypedTensor α)}
    (masks : ∀ given ∈ mask, given.MasksWindows batch sequence blocks window) :
    ∃ keyFeatures valueFeatures key value visible,
      states.linear layer.parameters.key = .ok keyFeatures ∧
      states.linear layer.parameters.value = .ok valueFeatures ∧
      windowFeatures blocks window keyFeatures = .ok key ∧
      windowFeatures blocks window valueFeatures = .ok value ∧
      windowMask batch sequence window mask = .ok visible ∧
      layer.Shown type heads size states batch blocks window mask blocks.allQueries key value
        visible := by
  obtain ⟨keyFeatures, key, keyMade, keyLooked, keySized, keyGet⟩ :=
    windowFeatures_reads cut sized regular.parameters.key
  obtain ⟨valueFeatures, value, valueMade, valueLooked, valueSized, valueGet⟩ :=
    windowFeatures_reads cut sized regular.parameters.value
  rcases windowMask_reads cut masks with ⟨visible, masked, visibleShape, visibleGet⟩
  refine ⟨keyFeatures, valueFeatures, key, value, visible, keyMade, valueMade, keyLooked,
    valueLooked, masked, ?_⟩
  refine ⟨keySized, valueSized, visibleShape, ?_, ?_, ?_⟩
  all_goals simp only [Blocks.allQueries, Nat.zero_add]
  · exact keyGet
  · exact valueGet
  · exact visibleGet

/-- The last row of the last block sees what it sees among all queries. -/
theorem Shown.last {mask : Option (TypedTensor α)} {key value : TypedTensor α}
    {visible : Tensor Bool} (cut : blocks.Cut sequence window)
    (shown : layer.Shown type heads size states batch blocks window mask blocks.allQueries key
      value visible) :
    layer.Shown type heads size states batch blocks window mask blocks.lastQuery
      (key.takeLast 1 1) (value.takeLast 1 1) ((visible.takeLast 1 1).takeLast 3 1) := by
  have countPositive := cut.countPositive
  have lengthPositive := cut.lengthPositive
  rcases lastBlock_reads countPositive shown.keySized with ⟨keySized, keyGet⟩
  rcases lastBlock_reads countPositive shown.valueSized with ⟨valueSized, valueGet⟩
  obtain ⟨visibleShape, visibleGet⟩ :=
    Tensor.lastRow_reads countPositive lengthPositive shown.visibleShape
  have allKeys := shown.keyGet
  have allValues := shown.valueGet
  have allRows := shown.visibleGet
  simp only [Blocks.allQueries, Nat.zero_add] at allKeys allValues allRows
  refine ⟨keySized, valueSized, visibleShape, ?_, ?_, ?_⟩
  all_goals simp only [Blocks.lastQuery]
  · intro row block slot feature rowBelow blockBelow slotBelow featureBelow
    exact (keyGet row block slot feature rowBelow blockBelow slotBelow featureBelow).trans
      (allKeys row _ slot feature rowBelow (by omega) slotBelow featureBelow)
  · intro row block slot feature rowBelow blockBelow slotBelow featureBelow
    exact (valueGet row block slot feature rowBelow blockBelow slotBelow featureBelow).trans
      (allValues row _ slot feature rowBelow (by omega) slotBelow featureBelow)
  · intro row block inner slot rowBelow blockBelow innerBelow slotBelow
    exact (visibleGet row block 0 inner slot rowBelow blockBelow Nat.one_pos innerBelow
      slotBelow).trans (allRows row _ _ slot rowBelow (by omega) (by omega) slotBelow)

theorem Regular.queryBlocks_reads (regular : layer.Regular type heads size)
    {hidden : TypedTensor α} {count length : Nat}
    (sized : hidden.Sized type [batch, count * length, heads * size]) :
    ∃ features query, hidden.linear layer.parameters.query = .ok features ∧
      features.tensor.rank = 3 ∧
      features.relayout (Tensor.splitSequence count length (some layer.width)) = .ok query ∧
      query.Sized type [batch, count, length, heads * size] ∧
      ∀ row block inner feature, row < batch → block < count → inner < length →
        feature < heads * size →
        query.tensor.get [row, block, inner, feature] =
          hidden.projected layer.parameters.query [row, block * length + inner] feature := by
  obtain ⟨features, made, featuresSized, featuresGet⟩ :=
    sized.linear_reads regular.parameters.query
  obtain ⟨query, queryMade, queryShape, queryGet⟩ :=
    Tensor.splitSequence_features_reads featuresSized.shape_eq
  have relaid : features.relayout (Tensor.splitSequence count length (some layer.width)) =
      .ok ⟨features.elementType, query⟩ := by
    apply TypedTensor.relayout_of_ok
    rw [regular.width]
    exact queryMade
  refine ⟨features, _, made, congrArg List.length featuresSized.shape_eq, relaid,
    ⟨featuresSized.type_eq, queryShape⟩, ?_⟩
  intro row block inner feature rowBelow blockBelow innerBelow featureBelow
  have within : block * length + inner < count * length := by
    calc block * length + inner < (block + 1) * length := by
          rw [Nat.succ_mul]
          omega
      _ ≤ count * length := Nat.mul_le_mul_right length blockBelow
  exact (queryGet row block inner feature).trans
    (featuresGet row (block * length + inner) feature rowBelow within featureBelow)

/-- A run of a local layer on all positions of hidden states, or on the last one with those before
it in the cache. -/
structure LocalRun (type : ElementType) (heads size : Nat) (states : TypedTensor α)
    (batch sequence : Nat) (blocks : Blocks) (window : Nat) (input : LayerInput α) : Prop where
  sized : states.Sized type [batch, sequence, heads * size]
  cut : blocks.Cut sequence window
  entered : input.past = none ∧ input.hidden = states ∨
    input.past = some [states.slice 1 0 (sequence - 1)] ∧
      input.hidden = states.slice 1 (sequence - 1) 1
  mask : ∀ given ∈ input.attentionMask, given.MasksWindows batch sequence blocks window
  headMask : ∀ factors ∈ input.headMask, PerHead factors heads

def queryCut (blocks : Blocks) (past : Option (Cache α)) : QueryCut :=
  if past.isSome then blocks.lastQuery else blocks.allQueries

namespace LocalRun

variable {input : LayerInput α}

theorem slicedPast (run : LocalRun type heads size states batch sequence blocks window input) :
    (states.slice 1 0 (sequence - 1)).append 1 (states.slice 1 (sequence - 1) 1) = .ok states := by
  have rankEq : states.rank = 3 := congrArg List.length run.sized.shape_eq
  have extent : states.tensor.extent 1 = sequence := by
    have sizes : states.tensor.shape = [batch, sequence, heads * size] := run.sized.shape_eq
    simp [Tensor.extent, sizes]
  have nonempty : sequence - 1 + 1 = sequence := Nat.sub_add_cancel run.cut.nonempty
  have tall : 2 ≤ states.rank := by omega
  have within : 1 < states.rank := by omega
  have joined := TypedTensor.append_slice (sequence - 1) 1 tall within
  rw [nonempty, TypedTensor.slice_all extent] at joined
  exact joined

/-- What a run is given are the positions of its queries, and the states are all positions. -/
theorem enters (run : LocalRun type heads size states batch sequence blocks window input)
    {queries : QueryCut} (cutEq : queryCut blocks input.past = queries) :
    input.hidden.Sized type [batch, queries.count * queries.length, heads * size] ∧
      (∃ pastCount, queries.count * queries.length + pastCount = sequence ∧
        extendHidden input.past input.hidden (queries.count * queries.length) =
          .ok (states, pastCount)) ∧
      ∀ matrix row block inner feature, row < batch → block < queries.count →
        inner < queries.length →
        input.hidden.projected matrix [row, block * queries.length + inner] feature =
          states.projected matrix [row, (queries.firstBlock + block) * blocks.length +
            (queries.firstInner + inner)] feature := by
  have statesShape : states.shape = [batch, sequence, heads * size] := run.sized.shape_eq
  rcases run.entered with ⟨fresh, same⟩ | ⟨cached, last⟩
  · have allEq : queries = blocks.allQueries := by rw [← cutEq, fresh]; rfl
    have whole : blocks.allQueries.count * blocks.allQueries.length = sequence := run.cut.whole
    rw [fresh, same, allEq, whole]
    refine ⟨run.sized, ⟨0, rfl, rfl⟩, ?_⟩
    intro matrix row block inner feature _ _ _
    simp only [Blocks.allQueries, Nat.zero_add]
  · have lastEq : queries = blocks.lastQuery := by rw [← cutEq, cached]; rfl
    have single : blocks.lastQuery.count * blocks.lastQuery.length = 1 := rfl
    have nonempty := run.cut.nonempty
    rw [cached, last, lastEq, single]
    refine ⟨⟨run.sized.type_eq, ?_⟩, ⟨sequence - 1, by omega, ?_⟩, ?_⟩
    · rw [TypedTensor.shape_slice, statesShape]
      rfl
    · have pastShape : (states.slice 1 0 (sequence - 1)).tensor.shape =
          [batch, sequence - 1, heads * size] := by
        change states.shape.set 1 (sequence - 1) = _
        rw [statesShape]
        rfl
      have pastCount : Cache.length [states.slice 1 0 (sequence - 1)] = sequence - 1 := by
        simp [Cache.length, TypedTensor.positionCount, TypedTensor.rank, Tensor.rank,
          Tensor.extent, pastShape]
      simp only [extendHidden, run.slicedPast, pastCount, Except.map]
      rfl
    · intro matrix row block inner feature rowBelow blockBelow innerBelow
      change block < 1 at blockBelow
      change inner < 1 at innerBelow
      have place : (blocks.count - 1 + block) * blocks.length + (blocks.length - 1 + inner) =
          sequence - 1 + (block * 1 + inner) := by
        rw [Nat.lt_one_iff.mp blockBelow, Nat.lt_one_iff.mp innerBelow]
        exact run.cut.lastPosition
      simp only [Blocks.lastQuery, place]
      exact TypedTensor.projected_slice statesShape rowBelow (by omega) (by omega) feature

/-- A run attends with its queries to the windows of their blocks: without a cache with those of all
blocks, with a cache with the last one. -/
theorem attends (regular : layer.Regular type heads size)
    (run : LocalRun type heads size states batch sequence blocks window input) :
    ∃ query key value visible,
      layer.Windows type heads size states batch blocks window input.attentionMask
        (queryCut blocks input.past) query key value visible ∧
      layer.runLocal (.int window) input =
        layer.attendWindows query key value visible input.headMask
          [(batch : Int), ((queryCut blocks input.past).count *
            (queryCut blocks input.past).length : Nat), layer.width] := by
  obtain ⟨keyFeatures, valueFeatures, key, value, visible, keyMade, valueMade, keyLooked,
    valueLooked, masked, shown⟩ := exists_shown regular run.cut run.sized run.mask
  have ⟨hiddenSized, ⟨pastCount, total, extended⟩, projectedEq⟩ := run.enters rfl
  obtain ⟨queryFeatures, query, queryMade, queryRank, cutMade, querySized, queryGet⟩ :=
    regular.queryBlocks_reads hiddenSized
  have hiddenShape := hiddenSized.shape_eq
  have permitted : requireWindowMask input.attentionMask queryFeatures = .ok () :=
    requireWindowMask_of_fits run.mask queryRank
  have positive := run.cut.requirePositive_window
  have nonempty : sequence ≠ 0 := Nat.ne_of_gt run.cut.nonempty
  have queryGetStates := fun row block inner feature rowBelow blockBelow innerBelow featureBelow =>
    (queryGet row block inner feature rowBelow blockBelow innerBelow featureBelow).trans
      (projectedEq _ row block inner feature rowBelow blockBelow innerBelow)
  cases cached : input.past.isSome with
  | false =>
      have cutEq : queryCut blocks input.past = blocks.allQueries := by
        simp only [queryCut, cached, Bool.false_eq_true, if_false]
      refine ⟨query, key, value, visible, ⟨cutEq ▸ shown, querySized, queryGetStates⟩, ?_⟩
      rw [cutEq] at hiddenShape extended total cutMade ⊢
      simp only [Blocks.allQueries] at hiddenShape extended total cutMade ⊢
      simp only [runLocal, hiddenShape, queryMade, extended, keyMade, valueMade, positive,
        permitted, Setting.windowSize, total, run.cut.found, nonempty, masked, cutMade, keyLooked,
        valueLooked, attendWindows, cached, bind, Except.bind, pure, Except.pure,
        Bool.false_eq_true, if_false]
  | true =>
      have cutEq : queryCut blocks input.past = blocks.lastQuery := by
        simp only [queryCut, cached, if_true]
      refine ⟨query, key.takeLast 1 1, value.takeLast 1 1, (visible.takeLast 1 1).takeLast 3 1,
        ⟨cutEq ▸ shown.last run.cut, querySized, queryGetStates⟩, ?_⟩
      rw [cutEq] at hiddenShape extended total cutMade ⊢
      simp only [Blocks.lastQuery] at hiddenShape extended total cutMade ⊢
      simp only [runLocal, hiddenShape, queryMade, extended, keyMade, valueMade, positive,
        permitted, Setting.windowSize, total, run.cut.found, nonempty, masked, cutMade, keyLooked,
        valueLooked, attendWindows, cached, TypedTensor.takeLast, bind, Except.bind, pure,
        Except.pure, if_true, if_false]

theorem answers (regular : layer.Regular type heads size)
    (run : LocalRun type heads size states batch sequence blocks window input)
    (narrow : ∀ factors ∈ input.headMask, type.join factors.elementType = type) :
    ∃ answer, layer.runLocal (.int window) input = .ok answer ∧
      layer.LocalAnswer type heads size states batch blocks window input.attentionMask
        input.headMask (queryCut blocks input.past) answer := by
  rcases run.attends regular with ⟨query, key, value, visible, windows, ran⟩
  rw [ran]
  exact windows.answers regular run.headMask narrow rfl

theorem remembers (run : LocalRun type heads size states batch sequence blocks window input) :
    rememberHidden input = .ok (if input.useCache then some [states] else none) := by
  unfold rememberHidden
  by_cases asked : input.useCache = true
  · rw [if_pos asked, if_pos asked]
    rcases run.entered with ⟨fresh, same⟩ | ⟨cached, last⟩
    · rw [fresh, same]
    · rw [cached, last]
      simp only [run.slicedPast, Except.map]
  · rw [if_neg asked, if_neg asked]

theorem run_answers (regular : layer.Regular type heads size)
    (reach : layer.reach = .window (.int window))
    (run : LocalRun type heads size states batch sequence blocks window input)
    (narrow : ∀ factors ∈ input.headMask, type.join factors.elementType = type) :
    ∃ answer : LayerOutput α, layer.run input = .ok answer ∧
      layer.LocalAnswer type heads size states batch blocks window input.attentionMask
        input.headMask (queryCut blocks input.past) ⟨answer.output, answer.weights⟩ ∧
      answer.present = if input.useCache then some [states] else none := by
  rcases run.answers regular narrow with ⟨attended, ran, answered⟩
  refine ⟨⟨attended.output, if input.useCache then some [states] else none, attended.weights⟩, ?_,
    answered, rfl⟩
  simp only [Layer.run, reach, ran, run.remembers, bind, Except.bind, pure, Except.pure]

theorem fails_of_wider (regular : layer.Regular type heads size)
    (run : LocalRun type heads size states batch sequence blocks window input)
    {factors : TypedTensor α} (given : input.headMask = some factors)
    (wider : type.join factors.elementType ≠ type) :
    layer.runLocal (.int window) input = .error .elementTypesDisagree := by
  rcases run.attends regular with ⟨query, key, value, visible, windows, ran⟩
  rw [ran]
  exact windows.fails_of_wider regular run.headMask given wider _

end LocalRun

end Layer

end CausalAttention
