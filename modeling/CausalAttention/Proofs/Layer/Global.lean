import CausalAttention.Layer.Run
import CausalAttention.Proofs.Layer.Regular
import CausalAttention.Proofs.Mask

/-!
What a global layer answers with. A run on some positions of hidden states, with the keys and the
values of the positions before them in the cache, scores the positions as they stand in the whole
sequence.
-/

set_option autoImplicit false

namespace CausalAttention

variable {α : Type} [Arithmetic α]

omit [Arithmetic α] in
theorem TypedTensor.positionCount_of_shape {typed : TypedTensor α} {batch heads count size : Nat}
    (sizes : typed.shape = [batch, heads, count, size]) : typed.positionCount = count := by
  have shapeEq : typed.tensor.shape = [batch, heads, count, size] := sizes
  simp [positionCount, rank, Tensor.rank, Tensor.extent, shapeEq]

/-- The image of the first positions of hidden states under a matrix, split into heads. -/
structure TypedTensor.HeadsOf (held states matrix : TypedTensor α) (type : ElementType)
    (batch heads count size : Nat) : Prop where
  sized : held.Sized type [batch, heads, count, size]
  get : ∀ row head position feature, row < batch → head < heads → position < count →
    feature < size → held.tensor.get [row, head, position, feature] =
      states.projected matrix [row, position] (head * size + feature)

namespace TypedTensor.HeadsOf

variable {held states matrix : TypedTensor α} {type : ElementType}
  {batch heads positions count size : Nat}

theorem positionCount_eq (holds : held.HeadsOf states matrix type batch heads count size) :
    held.positionCount = count :=
  positionCount_of_shape holds.sized.shape_eq

theorem append {first : Nat} {later : TypedTensor α} {width : Nat}
    (holds : held.HeadsOf states matrix type batch heads first size)
    (statesShape : states.shape = [batch, positions, width]) (enough : first + count ≤ positions)
    (follows : later.HeadsOf (states.slice 1 first count) matrix type batch heads count size) :
    ∃ result, held.append (-2) later = .ok result ∧
      result.HeadsOf states matrix type batch heads (first + count) size := by
  have heldPart : held.Sized type (([batch, heads, 0, size] : Shape).set 2 first) := holds.sized
  have laterPart : later.Sized type (([batch, heads, 0, size] : Shape).set 2 count) :=
    follows.sized
  obtain ⟨result, made, resultSized, resultGet⟩ :=
    heldPart.append_reads laterPart (-2) (by simp) (by simp) rfl
  refine ⟨result, made, resultSized, ?_⟩
  intro row head position feature rowBelow headBelow positionBelow featureBelow
  refine (resultGet [row, head, position, feature]
    ⟨rowBelow, headBelow, positionBelow, featureBelow, trivial⟩).trans ?_
  simp only [List.getD_cons_succ, List.getD_cons_zero, List.set_cons_succ, List.set_cons_zero]
  by_cases early : position < first
  · rw [if_pos early, holds.get row head position feature rowBelow headBelow early featureBelow]
  · have laterBelow : position - first < count := by omega
    rw [if_neg early,
      follows.get row head (position - first) feature rowBelow headBelow laterBelow featureBelow,
      projected_slice statesShape rowBelow laterBelow enough,
      Nat.add_sub_cancel' (Nat.le_of_not_lt early)]

theorem headRow_eq (holds : held.HeadsOf states matrix type batch heads count size)
    {row head position : Nat} (rowBelow : row < batch) (headBelow : head < heads)
    (positionBelow : position < count) :
    ((List.range size).map fun feature => held.tensor.get ([row, head] ++ [position, feature])) =
      Layer.headRow size head (states.projected matrix [row, position]) := by
  apply List.map_congr_left
  intro feature member
  exact holds.get row head position feature rowBelow headBelow positionBelow
    (List.mem_range.mp member)

end TypedTensor.HeadsOf

namespace Layer

variable {layer : Layer α} {type : ElementType} {heads size batch positions first count : Nat}
  {states : TypedTensor α} {input : LayerInput α}

theorem Regular.splitHeads_reads (regular : layer.Regular type heads size)
    {matrix : TypedTensor α} (sized : states.Sized type [batch, positions, heads * size])
    (matrixSized : matrix.Sized type [heads * size, heads * size]) :
    ∃ features held, states.linear matrix = .ok features ∧ layer.split features = .ok held ∧
      held.HeadsOf states matrix type batch heads positions size := by
  rcases sized.linear_reads matrixSized with ⟨features, made, featuresSized, featuresGet⟩
  have known : ([batch] : Shape).length = 1 ∨ ([batch] : Shape).length = 2 := Or.inl rfl
  rcases regular.split_reads known featuresSized with ⟨held, splitted, heldSized, heldGet⟩
  refine ⟨features, held, made, splitted, heldSized, ?_⟩
  intro row head position feature rowBelow headBelow positionBelow featureBelow
  have within := feature_below headBelow featureBelow
  have entry := heldGet [row] head position feature ⟨rowBelow, trivial⟩ headBelow positionBelow
    featureBelow
  exact entry.trans (featuresGet row position _ rowBelow positionBelow within)

def Remembers (layer : Layer α) (type : ElementType) (heads size : Nat) (states : TypedTensor α)
    (batch first : Nat) : Option (Cache α) → Prop
  | none => first = 0
  | some cache => ∃ key value, cache = [key, value] ∧
      key.HeadsOf states layer.parameters.key type batch heads first size ∧
      value.HeadsOf states layer.parameters.value type batch heads first size

theorem Remembers.unique {first : Nat} {past other : Option (Cache α)}
    (remembers : layer.Remembers type heads size states batch first past)
    (remembersOther : layer.Remembers type heads size states batch first other)
    (same : past.isSome = other.isSome) : past = other := by
  have unique {left right matrix : TypedTensor α}
      (leftHolds : left.HeadsOf states matrix type batch heads first size)
      (rightHolds : right.HeadsOf states matrix type batch heads first size) : left = right := by
    apply leftHolds.sized.ext rightHolds.sized
    intro row rowBelow head headBelow position positionBelow feature featureBelow
    exact (leftHolds.get row head position feature rowBelow headBelow positionBelow
      featureBelow).trans (rightHolds.get row head position feature rowBelow headBelow
        positionBelow featureBelow).symm
  cases past with
  | none =>
      cases other with
      | none => rfl
      | some cache => contradiction
  | some cache =>
      cases other with
      | none => contradiction
      | some otherCache =>
          rcases remembers with ⟨key, value, rfl, keyHolds, valueHolds⟩
          rcases remembersOther with ⟨otherKey, otherValue, rfl, otherKeyHolds, otherValueHolds⟩
          rw [unique keyHolds otherKeyHolds, unique valueHolds otherValueHolds]

theorem Remembers.length_eq {past : Option (Cache α)}
    (remembers : layer.Remembers type heads size states batch first past) :
    past.elim 0 Cache.length = first := by
  cases past with
  | none => exact remembers.symm
  | some cache =>
      rcases remembers with ⟨key, value, rfl, keyHolds, _⟩
      exact keyHolds.positionCount_eq

/-- A run of a global layer on as many positions of hidden states as asked for, with the positions
before them in the cache. -/
structure GlobalRun (layer : Layer α) (type : ElementType) (heads size : Nat)
    (states : TypedTensor α) (batch positions first count : Nat) (input : LayerInput α) :
    Prop where
  sized : states.Sized type [batch, positions, heads * size]
  within : first + count ≤ positions
  hidden : input.hidden = states.slice 1 first count
  past : layer.Remembers type heads size states batch first input.past
  mask : ∀ mask ∈ input.attentionMask, mask.Masks batch count (first + count)
  headMask : ∀ factors ∈ input.headMask, PerHead factors heads

def plusTerm (mask : Option (TypedTensor α)) (row query key : Nat) (score : α) : α :=
  match mask with
  | none => score
  | some given => Arithmetic.add .float32 score (termAt given row query key)

/-- The score of a key for a query, by head. Queries are counted from the start of the run, as the
mask has them. -/
def globalScore (layer : Layer α) (type : ElementType) (size : Nat) (states : TypedTensor α)
    (mask : Option (TypedTensor α)) (first row query head key : Nat) : α :=
  plusTerm mask row query key
    (if key ≤ first + query then
      Attended.similarity type
        (headRow size head (states.projected layer.parameters.query [row, first + query]))
        (headRow size head (states.projected layer.parameters.key [row, key]))
    else Attended.hiddenScore layer.maskedBias)

def globalValue (layer : Layer α) (states : TypedTensor α) (row key feature : Nat) : α :=
  states.projected layer.parameters.value [row, key] feature

/-- What a global layer answers a run with. -/
structure GlobalAnswer (layer : Layer α) (type : ElementType) (heads size : Nat)
    (states : TypedTensor α) (batch first count : Nat) (input : LayerInput α)
    (answer : LayerOutput α) : Prop where
  weightsSized : answer.weights.Sized type [batch, heads, count, first + count]
  outputSized : answer.output.Sized type [batch, count, heads * size]
  weightsGet : ∀ row head query key, row < batch → head < heads → query < count →
    key < first + count → answer.weights.tensor.get [row, head, query, key] =
      rowWeight type input.headMask (first + count)
        (layer.globalScore type size states input.attentionMask first row query) head key
  outputGet : ∀ row query entry, row < batch → query < count → entry < heads * size →
    answer.output.tensor.get [row, query, entry] =
      layer.rowOutput type size input.headMask (first + count)
        (layer.globalScore type size states input.attentionMask first row query)
        (layer.globalValue states row) entry
  remembers : input.useCache = true →
    layer.Remembers type heads size states batch (first + count) answer.present
  presentSome : answer.present.isSome = input.useCache

/-! ### One run -/

def additiveTerms (mask : Option (TypedTensor α)) : Except Failure (Option (TypedTensor α)) :=
  match mask with
  | none => .ok none
  | some given => (additiveMask .float32 given).map some

theorem additiveTerms_reads {mask : Option (TypedTensor α)} {queries keys : Nat}
    (masks : ∀ given ∈ mask, given.Masks batch queries keys) (heads : Nat) :
    ∃ additive, additiveTerms mask = .ok additive ∧
      (∀ terms ∈ additive, terms.elementType = .float32) ∧
      (∀ terms ∈ additive, Shape.Repeats terms.shape [batch, heads, queries, keys]) ∧
      ∀ row head query key score, row < batch → head < heads → query < queries → key < keys →
        Attended.plus additive [row, head, query, key] score =
          plusTerm mask row query key score := by
  cases mask with
  | none =>
      refine ⟨none, rfl, forall_mem_none, forall_mem_none, ?_⟩
      intros
      rfl
  | some given =>
      obtain ⟨terms, made, termsType, termsShape, termsGet⟩ :=
        additiveMask_reads (masks given rfl) heads
      refine ⟨some terms, ?_, ?_, ?_, ?_⟩
      · simp only [additiveTerms, made, Except.map]
      · intro other same
        cases same
        exact termsType
      · intro other same
        cases same
        exact termsShape
      · intro row head query key score rowBelow headBelow queryBelow keyBelow
        simp only [Attended.plus, plusTerm, termsGet row head query key rowBelow headBelow
          queryBelow keyBelow]

theorem extendKeysValues_reads {past : Option (Cache α)} {key value : TypedTensor α}
    (sized : states.Sized type [batch, positions, heads * size])
    (within : first + count ≤ positions)
    (remembers : layer.Remembers type heads size states batch first past)
    (newKey : key.HeadsOf (states.slice 1 first count) layer.parameters.key type batch heads count
      size)
    (newValue : value.HeadsOf (states.slice 1 first count) layer.parameters.value type batch heads
      count size) :
    ∃ keys values, extendKeysValues past key value = .ok (keys, values) ∧
      keys.HeadsOf states layer.parameters.key type batch heads (first + count) size ∧
      values.HeadsOf states layer.parameters.value type batch heads (first + count) size := by
  cases past with
  | none =>
      have start : first = 0 := remembers
      subst start
      have whole (matrix : TypedTensor α) {held : TypedTensor α}
          (holds : held.HeadsOf (states.slice 1 0 count) matrix type batch heads count size) :
          held.HeadsOf states matrix type batch heads (0 + count) size := by
        rw [Nat.zero_add]
        refine ⟨holds.sized, ?_⟩
        intro row head position feature rowBelow headBelow positionBelow featureBelow
        rw [holds.get row head position feature rowBelow headBelow positionBelow featureBelow,
          TypedTensor.projected_slice sized.shape_eq rowBelow positionBelow within, Nat.zero_add]
      exact ⟨key, value, rfl, whole _ newKey, whole _ newValue⟩
  | some cache =>
      rcases remembers with ⟨pastKey, pastValue, rfl, holdsKey, holdsValue⟩
      rcases holdsKey.append sized.shape_eq within newKey with ⟨keys, keysMade, keysHold⟩
      rcases holdsValue.append sized.shape_eq within newValue with ⟨values, valuesMade, valuesHold⟩
      refine ⟨keys, values, ?_, keysHold, valuesHold⟩
      simp only [extendKeysValues, keysMade, valuesMade, bind, Except.bind, pure, Except.pure]

def attendKeys (layer : Layer α) (query key value : TypedTensor α) (queries keys : Nat)
    (mask headMask : Option (TypedTensor α)) (useCache : Bool) :
    Except Failure (LayerOutput α) := do
  let additive ← additiveTerms mask
  let attended ← Attended.ofMasked query key value (causalMask queries keys) layer.maskedBias
    .keepAll additive headMask
  let output ← layer.finish attended.output none
  return {
    output
    present := if useCache then some [key, value] else none
    weights := attended.weights }

theorem Regular.runGlobal_eq (regular : layer.Regular type heads size)
    (sized : input.hidden.Sized type [batch, count, heads * size]) :
    ∃ query newKey newValue,
      query.HeadsOf input.hidden layer.parameters.query type batch heads count size ∧
      newKey.HeadsOf input.hidden layer.parameters.key type batch heads count size ∧
      newValue.HeadsOf input.hidden layer.parameters.value type batch heads count size ∧
      ∀ limit mask, layer.runGlobal limit { input with attentionMask := mask } = (do
        let (key, value) ← extendKeysValues input.past newKey newValue
        if limit < key.positionCount then .error (.sequenceTooLong key.positionCount limit)
        else
          layer.attendKeys query key value count key.positionCount mask input.headMask
            input.useCache) := by
  rcases regular.splitHeads_reads sized regular.parameters.query with
    ⟨queryFeatures, query, queryMade, querySplit, queryHolds⟩
  rcases regular.splitHeads_reads sized regular.parameters.key with
    ⟨keyFeatures, newKey, keyMade, keySplit, keyHolds⟩
  rcases regular.splitHeads_reads sized regular.parameters.value with
    ⟨valueFeatures, newValue, valueMade, valueSplit, valueHolds⟩
  refine ⟨query, newKey, newValue, queryHolds, keyHolds, valueHolds, ?_⟩
  intro limit mask
  simp only [runGlobal, attendKeys, queryMade, keyMade, valueMade, querySplit, keySplit, valueSplit,
    queryHolds.positionCount_eq, regular.attentionDropout, bind, Except.bind]
  cases mask <;> rfl

namespace GlobalRun

theorem whole (sized : states.Sized type [batch, positions, heads * size])
    {mask headMask : Option (TypedTensor α)}
    (masks : ∀ given ∈ mask, given.Masks batch positions positions)
    (headMasks : ∀ factors ∈ headMask, PerHead factors heads) (useCache : Bool) :
    layer.GlobalRun type heads size states batch positions 0 positions
      ⟨states, none, mask, headMask, useCache⟩ := by
  have extentEq : states.tensor.extent 1 = positions := by
    have sizes : states.tensor.shape = [batch, positions, heads * size] := sized.shape_eq
    simp [Tensor.extent, sizes]
  refine ⟨sized, Nat.le_of_eq (Nat.zero_add positions), (TypedTensor.slice_all extentEq).symm, rfl,
    ?_, headMasks⟩
  rw [Nat.zero_add]
  exact masks

/-- A run attends with the queries of its own positions and the keys of all positions up to them,
when these are no more than the limit. -/
theorem projects (regular : layer.Regular type heads size)
    (run : layer.GlobalRun type heads size states batch positions first count input) :
    ∃ query key value,
      query.HeadsOf (states.slice 1 first count) layer.parameters.query type batch heads count
        size ∧
      key.HeadsOf states layer.parameters.key type batch heads (first + count) size ∧
      value.HeadsOf states layer.parameters.value type batch heads (first + count) size ∧
      ∀ limit, layer.runGlobal limit input =
        if limit < first + count then .error (.sequenceTooLong (first + count) limit)
        else layer.attendKeys query key value count (first + count) input.attentionMask
          input.headMask input.useCache := by
  have hiddenSized : input.hidden.Sized type [batch, count, heads * size] := by
    rw [run.hidden]
    refine ⟨run.sized.type_eq, ?_⟩
    rw [TypedTensor.shape_slice, run.sized.shape_eq]
    rfl
  rcases regular.runGlobal_eq hiddenSized with
    ⟨query, newKey, newValue, queryHolds, keyHolds, valueHolds, ran⟩
  rw [run.hidden] at queryHolds keyHolds valueHolds
  obtain ⟨key, value, extended, keysHold, valuesHold⟩ :=
    extendKeysValues_reads run.sized run.within run.past keyHolds valueHolds
  refine ⟨query, key, value, queryHolds, keysHold, valuesHold, ?_⟩
  intro limit
  refine (ran limit input.attentionMask).trans ?_
  simp only [extended, keysHold.positionCount_eq, bind, Except.bind]

theorem refuses (regular : layer.Regular type heads size)
    (run : layer.GlobalRun type heads size states batch positions first count input)
    {limit : Nat} (tooLong : limit < first + count) :
    layer.runGlobal limit input = .error (.sequenceTooLong (first + count) limit) := by
  rcases run.projects regular with ⟨_, _, _, _, _, _, projected⟩
  rw [projected limit, if_pos tooLong]

/-- The operands of a run go together, and they score the positions as they stand in the whole
sequence. -/
theorem operands (regular : layer.Regular type heads size)
    (run : layer.GlobalRun type heads size states batch positions first count input)
    {query key value : TypedTensor α}
    (queryHolds : query.HeadsOf (states.slice 1 first count) layer.parameters.query type batch
      heads count size)
    (keyHolds : key.HeadsOf states layer.parameters.key type batch heads (first + count) size)
    (valueHolds : value.HeadsOf states layer.parameters.value type batch heads (first + count)
      size) :
    ∃ additive, additiveTerms input.attentionMask = .ok additive ∧
      Attended.Fits query key value (causalMask count (first + count)) layer.maskedBias additive
        input.headMask type [batch, heads] count (first + count) size ∧
      ∀ row head position slot, row < batch → head < heads → position < count →
        slot < first + count →
        Attended.score query key (causalMask count (first + count)) layer.maskedBias additive size
          [row, head] position slot =
        layer.globalScore type size states input.attentionMask first row position head slot := by
  obtain ⟨additive, additiveMade, additiveType, additiveShape, additiveGet⟩ :=
    additiveTerms_reads run.mask heads
  refine ⟨additive, additiveMade, ?_, ?_⟩
  · refine {
      numeric := regular.numeric
      queryType := queryHolds.sized.type_eq
      keyType := keyHolds.sized.type_eq
      valueType := valueHolds.sized.type_eq
      queryShape := queryHolds.sized.shape_eq
      keyShape := keyHolds.sized.shape_eq
      valueShape := valueHolds.sized.shape_eq
      visibleShape := causalMask_repeats batch heads count (first + count)
      biasShape := regular.biasShape
      additiveType := additiveType
      additiveShape := additiveShape
      headMaskAxes := fun factors given => (run.headMask factors given).rank_ne_zero
      headMaskShape := fun factors given =>
        (run.headMask factors given).repeats [] batch count (first + count) }
  · intro row head position slot rowBelow headBelow positionBelow slotBelow
    have queryRow : Layer.headRow size head ((states.slice 1 first count).projected
        layer.parameters.query [row, position]) =
        Layer.headRow size head
          (states.projected layer.parameters.query [row, first + position]) := by
      apply List.map_congr_left
      intro feature _
      exact TypedTensor.projected_slice run.sized.shape_eq rowBelow positionBelow run.within _
    have place : [row, head] ++ [position, slot] = [row, head, position, slot] := rfl
    unfold Attended.score globalScore
    rw [place, additiveGet row head position slot _ rowBelow headBelow positionBelow slotBelow,
      causalMask_getJoined row head positionBelow slotBelow,
      queryHolds.headRow_eq rowBelow headBelow positionBelow,
      keyHolds.headRow_eq rowBelow headBelow slotBelow, queryRow, queryHolds.sized.type_eq]
    simp only [decide_eq_true_eq]

/-- A run within the limit answers, unless the head mask widens the type of the values. -/
theorem answers (regular : layer.Regular type heads size)
    (run : layer.GlobalRun type heads size states batch positions first count input)
    {limit : Nat} (fits : first + count ≤ limit)
    (narrow : ∀ factors ∈ input.headMask, type.join factors.elementType = type) :
    ∃ answer, layer.runGlobal limit input = .ok answer ∧
      layer.GlobalAnswer type heads size states batch first count input answer := by
  rcases run.projects regular with ⟨query, key, value, queryHolds, keyHolds, valueHolds, projected⟩
  obtain ⟨additive, additiveMade, operandsFit, scoreEq⟩ :=
    run.operands regular queryHolds keyHolds valueHolds
  rcases Attended.ofMasked_mixes operandsFit narrow with ⟨attended, made, mixes⟩
  have attendedSized : attended.output.Sized type [batch, heads, count, size] :=
    ⟨mixes.outputType, mixes.outputShape⟩
  rcases regular.finish_reads attendedSized with ⟨output, finished, outputSized, outputGet⟩
  have weightEq (row head position slot : Nat) (rowBelow : row < batch) (headBelow : head < heads)
      (positionBelow : position < count) :
      Attended.weight query key (causalMask count (first + count)) layer.maskedBias additive
        input.headMask (first + count) size [row, head] position slot =
      rowWeight type input.headMask (first + count)
        (layer.globalScore type size states input.attentionMask first row position) head slot := by
    unfold Attended.weight
    rw [queryHolds.sized.type_eq]
    refine (times_of_heads run.headMask type [] row position slot _).trans ?_
    apply rowWeight_congr
    intro other otherBelow
    exact scoreEq row head position other rowBelow headBelow positionBelow otherBelow
  refine ⟨⟨output, if input.useCache then some [key, value] else none, attended.weights⟩, ?_, ?_⟩
  · rw [projected limit, if_neg (Nat.not_lt.mpr fits)]
    simp only [attendKeys, additiveMade, made, finished, bind, Except.bind, pure, Except.pure]
  · refine {
      weightsSized := ⟨mixes.weightsType, mixes.weightsShape⟩
      outputSized := outputSized
      weightsGet := ?_
      outputGet := ?_
      remembers := ?_
      presentSome := ?_ }
    · intro row head position slot rowBelow headBelow positionBelow slotBelow
      have inside : Shape.Contains [batch, heads] [row, head] := ⟨rowBelow, headBelow, trivial⟩
      exact (mixes.weightsGet [row, head] position slot inside positionBelow slotBelow).trans
        (weightEq row head position slot rowBelow headBelow positionBelow)
    · intro row position entry rowBelow positionBelow entryBelow
      refine (outputGet row position entry rowBelow positionBelow entryBelow).trans ?_
      apply regular.outputEntry_of_mixed fun head part =>
        attended.output.tensor.get [row, head, position, part]
      · intro head part headBelow partBelow
        exact mixes.outputGet [row, head] position part ⟨rowBelow, headBelow, trivial⟩ positionBelow
          partBelow
      · intro head slot headBelow _
        exact weightEq row head position slot rowBelow headBelow positionBelow
      · intro head slot part headBelow slotBelow partBelow
        exact valueHolds.get row head slot part rowBelow headBelow slotBelow partBelow
    · intro cached
      simp only [cached, if_true]
      exact ⟨key, value, rfl, keyHolds, valueHolds⟩
    · cases input.useCache <;> rfl

theorem fails_of_wider (regular : layer.Regular type heads size)
    (run : layer.GlobalRun type heads size states batch positions first count input)
    {limit : Nat} (fits : first + count ≤ limit) {factors : TypedTensor α}
    (given : input.headMask = some factors) (wider : type.join factors.elementType ≠ type) :
    layer.runGlobal limit input = .error .elementTypesDisagree := by
  rcases run.projects regular with ⟨query, key, value, queryHolds, keyHolds, valueHolds, projected⟩
  obtain ⟨additive, additiveMade, operandsFit, _⟩ :=
    run.operands regular queryHolds keyHolds valueHolds
  rw [projected limit, if_neg (Nat.not_lt.mpr fits)]
  simp only [attendKeys, additiveMade, Attended.ofMasked_of_wider operandsFit given wider, bind,
    Except.bind]

end GlobalRun

end Layer

end CausalAttention
