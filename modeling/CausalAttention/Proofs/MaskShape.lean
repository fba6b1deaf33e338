import CausalAttention.Proofs.CachedStep

/-!
Padding masks of a wrong shape. A local layer compares the shape of the mask with that of the
sequence. A global layer leaves it to the sum with the scores, which repeats a mask with a single
row or a single column, and repeats the scores of a single sequence for a mask with more rows.
-/

set_option autoImplicit false

namespace CausalAttention

namespace Shape

theorem join?_terms {batch heads queries keys rows columns : Nat} {shape : Shape} :
    join? [batch, heads, queries, keys] [rows, 1, 1, columns] = some shape ↔
      ∃ outer last, joinSize? batch rows = some outer ∧ joinSize? keys columns = some last ∧
        shape = [outer, heads, queries, last] := by
  simp only [join?, List.reverse_cons, List.reverse_nil, List.nil_append, List.cons_append,
    joinReversed?, joinSize?_one_right]
  cases joinSize? keys columns with
  | none => simp
  | some last =>
      cases joinSize? batch rows with
      | none => simp
      | some outer => simp [eq_comm]

theorem join?_heads {outer batch heads : Nat} {shape : Shape} :
    join? [outer, heads] [batch, heads] = some shape ↔
      ∃ wide, joinSize? outer batch = some wide ∧ shape = [wide, heads] := by
  simp only [join?, List.reverse_cons, List.reverse_nil, List.nil_append, List.cons_append,
    joinReversed?, joinSize?_self]
  cases joinSize? outer batch with
  | none => simp
  | some wide => simp [eq_comm]

end Shape

variable {α : Type} [Arithmetic α]

theorem shape_additiveMask {mask terms : TypedTensor α} {rows columns : Nat}
    (sizes : mask.shape = [rows, columns]) (made : additiveMask .float32 mask = .ok terms) :
    terms.shape = [rows, 1, 1, columns] := by
  have rankEq : mask.rank = 2 := congrArg List.length sizes
  have kept (flags : Tensor Bool) (same : flags.shape = mask.shape) (term : Bool → α) :
      (((flags.map term).insertAxis 1).insertAxis 1).shape = [rows, 1, 1, columns] := by
    rw [Tensor.shape_insertAxis, Tensor.shape_insertAxis, Tensor.shape_map, same, sizes]
    rfl
  simp only [additiveMask, rankEq] at made
  cases made
  apply kept
  split <;> rfl

theorem exists_additiveMask {mask : TypedTensor α} {rows columns : Nat}
    (sizes : mask.shape = [rows, columns]) :
    ∃ terms, additiveMask .float32 mask = .ok terms ∧
      terms.Sized .float32 [rows, 1, 1, columns] := by
  have masks : mask.Masks rows 0 columns := Or.inl sizes
  rcases additiveMask_reads masks 0 with ⟨terms, made, termsType, _⟩
  exact ⟨terms, made, termsType, shape_additiveMask sizes made⟩

namespace TypedTensor

variable {scores terms : TypedTensor α} {batch heads queries keys rows columns : Nat}

theorem softmax_sized (scores : TypedTensor α) (type : ElementType) :
    (scores.softmax.convert type).Sized type scores.shape :=
  ⟨elementType_convert type _, (shape_convert type _).trans (shape_softmax scores)⟩

theorem add_terms_sizes (scoresSized : scores.Sized .float32 [batch, heads, queries, keys])
    (termsSized : terms.Sized .float32 [rows, 1, 1, columns]) {sum : TypedTensor α}
    (added : scores.add terms = .ok sum) :
    ∃ outer last, Shape.joinSize? batch rows = some outer ∧
      Shape.joinSize? keys columns = some last ∧ sum.shape = [outer, heads, queries, last] := by
  have scoresShape : scores.tensor.shape = [batch, heads, queries, keys] := scoresSized.shape_eq
  have termsShape : terms.tensor.shape = [rows, 1, 1, columns] := termsSized.shape_eq
  rw [add_eq (scoresSized.type_eq.trans termsSized.type_eq.symm)] at added
  rcases exists_of_map_ok added with ⟨combined, made, rfl⟩
  have joined := Tensor.shape_combine made
  rwa [scoresShape, termsShape, Shape.join?_terms] at joined

theorem exists_add_terms (scoresSized : scores.Sized .float32 [batch, heads, queries, keys])
    (termsSized : terms.Sized .float32 [rows, 1, 1, columns]) {outer last : Nat}
    (rowsJoined : Shape.joinSize? batch rows = some outer)
    (columnsJoined : Shape.joinSize? keys columns = some last) :
    ∃ sum, scores.add terms = .ok sum ∧ sum.shape = [outer, heads, queries, last] := by
  have scoresShape : scores.tensor.shape = [batch, heads, queries, keys] := scoresSized.shape_eq
  have termsShape : terms.tensor.shape = [rows, 1, 1, columns] := termsSized.shape_eq
  have joined : Shape.join? scores.tensor.shape terms.tensor.shape =
      some [outer, heads, queries, last] := by
    rw [scoresShape, termsShape, Shape.join?_terms]
    exact ⟨outer, last, rowsJoined, columnsJoined, rfl⟩
  obtain ⟨sum, made, sumShape, _⟩ :=
    Tensor.combine_joined_reads (Arithmetic.add scores.elementType) joined
  refine ⟨⟨scores.elementType, sum⟩, ?_, sumShape⟩
  rw [add_eq (scoresSized.type_eq.trans termsSized.type_eq.symm), made]
  rfl

end TypedTensor

namespace Attended

variable {query key value : TypedTensor α} {visible : Tensor Bool} {maskedBias : TypedTensor α}

theorem maskedScores_sized {stack : Shape} {queries keys size : Nat}
    (queryShape : query.shape = stack ++ [queries, size])
    (keyShape : key.shape = stack ++ [keys, size])
    (visibleShape : Shape.Repeats visible.shape (stack ++ [queries, keys]))
    (biasShape : maskedBias.shape = []) :
    ∃ scores, maskedScores query key visible maskedBias = .ok scores ∧
      scores.Sized .float32 (stack ++ [queries, keys]) := by
  obtain ⟨scores, made, scoresType, scoresShape, _⟩ := maskedScores_joined_reads queryShape keyShape
    (Shape.join?_self stack) visibleShape biasShape
  exact ⟨scores, made, scoresType, scoresShape⟩

section Padding

variable {batch heads queries keys others size rows columns : Nat}
  (queryShape : query.shape = [batch, heads, queries, size])
  (keyShape : key.shape = [batch, heads, keys, size])
  (visibleShape : Shape.Repeats visible.shape [batch, heads, queries, keys])
  (biasShape : maskedBias.shape = [])

include queryShape keyShape visibleShape biasShape

theorem ofMasked_none_sizes (valueShape : value.shape = [batch, heads, others, size])
    {attended : Attended α}
    (made : ofMasked query key value visible maskedBias .keepAll none none = .ok attended) :
    keys = others ∧ attended.output.elementType = value.elementType := by
  have queryStacked : query.shape = [batch, heads] ++ [queries, size] := queryShape
  have valueStacked : value.shape = [batch, heads] ++ [others, size] := valueShape
  rcases maskedScores_sized queryStacked keyShape visibleShape biasShape with
    ⟨masked, maskedMade, maskedSized⟩
  rcases ofMasked_ok_iff.mp made with ⟨other, scores, otherMade, same, weights, mixed⟩
  rw [maskedMade] at otherMade
  cases otherMade
  cases same
  have weightsSized := masked.softmax_sized value.elementType
  rw [← weights, maskedSized.shape_eq] at weightsSized
  rcases TypedTensor.product_sizes weightsSized.shape_eq valueStacked weightsSized.type_eq mixed with
    ⟨agree, outputType, _⟩
  exact ⟨agree, outputType.trans weightsSized.type_eq⟩

section Terms

variable (valueShape : value.shape = [batch, heads, keys, size]) {terms : TypedTensor α}
  (termsSized : terms.Sized .float32 [rows, 1, 1, columns])

include valueShape termsSized

/-- Terms that go together with scores and values have as many columns as these have keys, or one,
and as many rows as the batch, or one, unless the batch has a single row to repeat. -/
theorem ofMasked_terms_sizes {attended : Attended α}
    (made : ofMasked query key value visible maskedBias .keepAll (some terms) none =
      .ok attended) :
    (rows = batch ∨ rows = 1 ∨ batch = 1) ∧ (columns = keys ∨ columns = 1) := by
  have queryStacked : query.shape = [batch, heads] ++ [queries, size] := queryShape
  have valueStacked : value.shape = [batch, heads] ++ [keys, size] := valueShape
  rcases maskedScores_sized queryStacked keyShape visibleShape biasShape with
    ⟨masked, maskedMade, maskedSized⟩
  rcases ofMasked_ok_iff.mp made with ⟨other, scores, otherMade, added, weights, mixed⟩
  rw [maskedMade] at otherMade
  cases otherMade
  rcases TypedTensor.add_terms_sizes maskedSized termsSized added with
    ⟨outer, last, rowsJoined, columnsJoined, scoresShape⟩
  have weightsSized := scores.softmax_sized value.elementType
  rw [← weights, scoresShape] at weightsSized
  have weightsStacked : attended.weights.shape = [outer, heads] ++ [queries, last] :=
    weightsSized.shape_eq
  rcases TypedTensor.product_sizes weightsStacked valueStacked weightsSized.type_eq mixed with
    ⟨agree, _⟩
  rw [Shape.joinSize?_iff] at rowsJoined columnsJoined
  omega

theorem exists_ofMasked_terms (numeric : value.elementType ≠ .bool)
    (rowsFit : rows = batch ∨ rows = 1 ∨ batch = 1) (columnsFit : columns = keys ∨ columns = 1) :
    ∃ attended wide,
      ofMasked query key value visible maskedBias .keepAll (some terms) none = .ok attended ∧
      attended.output.Sized value.elementType [wide, heads, queries, size] := by
  have queryStacked : query.shape = [batch, heads] ++ [queries, size] := queryShape
  have valueStacked : value.shape = [batch, heads] ++ [keys, size] := valueShape
  rcases maskedScores_sized queryStacked keyShape visibleShape biasShape with
    ⟨masked, maskedMade, maskedSized⟩
  obtain ⟨outer, wide, rowsJoined, wideJoined⟩ : ∃ outer wide,
      Shape.joinSize? batch rows = some outer ∧ Shape.joinSize? outer batch = some wide := by
    rcases rowsFit with rfl | rfl | rfl
    · exact ⟨rows, rows, Shape.joinSize?_self rows, Shape.joinSize?_self rows⟩
    · exact ⟨batch, batch, Shape.joinSize?_one_right batch, Shape.joinSize?_self batch⟩
    · exact ⟨rows, rows, Shape.joinSize?_one_left rows, Shape.joinSize?_one_right rows⟩
  have columnsJoined : Shape.joinSize? keys columns = some keys := by
    rcases columnsFit with rfl | rfl
    · exact Shape.joinSize?_self columns
    · exact Shape.joinSize?_one_right keys
  rcases TypedTensor.exists_add_terms maskedSized termsSized rowsJoined columnsJoined with
    ⟨scores, added, scoresShape⟩
  have weightsSized := scores.softmax_sized value.elementType
  rw [scoresShape] at weightsSized
  have weightsStacked : (scores.softmax.convert value.elementType).shape =
      [outer, heads] ++ [queries, keys] := weightsSized.shape_eq
  have weightsNumeric : (scores.softmax.convert value.elementType).elementType ≠ .bool := by
    rw [weightsSized.type_eq]
    exact numeric
  have joined : Shape.join? [outer, heads] [batch, heads] = some [wide, heads] :=
    Shape.join?_heads.mpr ⟨wide, wideJoined, rfl⟩
  rcases TypedTensor.exists_product weightsStacked valueStacked weightsSized.type_eq weightsNumeric
    joined with ⟨output, mixed, outputType, outputShape⟩
  exact ⟨⟨output, _⟩, wide,
    ofMasked_ok_iff.mpr ⟨masked, scores, maskedMade, added, rfl, mixed⟩,
    outputType.trans weightsSized.type_eq, outputShape⟩

end Terms

end Padding

end Attended

/-! ### Keys of a run -/

namespace TypedTensor

theorem append_positions {front back joined : TypedTensor α} {batch heads count size : Nat}
    (backShape : back.shape = [batch, heads, count, size])
    (made : front.append (-2) back = .ok joined) :
    joined.shape = [batch, heads, front.positionCount + count, size] := by
  have backRank : back.rank = 4 := congrArg List.length backShape
  by_cases flat : front.shape = [0]
  · have frontShape : front.tensor.shape = [0] := flat
    have none : front.positionCount = 0 := by
      simp [positionCount, rank, Tensor.rank, frontShape]
    rw [append_of_flat flat (by omega)] at made
    cases made
    rw [none, Nat.zero_add]
    exact (shape_convert _ back).trans backShape
  · have stacked : back.shape = [batch, heads] ++ [count, size] := backShape
    obtain ⟨rankEq, _, _, joinedShape⟩ := append_stacked stacked made flat
    have positions : front.positionCount = front.tensor.extent 2 := by
      simp [positionCount, rankEq, backRank]
    rw [positions]
    exact joinedShape

end TypedTensor

def LayerInput.cached (input : LayerInput α) : Nat :=
  input.past.elim 0 Cache.length

namespace Layer

variable {layer : Layer α} {type : ElementType} {heads size batch count : Nat}
  {input : LayerInput α}

theorem extendKeysValues_sizes {past : Option (Cache α)} {key value keys values : TypedTensor α}
    (keyShape : key.shape = [batch, heads, count, size])
    (valueShape : value.shape = [batch, heads, count, size])
    (made : extendKeysValues past key value = .ok (keys, values)) :
    keys.shape = [batch, heads, past.elim 0 Cache.length + count, size] ∧
      ∃ others, values.shape = [batch, heads, others, size] := by
  match past, made with
  | none, made =>
      cases made
      rw [Option.elim_none, Nat.zero_add]
      exact ⟨keyShape, count, valueShape⟩
  | some [pastKey, pastValue], made =>
      rcases exists_of_bind_ok made with ⟨joinedKeys, keysMade, made⟩
      rcases exists_of_bind_ok made with ⟨joinedValues, valuesMade, made⟩
      cases made
      exact ⟨TypedTensor.append_positions keyShape keysMade, _,
        TypedTensor.append_positions valueShape valuesMade⟩

theorem Regular.finish_type (regular : layer.Regular type heads size)
    {attended output : TypedTensor α} (made : layer.finish attended none = .ok output) :
    attended.elementType = type := by
  rcases exists_of_bind_ok made with ⟨merged, mergedMade, made⟩
  rcases exists_of_bind_ok made with ⟨arranged, kept, made⟩
  rcases exists_of_bind_ok made with ⟨projected, projectedMade, _⟩
  cases kept
  have mergedType : merged.elementType = attended.elementType := by
    rcases regular.division with whole | ⟨_, single⟩
    · simp only [merge, whole] at mergedMade
      exact TypedTensor.elementType_of_relayout mergedMade
    · simp only [merge, single] at mergedMade
      exact TypedTensor.elementType_of_relayout mergedMade
  rw [← mergedType, TypedTensor.elementType_of_mapRowPairs projectedMade]
  exact regular.parameters.output.type_eq

/-- A run of a global layer that answers without a mask attends with the same operands under every
mask, and the keys are those of the cache and its own. -/
theorem Regular.plain_operands (regular : layer.Regular type heads size)
    (sizes : input.hidden.shape = [batch, count, heads * size]) (headless : input.headMask = none)
    {limit : Nat} {answer : LayerOutput α}
    (plain : layer.runGlobal limit { input with attentionMask := none } = .ok answer) :
    ∃ query key value,
      query.shape = [batch, heads, count, size] ∧
      key.shape = [batch, heads, input.cached + count, size] ∧
      value.Sized type [batch, heads, input.cached + count, size] ∧
      ∀ mask, layer.runGlobal limit { input with attentionMask := mask } =
        layer.attendKeys query key value count (input.cached + count) mask none input.useCache := by
  rcases exists_of_bind_ok plain with ⟨features, made, -⟩
  have hiddenSized : input.hidden.Sized type [batch, count, heads * size] :=
    ⟨(TypedTensor.elementType_of_mapRowPairs made).trans regular.parameters.query.type_eq, sizes⟩
  rcases regular.runGlobal_eq hiddenSized with
    ⟨query, newKey, newValue, queryHolds, keyHolds, valueHolds, ran⟩
  rw [ran limit none] at plain
  rcases exists_of_bind_ok plain with ⟨⟨key, value⟩, extended, attends⟩
  rcases extendKeysValues_sizes keyHolds.sized.shape_eq valueHolds.sized.shape_eq extended with
    ⟨keyShape, others, valueShape⟩
  have keyCount : key.positionCount = input.cached + count :=
    TypedTensor.positionCount_of_shape keyShape
  simp only [keyCount, headless] at attends
  have within : ¬limit < input.cached + count := by
    intro above
    rw [if_pos above] at attends
    contradiction
  rw [if_neg within, attendKeys] at attends
  rcases exists_of_bind_ok attends with ⟨additive, absent, attends⟩
  cases absent
  rcases exists_of_bind_ok attends with ⟨attended, attendedMade, attends⟩
  rcases exists_of_bind_ok attends with ⟨output, finished, _⟩
  rcases Attended.ofMasked_none_sizes queryHolds.sized.shape_eq keyShape
    (causalMask_repeats batch heads count _) regular.biasShape valueShape attendedMade with
    ⟨same, outputType⟩
  subst same
  have valueType : value.elementType = type :=
    outputType.symm.trans (regular.finish_type finished)
  refine ⟨query, key, value, queryHolds.sized.shape_eq, keyShape, ⟨valueType, valueShape⟩, ?_⟩
  intro mask
  rw [ran limit mask]
  simp only [extended, keyCount, if_neg within, headless, bind, Except.bind]

/-- A global layer that answers without a mask answers with a padding mask when the mask has a
column for every position up to the last of the run, or one, and a row for every sequence, or one.
With a single sequence it may have any number of rows. -/
theorem Regular.runGlobal_padded_iff (regular : layer.Regular type heads size)
    (sizes : input.hidden.shape = [batch, count, heads * size]) (headless : input.headMask = none)
    {limit : Nat} {answer : LayerOutput α}
    (plain : layer.runGlobal limit { input with attentionMask := none } = .ok answer)
    {mask : TypedTensor α} {rows columns : Nat} (maskShape : mask.shape = [rows, columns]) :
    (∃ padded, layer.runGlobal limit { input with attentionMask := some mask } = .ok padded) ↔
      (rows = batch ∨ rows = 1 ∨ batch = 1) ∧
        (columns = input.cached + count ∨ columns = 1) := by
  rcases regular.plain_operands sizes headless plain with
    ⟨query, key, value, queryShape, keyShape, valueSized, masked⟩
  have visibleShape := causalMask_repeats batch heads count (input.cached + count)
  rcases exists_additiveMask maskShape with ⟨terms, termsMade, termsSized⟩
  have termsGiven : additiveTerms (some mask) = .ok (some terms) := by
    simp only [additiveTerms, termsMade, Except.map]
  rw [masked (some mask)]
  constructor
  · rintro ⟨padded, run⟩
    unfold attendKeys at run
    rcases exists_of_bind_ok run with ⟨additive, given, run⟩
    rw [termsGiven] at given
    cases given
    rcases exists_of_bind_ok run with ⟨attended, attendedMade, _⟩
    exact Attended.ofMasked_terms_sizes queryShape keyShape visibleShape regular.biasShape
      valueSized.shape_eq termsSized attendedMade
  · rintro ⟨rowsFit, columnsFit⟩
    have numeric : value.elementType ≠ .bool := by
      rw [valueSized.type_eq]
      exact regular.numeric
    rcases Attended.exists_ofMasked_terms queryShape keyShape visibleShape regular.biasShape
      valueSized.shape_eq termsSized numeric rowsFit columnsFit with
      ⟨attended, wide, attendedMade, outputSized⟩
    rw [valueSized.type_eq] at outputSized
    rcases regular.finish_reads outputSized with ⟨output, finished, _⟩
    refine ⟨⟨output, if input.useCache then some [key, value] else none, attended.weights⟩, ?_⟩
    simp only [attendKeys, termsGiven, attendedMade, finished, bind, Except.bind, pure,
      Except.pure]

end Layer

section Window

variable {mask : TypedTensor α} {batch count : Nat}

namespace Layer

variable {layer : Layer α} {input : LayerInput α}

theorem extendHidden_cached {past : Option (Cache α)} {hidden states : TypedTensor α}
    {pastCount : Nat} (made : extendHidden past hidden count = .ok (states, pastCount)) :
    pastCount = past.elim 0 Cache.length := by
  cases past with
  | none =>
      cases made
      rfl
  | some cache =>
      simp only [extendHidden] at made
      split at made
      · contradiction
      · cases cache with
        | nil => contradiction
        | cons first rest =>
            rcases exists_of_map_ok made with ⟨whole, _, same⟩
            cases same
            rfl

/-- A local layer that answers without a mask compares the shape of a padding mask with that of
the whole sequence. -/
theorem runLocal_misshapen {windowSetting : Setting} {rest : Shape}
    (sizes : input.hidden.shape = batch :: count :: rest) {attended : Attended α}
    (plain : layer.runLocal windowSetting { input with attentionMask := none } = .ok attended)
    (padding : mask.rank = 2) (misshapen : mask.shape ≠ [batch, input.cached + count]) :
    layer.runLocal windowSetting { input with attentionMask := some mask } =
      .error (.paddingShapeMismatch [batch, input.cached + count] mask.shape) := by
  unfold runLocal at plain ⊢
  simp only [sizes, pure_bind] at plain ⊢
  rcases exists_of_bind_ok plain with ⟨queryFeatures, queryMade, plain⟩
  rcases exists_of_bind_ok plain with ⟨⟨states, pastCount⟩, extended, plain⟩
  rcases exists_of_bind_ok plain with ⟨keyFeatures, keyMade, plain⟩
  rcases exists_of_bind_ok plain with ⟨valueFeatures, valueMade, plain⟩
  rcases exists_of_bind_ok plain with ⟨_, positive, plain⟩
  rcases exists_of_bind_ok plain with ⟨_, _, plain⟩
  rcases exists_of_bind_ok plain with ⟨window, windowRead, plain⟩
  rcases exists_of_bind_ok plain with ⟨blocks, found, plain⟩
  have sequenceEq : count + pastCount = input.cached + count := by
    rw [extendHidden_cached extended, Nat.add_comm]
    rfl
  rw [sequenceEq] at found plain
  have allowed : requireWindowMask (some mask) queryFeatures = .ok () := if_pos padding
  have flat : mask.rank ≠ 5 := by omega
  simp only [queryMade, extended, keyMade, valueMade, positive, windowRead, found, sequenceEq,
    allowed, bind, Except.bind] at plain ⊢
  by_cases empty : input.cached + count = 0
  · rw [if_pos empty] at plain
    contradiction
  · rw [if_neg empty] at plain ⊢
    rcases exists_of_bind_ok plain with ⟨visible, made, _⟩
    have refused : windowMask batch (input.cached + count) window (some mask) = _ :=
      (if_neg flat).trans (localMask_misshapen made misshapen)
    simp only [refused]

end Layer

end Window

namespace Layer

variable {layer : Layer α} {type : ElementType} {heads size batch count : Nat}
  {input : LayerInput α}

theorem Regular.exists_step (regular : layer.Regular type heads size) {states : TypedTensor α}
    {first limit : Nat} (sized : states.Sized type [batch, first + count, heads * size])
    (fits : first + count ≤ limit) :
    ∃ before cache answer,
      layer.runGlobal limit ⟨states.slice 1 0 first, none, none, none, true⟩ = .ok before ∧
      before.present = some cache ∧ cache.length = first ∧
      layer.runGlobal limit ⟨states.slice 1 first count, some cache, none, none, false⟩ =
        .ok answer := by
  have reached : first ≤ limit := by omega
  have part : first ≤ first + count := by omega
  rcases runGlobal_prefix regular sized reached part with
    ⟨before, cache, prefixed, given, remembers⟩
  have run : layer.GlobalRun type heads size states batch (first + count) first count
      ⟨states.slice 1 first count, some cache, none, none, false⟩ :=
    ⟨sized, Nat.le_refl _, rfl, remembers, forall_mem_none, forall_mem_none⟩
  rcases run.answers regular fits forall_mem_none with ⟨answer, ran, _⟩
  exact ⟨before, cache, answer, prefixed, given, remembers.length_eq, ran⟩

/-- A run that answers without a mask and is then given a padding mask. A local layer refuses every
mask that does not have a row for every sequence and a column for every position, and names both
shapes. A global layer also answers with a single row, with a single column, and with any number of
rows for a single sequence. -/
theorem misshapen_masks (regular : layer.Regular type heads size)
    (sizes : input.hidden.shape = [batch, count, heads * size]) {answer : LayerOutput α}
    (plain : layer.run { input with attentionMask := none } = .ok answer) {mask : TypedTensor α}
    {rows columns : Nat} (maskShape : mask.shape = [rows, columns]) :
    (∀ window, layer.reach = .window window →
      ¬(rows = batch ∧ columns = input.cached + count) →
      layer.run { input with attentionMask := some mask } =
        .error (.paddingShapeMismatch [batch, input.cached + count] [rows, columns])) ∧
    ∀ limit, layer.reach = .everything limit → input.headMask = none →
      ((∃ padded, layer.run { input with attentionMask := some mask } = .ok padded) ↔
        (rows = batch ∨ rows = 1 ∨ batch = 1) ∧
          (columns = input.cached + count ∨ columns = 1)) := by
  constructor
  · intro window reach misshapen
    simp only [run, reach] at plain ⊢
    rcases exists_of_bind_ok plain with ⟨attended, answered, _⟩
    have padding : mask.rank = 2 := congrArg List.length maskShape
    have differ : mask.shape ≠ [batch, input.cached + count] := by
      rw [maskShape]
      intro same
      cases same
      exact misshapen ⟨rfl, rfl⟩
    rw [runLocal_misshapen sizes answered padding differ, maskShape]
    rfl
  · intro limit reach headless
    simp only [run, reach] at plain ⊢
    exact regular.runGlobal_padded_iff sizes headless plain maskShape

/-- The second of two positions, with the first one in the cache. A mask of one column, which covers
the second position only, is refused by a local layer, and a mask of three columns by a global
one. -/
theorem misshapen_masks_two_positions :
    let windowed : Layer MachineNumber := constant .float32 1 1 (.window (.int 2)) default
    let everything : Layer MachineNumber := constant .float32 1 1 (.everything 2) default
    let states : TypedTensor MachineNumber := ⟨.float32, Tensor.replicate [1, 2, 1] default⟩
    let narrow : TypedTensor MachineNumber := ⟨.int64, Tensor.replicate [1, 1] default⟩
    let wide : TypedTensor MachineNumber := ⟨.int64, Tensor.replicate [1, 3] default⟩
    (∃ answer, windowed.run ⟨states.slice 1 1 1, some [states.slice 1 0 1], none, none, false⟩ =
        .ok answer ∧
      windowed.run ⟨states.slice 1 1 1, some [states.slice 1 0 1], some narrow, none, false⟩ =
        .error (.paddingShapeMismatch [1, 2] [1, 1])) ∧
    ∃ before cache answer,
      everything.run ⟨states.slice 1 0 1, none, none, none, true⟩ = .ok before ∧
      before.present = some cache ∧
      everything.run ⟨states.slice 1 1 1, some cache, none, none, false⟩ = .ok answer ∧
      ¬∃ padded, everything.run ⟨states.slice 1 1 1, some cache, some wide, none, false⟩ =
        .ok padded := by
  intro windowed everything states narrow wide
  have sized : states.Sized .float32 [1, 1 + 1, 1 * 1] := ⟨rfl, rfl⟩
  constructor
  · have regular : windowed.Regular .float32 1 1 := regular_constant rfl _ default
    let step : LayerInput MachineNumber :=
      ⟨states.slice 1 1 1, some [states.slice 1 0 1], none, none, false⟩
    have sizes : step.hidden.shape = [1, 1, 1 * 1] := rfl
    obtain ⟨blocks, cut⟩ : ∃ blocks : Blocks, blocks.Cut 2 2 :=
      Blocks.exists_cut (by decide) (by decide)
    have entered : LocalRun .float32 1 1 states 1 2 blocks 2 step :=
      ⟨sized, cut, Or.inr ⟨rfl, rfl⟩, forall_mem_none, forall_mem_none⟩
    obtain ⟨answer, plain, _⟩ := entered.run_answers regular rfl forall_mem_none
    have narrowShape : narrow.shape = [1, 1] := rfl
    rcases misshapen_masks regular sizes plain narrowShape with ⟨refused, _⟩
    exact ⟨answer, plain, refused (.int 2) rfl (by decide)⟩
  · have regular : everything.Regular .float32 1 1 := regular_constant rfl _ default
    obtain ⟨before, cache, answer, prefixed, given, length, ran⟩ :=
      regular.exists_step sized (Nat.le_refl 2)
    let step : LayerInput MachineNumber := ⟨states.slice 1 1 1, some cache, none, none, false⟩
    have sizes : step.hidden.shape = [1, 1, 1 * 1] := rfl
    have plain : everything.run { step with attentionMask := none } = .ok answer := ran
    have wideShape : wide.shape = [1, 3] := rfl
    rcases misshapen_masks regular sizes plain wideShape with ⟨_, answers⟩
    refine ⟨before, cache, answer, prefixed, given, ran, ?_⟩
    intro padded
    have fits := (answers 2 rfl rfl).mp padded
    have cached : step.cached = 1 := length
    rw [cached] at fits
    omega

/-- The second of two positions, with the first one in the cache of a global layer. A mask of one
column covers the second position only, and the layer answers. -/
theorem single_column_answers_step :
    let layer : Layer MachineNumber := constant .float32 1 1 (.everything 2) default
    let states : TypedTensor MachineNumber := ⟨.float32, Tensor.replicate [1, 2, 1] default⟩
    let mask : TypedTensor MachineNumber := ⟨.int64, Tensor.replicate [1, 1] default⟩
    ∃ before cache answer padded,
      layer.run ⟨states.slice 1 0 1, none, none, none, true⟩ = .ok before ∧
      before.present = some cache ∧
      layer.run ⟨states.slice 1 1 1, some cache, none, none, false⟩ = .ok answer ∧
      mask.shape ≠ [1, cache.length + 1] ∧
      layer.run ⟨states.slice 1 1 1, some cache, some mask, none, false⟩ = .ok padded := by
  intro layer states mask
  have sized : states.Sized .float32 [1, 1 + 1, 1 * 1] := ⟨rfl, rfl⟩
  have regular : layer.Regular .float32 1 1 := regular_constant rfl _ default
  obtain ⟨before, cache, answer, prefixed, given, length, ran⟩ :=
    regular.exists_step sized (Nat.le_refl 2)
  let step : LayerInput MachineNumber := ⟨states.slice 1 1 1, some cache, none, none, false⟩
  have sizes : step.hidden.shape = [1, 1, 1 * 1] := rfl
  have plain : layer.runGlobal 2 { step with attentionMask := none } = .ok answer := ran
  have maskShape : mask.shape = [1, 1] := rfl
  obtain ⟨padded, passed⟩ :=
    (regular.runGlobal_padded_iff sizes rfl plain maskShape).mpr ⟨Or.inl rfl, Or.inr rfl⟩
  refine ⟨before, cache, answer, padded, prefixed, given, ran, ?_, passed⟩
  rw [length]
  decide

end Layer

end CausalAttention
