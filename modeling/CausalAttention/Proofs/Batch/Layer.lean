import CausalAttention.Number.Machine
import CausalAttention.Proofs.Batch.Layout
import CausalAttention.Proofs.Layer.Evaluated
import CausalAttention.Proofs.Layer.Operands

/-!
Layers answer for every row of a batch on its own. A run on a batch that succeeds succeeds on each
row alone, with the row of the cache and of the mask, and gives the row of its answer: what the other
rows hold does not matter, nor how many they are.
-/

set_option autoImplicit false

namespace CausalAttention

variable {α : Type} [Arithmetic α] {batch row count : Nat}

namespace TypedTensor

def atRow (typed : TypedTensor α) (row : Nat) : TypedTensor α :=
  typed.slice 0 row 1

def Batched (batch : Nat) (typed : TypedTensor α) : Prop :=
  ∃ rest, typed.shape = batch :: rest

theorem Batched.exists_isRow {typed : TypedTensor α} (batched : typed.Batched batch) (row : Nat) :
    ∃ count, IsRow batch row count (typed.atRow row) typed := by
  rcases batched with ⟨rest, sizes⟩
  exact ⟨rest.length, isRow_slice _ sizes⟩

theorem IsRow.positionCount_eq {part whole : TypedTensor α}
    (isRow : IsRow batch row (count + 2) part whole) :
    part.positionCount = whole.positionCount := by
  have axisEq : count + 2 + 1 - 2 = count + 1 := by omega
  unfold positionCount
  rw [isRow.rank_part, isRow.rank_whole, axisEq, isRow.tensor.extent_eq]

end TypedTensor

namespace Cache

def atRow (cache : Cache α) (row : Nat) : Cache α :=
  cache.map fun held => held.atRow row

end Cache

structure LayerInput.Batched (batch : Nat) (input : LayerInput α) : Prop where
  hidden : ∃ positions width, input.hidden.shape = [batch, positions, width]
  past : ∀ cache ∈ input.past, ∀ held ∈ cache, held.Batched batch
  attentionMask : ∀ mask ∈ input.attentionMask, mask.Batched batch
  headMask : ∀ factors ∈ input.headMask, factors.rank ≤ 3

def LayerInput.atRow (input : LayerInput α) (row : Nat) : LayerInput α :=
  { hidden := input.hidden.atRow row
    past := input.past.map fun cache => cache.atRow row
    attentionMask := input.attentionMask.map fun mask => mask.atRow row
    headMask := input.headMask
    useCache := input.useCache }

def LayerOutput.atRow (answer : LayerOutput α) (row : Nat) : LayerOutput α :=
  { output := answer.output.atRow row
    present := answer.present.map fun cache => cache.atRow row
    weights := answer.weights.atRow row }

def Attended.atRow (attended : Attended α) (row : Nat) : Attended α :=
  ⟨attended.output.atRow row, attended.weights.atRow row⟩

/-- The operands for a row of a batch. A mask that has no batch is the same for every row. -/
structure Operands.IsRow (batch row count : Nat) (part whole : Operands α) : Prop where
  query : TypedTensor.IsRow batch row (count + 2) part.query whole.query
  key : TypedTensor.IsRow batch row (count + 2) part.key whole.key
  value : TypedTensor.IsRow batch row (count + 2) part.value whole.value
  visible : Tensor.Alongside batch row (count + 2) part.visible whole.visible
  additive : Option.Rel (TypedTensor.IsRow batch row (count + 2)) part.additive whole.additive

namespace Layer

open TypedTensor

variable {layer : Layer α} {input : LayerInput α}

/-- What the parameters of a layer have in common with those of every other. -/
structure Formed (layer : Layer α) : Prop where
  parameters : ∃ width, layer.parameters.Shaped width
  maskedBias : layer.maskedBias.shape = []
  attentionDropout : layer.attentionDropout = .keepAll ∨ layer.attentionDropout = .undefinedRate
  outputDropout : layer.outputDropout = .keepAll ∨ layer.outputDropout = .undefinedRate

theorem formed_of_evaluating {kind : LayerKind} {config : Config} {type : ElementType}
    {parameters : Parameters α} (built : evaluating kind config type parameters = .ok layer) :
    layer.Formed := by
  have sized := sized_of_evaluating built
  obtain ⟨plan, reach, taken, planMade, _, _, rfl⟩ := parts_of_evaluating built
  obtain ⟨attention, output⟩ := LayerPlan.undrawn_of_ofConfig planMade
  refine ⟨⟨plan.width, ?_⟩, shape_convert type _, attention, output⟩
  exact {
    query := sized.query.shape_eq
    key := sized.key.shape_eq
    value := sized.value.shape_eq
    output := sized.output.shape_eq
    outputBias := sized.outputBias.shape_eq }

theorem requireCovered_row {part whole : TypedTensor α} (isRow : IsRow batch row count part whole)
    {heads headSize : Setting} {covered : DyadicValue}
    (made : requireCovered heads headSize covered whole = .ok ()) :
    requireCovered heads headSize covered part = .ok () := by
  have wholeRank := isRow.rank_whole
  have partRank := isRow.rank_part
  rcases exists_of_bind_ok made with ⟨_, required, fits⟩
  have known : whole.rank = 3 ∨ whole.rank = 4 := Tensor.requireRank_eq_ok required
  obtain ⟨behind, rfl⟩ : ∃ behind, count = behind + 1 := ⟨count - 1, by omega⟩
  have partRequired := isRow.tensor.requireRank 3 4
  rw [required] at partRequired
  simp only [requireCovered, partRequired, partRank, wholeRank, Nat.add_sub_cancel,
    isRow.tensor.extent_eq, bind, Except.bind] at fits ⊢
  exact fits

theorem split_row {part whole result : TypedTensor α} (isRow : IsRow batch row count part whole)
    (below : row < batch) (made : layer.split whole = .ok result) :
    ∃ small, layer.split part = .ok small ∧ IsRow batch row (count + 1) small result := by
  unfold Layer.split at made ⊢
  cases division : layer.division with
  | whole heads headSize =>
      simp only [division] at made ⊢
      exact isRow.relayout _ made fun _ changed => isRow.tensor.splitHeads below changed
  | single headSize =>
      simp only [division] at made ⊢
      rcases exists_of_bind_ok made with ⟨_, covered, made⟩
      simp only [requireCovered_row isRow covered, bind, Except.bind]
      exact isRow.relayout _ made fun _ changed => isRow.tensor.splitHeads below changed
  | fractional heads headSize =>
      simp only [division] at made
      rcases exists_of_bind_ok made with ⟨_, _, made⟩
      contradiction

theorem heads_row {part whole features held : TypedTensor α}
    (isRow : IsRow batch row (count + 1) part whole) (below : row < batch) {matrix : TypedTensor α}
    (square : matrix.rank = 2) (made : whole.linear matrix = .ok features)
    (split : layer.split features = .ok held) :
    ∃ partFeatures small, part.linear matrix = .ok partFeatures ∧
      layer.split partFeatures = .ok small ∧ IsRow batch row (count + 2) small held := by
  rcases isRow.linear below square made with ⟨partFeatures, partMade, featuresRow⟩
  rcases split_row featuresRow below split with ⟨small, partSplit, smallRow⟩
  exact ⟨partFeatures, small, partMade, partSplit, smallRow⟩

theorem merge_row {part whole result : TypedTensor α} (isRow : IsRow batch row count part whole)
    (below : row < batch) (made : layer.merge whole = .ok result) :
    ∃ small behind, layer.merge part = .ok small ∧ IsRow batch row (behind + 1) small result := by
  unfold Layer.merge at made ⊢
  have merged (heads headSize : Int)
      (made : whole.relayout (Tensor.mergeHeads heads headSize) = .ok result) :
      ∃ small behind, part.relayout (Tensor.mergeHeads heads headSize) = .ok small ∧
        IsRow batch row (behind + 1) small result := by
    rcases exists_of_map_ok made with ⟨tensor, changed, rfl⟩
    rcases isRow.tensor.mergeHeads below changed with ⟨small, behind, partChanged, smallRow⟩
    exact ⟨_, behind, relayout_of_ok partChanged, isRow.elementType, smallRow⟩
  cases division : layer.division with
  | whole heads headSize =>
      simp only [division] at made ⊢
      exact merged heads headSize made
  | single headSize =>
      simp only [division] at made ⊢
      exact merged 1 headSize made
  | fractional heads headSize =>
      simp only [division] at made
      rcases exists_of_bind_ok made with ⟨_, _, made⟩
      contradiction

theorem project_row (formed : layer.Formed) {part whole result : TypedTensor α}
    (isRow : IsRow batch row (count + 1) part whole) (below : row < batch)
    (made : layer.project whole = .ok result) :
    ∃ small, layer.project part = .ok small ∧ IsRow batch row (count + 1) small result := by
  rcases formed.parameters with ⟨width, shaped⟩
  have square : layer.parameters.output.rank = 2 := congrArg List.length shaped.output
  rcases exists_of_bind_ok made with ⟨projected, projectedMade, dropped⟩
  rcases isRow.affine below square projectedMade with ⟨projectedPart, partProjected, projectedRow⟩
  rcases projectedRow.dropout formed.outputDropout dropped with ⟨small, partDropped, smallRow⟩
  refine ⟨small, ?_, smallRow⟩
  simp only [project, partProjected, bind, Except.bind]
  exact partDropped

theorem finish_row (formed : layer.Formed) {part whole result : TypedTensor α}
    (isRow : IsRow batch row count part whole) (below : row < batch) (sizes : Option (List Int))
    (nonempty : ∀ tail ∈ sizes, tail ≠ [])
    (made : layer.finish whole (sizes.map fun tail => (batch : Int) :: tail) = .ok result) :
    ∃ small behind, layer.finish part (sizes.map fun tail => 1 :: tail) = .ok small ∧
      IsRow batch row behind small result := by
  rcases exists_of_bind_ok made with ⟨merged, mergedMade, made⟩
  rcases merge_row isRow below mergedMade with ⟨mergedPart, behind, partMerged, mergedRow⟩
  cases sizes with
  | none =>
      rcases project_row formed mergedRow below made with ⟨small, partMade, smallRow⟩
      refine ⟨small, _, ?_, smallRow⟩
      simp only [Layer.finish, partMerged, bind, Except.bind]
      exact partMade
  | some tail =>
      rcases exists_of_bind_ok made with ⟨arranged, regrouped, made⟩
      obtain ⟨arrangedPart, partRegrouped, arrangedRow⟩ :=
        mergedRow.relayout (fun tensor => tensor.reshape (1 :: tail)) regrouped
          fun _ changed => mergedRow.tensor.reshape below changed
      have tailLength : tail.length = tail.length - 1 + 1 := by
        have positive := List.length_pos_iff.mpr (nonempty tail rfl)
        omega
      rw [tailLength] at arrangedRow
      rcases project_row formed arrangedRow below made with ⟨small, partMade, smallRow⟩
      refine ⟨small, _, ?_, smallRow⟩
      simp only [Layer.finish, partMerged, Option.map_some, partRegrouped, bind, Except.bind]
      exact partMade

theorem extendKeysValues_row {past : Option (Cache α)} {key keyPart value valuePart : TypedTensor α}
    {extended : TypedTensor α × TypedTensor α}
    (batched : ∀ cache ∈ past, ∀ held ∈ cache, held.Batched batch)
    (keyRow : IsRow batch row 3 keyPart key) (valueRow : IsRow batch row 3 valuePart value)
    (below : row < batch) (made : extendKeysValues past key value = .ok extended) :
    ∃ keys values, extendKeysValues (past.map fun cache => cache.atRow row) keyPart valuePart =
        .ok (keys, values) ∧
      IsRow batch row 3 keys extended.1 ∧ IsRow batch row 3 values extended.2 := by
  match past with
  | none =>
      cases made
      exact ⟨keyPart, valuePart, rfl, keyRow, valueRow⟩
  | some [pastKey, pastValue] =>
      rcases exists_of_bind_ok made with ⟨keys, keysMade, made⟩
      rcases exists_of_bind_ok made with ⟨values, valuesMade, made⟩
      cases made
      rcases (batched _ rfl pastKey (by simp)).exists_isRow row with ⟨_, pastKeyRow⟩
      rcases (batched _ rfl pastValue (by simp)).exists_isRow row with ⟨_, pastValueRow⟩
      rcases pastKeyRow.append keyRow below 1 rfl (by decide) keysMade with
        ⟨keysPart, partKeys, keysRow⟩
      rcases pastValueRow.append valueRow below 1 rfl (by decide) valuesMade with
        ⟨valuesPart, partValues, valuesRow⟩
      refine ⟨keysPart, valuesPart, ?_, keysRow, valuesRow⟩
      simp only [Option.map_some, Cache.atRow, List.map_cons, List.map_nil, extendKeysValues,
        partKeys, partValues, bind, Except.bind, pure, Except.pure]
  | some [] => contradiction
  | some [_] => contradiction
  | some (_ :: _ :: _ :: _) => contradiction

/-- The hidden states of a cache are joined with those of new positions row by row, and a row of the
cache has as many positions as the cache. -/
theorem extendHidden_row {past : Option (Cache α)} {hidden hiddenPart : TypedTensor α}
    {extended : TypedTensor α × Nat}
    (batched : ∀ cache ∈ past, ∀ held ∈ cache, held.Batched batch)
    (hiddenRow : IsRow batch row 2 hiddenPart hidden) (below : row < batch)
    (made : extendHidden past hidden count = .ok extended) :
    ∃ states, extendHidden (past.map fun cache => cache.atRow row) hiddenPart count =
        .ok (states, extended.2) ∧
      IsRow batch row 2 states extended.1 := by
  cases past with
  | none =>
      cases made
      exact ⟨hiddenPart, rfl, hiddenRow⟩
  | some cache =>
      simp only [extendHidden, Option.map_some] at made ⊢
      split at made
      · contradiction
      · rename_i single
        rw [if_neg single]
        cases cache with
        | nil => contradiction
        | cons first rest =>
            rcases exists_of_map_ok made with ⟨states, joined, rfl⟩
            rcases (batched _ rfl first (by simp)).exists_isRow row with ⟨_, firstRow⟩
            obtain rfl := firstRow.count_eq_of_append hiddenRow below joined
            rcases firstRow.append hiddenRow below 0 rfl (by decide) joined with
              ⟨statesPart, partJoined, statesRow⟩
            refine ⟨statesPart, ?_, statesRow⟩
            have lengths : (first.atRow row).positionCount = first.positionCount :=
              firstRow.positionCount_eq
            simp only [Cache.atRow, List.map_cons, partJoined, Except.map, Cache.length, lengths]

theorem rememberHidden_row (batched : input.Batched batch) (below : row < batch)
    {present : Option (Cache α)} (made : rememberHidden input = .ok present) :
    rememberHidden (input.atRow row) = .ok (present.map fun cache => cache.atRow row) := by
  rcases batched with ⟨⟨positions, width, sizes⟩, pastBatched, _, _⟩
  rcases input with ⟨hidden, past, mask, headMask, useCache⟩
  cases useCache with
  | false =>
      cases made
      rfl
  | true =>
      match past with
      | none =>
          cases made
          rfl
      | some [] => contradiction
      | some (first :: rest) =>
          have hiddenRow : IsRow batch row 2 (hidden.atRow row) hidden := isRow_slice _ sizes
          rcases exists_of_map_ok made with ⟨states, joined, rfl⟩
          rcases (pastBatched _ rfl first (by simp)).exists_isRow row with ⟨_, firstRow⟩
          rcases firstRow.append hiddenRow below 0 rfl (by decide) joined with
            ⟨statesPart, partJoined, statesRow⟩
          obtain rfl : statesPart = states.atRow row := statesRow.eq_slice
          change ((first.atRow row).append 1 (hidden.atRow row)).map
            (fun states => some [states]) = .ok (some [states.atRow row])
          rw [partJoined]
          rfl

theorem additiveTerms_row {mask : Option (TypedTensor α)} {additive : Option (TypedTensor α)}
    (batched : ∀ given ∈ mask, given.Batched batch) (below : row < batch)
    (made : additiveTerms mask = .ok additive) :
    ∃ terms, additiveTerms (mask.map fun given => given.atRow row) = .ok terms ∧
      Option.Rel (IsRow batch row 3) terms additive := by
  cases mask with
  | none =>
      cases made
      exact ⟨none, rfl, .none⟩
  | some given =>
      rcases exists_of_map_ok made with ⟨terms, shaped, rfl⟩
      rcases (batched given rfl).exists_isRow row with ⟨_, givenRow⟩
      rcases additiveMask_row givenRow below shaped with ⟨termsPart, partShaped, termsRow⟩
      refine ⟨some termsPart, ?_, .some termsRow⟩
      simp only [Option.map_some, additiveTerms, partShaped, Except.map]

theorem globalOperands_row (formed : layer.Formed) (batched : input.Batched batch)
    (below : row < batch) {limit : Nat} {operands : Operands α}
    (made : layer.globalOperands limit input = .ok operands) :
    ∃ part, layer.globalOperands limit (input.atRow row) = .ok part ∧
      Operands.IsRow batch row 1 part operands := by
  rcases formed.parameters with ⟨width, shaped⟩
  rcases batched.hidden with ⟨positions, features, sizes⟩
  have hiddenRow : IsRow batch row 2 (input.hidden.atRow row) input.hidden := isRow_slice _ sizes
  rcases exists_of_bind_ok made with ⟨queryFeatures, queryMade, made⟩
  rcases exists_of_bind_ok made with ⟨keyFeatures, keyMade, made⟩
  rcases exists_of_bind_ok made with ⟨valueFeatures, valueMade, made⟩
  rcases exists_of_bind_ok made with ⟨query, querySplit, made⟩
  rcases exists_of_bind_ok made with ⟨newKey, keySplit, made⟩
  rcases exists_of_bind_ok made with ⟨newValue, valueSplit, made⟩
  rcases exists_of_bind_ok made with ⟨⟨key, value⟩, extended, made⟩
  rcases heads_row hiddenRow below (congrArg List.length shaped.query) queryMade querySplit with
    ⟨queryFeaturesPart, queryPart, partQueryMade, partQuerySplit, queryRow⟩
  rcases heads_row hiddenRow below (congrArg List.length shaped.key) keyMade keySplit with
    ⟨keyFeaturesPart, newKeyPart, partKeyMade, partKeySplit, newKeyRow⟩
  rcases heads_row hiddenRow below (congrArg List.length shaped.value) valueMade valueSplit with
    ⟨valueFeaturesPart, newValuePart, partValueMade, partValueSplit, newValueRow⟩
  rcases extendKeysValues_row batched.past newKeyRow newValueRow below extended with
    ⟨keyPart, valuePart, partExtended, keyRow, valueRow⟩
  simp only at made keyRow valueRow
  by_cases tooLong : limit < key.positionCount
  · rw [if_pos tooLong] at made
    contradiction
  · rw [if_neg tooLong] at made
    rcases exists_of_bind_ok made with ⟨additive, additiveMade, made⟩
    cases made
    rcases additiveTerms_row batched.attentionMask below additiveMade with
      ⟨additivePart, partAdditiveMade, additiveRow⟩
    refine ⟨⟨queryPart, keyPart, valuePart, causalMask query.positionCount key.positionCount,
      additivePart⟩, ?_, queryRow, keyRow, valueRow, ?_, additiveRow⟩
    · simp only [globalOperands, LayerInput.atRow, partQueryMade, partKeyMade, partValueMade,
        partQuerySplit, partKeySplit, partValueSplit, partExtended, partAdditiveMade,
        queryRow.positionCount_eq, keyRow.positionCount_eq, if_neg tooLong, bind, Except.bind,
        pure, Except.pure]
    · -- The causal mask has one row, which stands for all rows of a batch.
      exact Tensor.alongside_single rfl rfl

theorem requireWindowMask_row {mask : Option (TypedTensor α)} {queries queriesPart : TypedTensor α}
    (batched : ∀ given ∈ mask, given.Batched batch)
    (queriesRow : IsRow batch row count queriesPart queries)
    (permitted : requireWindowMask mask queries = .ok ()) :
    requireWindowMask (mask.map fun given => given.atRow row) queriesPart = .ok () := by
  cases mask with
  | none => rfl
  | some given =>
      rcases (batched given rfl).exists_isRow row with ⟨_, givenRow⟩
      simp only [requireWindowMask, Option.map_some, givenRow.rank_eq,
        queriesRow.tensor.requireRank] at permitted ⊢
      split at permitted
      · rename_i flat
        rw [if_pos flat]
      · rename_i notFlat
        rw [if_neg notFlat]
        split at permitted
        · rename_i blocked
          rw [if_pos blocked]
          exact permitted
        · contradiction

theorem windowMask_row {mask : Option (TypedTensor α)} {queries : TypedTensor α} {sequence : Nat}
    {window : Int} {visible : Tensor Bool} (batched : ∀ given ∈ mask, given.Batched batch)
    (below : row < batch) (permitted : requireWindowMask mask queries = .ok ())
    (made : windowMask batch sequence window mask = .ok visible) :
    ∃ small, windowMask 1 sequence window (mask.map fun given => given.atRow row) = .ok small ∧
      Tensor.IsRow batch row 4 small visible := by
  cases mask with
  | none => exact localMask_row .none below made
  | some given =>
      rcases (batched given rfl).exists_isRow row with ⟨_, givenRow⟩
      have givenRank := givenRow.rank_whole
      simp only [windowMask, Option.map_some, givenRow.rank_eq] at made ⊢
      split at made
      · rename_i blocked
        cases made
        rw [if_pos blocked]
        rw [blocked] at givenRank
        cases givenRank
        exact ⟨_, rfl, givenRow.truth below⟩
      · rename_i notBlocked
        rw [if_neg notBlocked]
        have flat : given.rank = 2 := by
          apply Decidable.byContradiction
          intro notFlat
          simp only [requireWindowMask, if_neg notFlat, if_neg notBlocked] at permitted
          contradiction
        rw [flat] at givenRank
        cases givenRank
        exact localMask_row (.some givenRow) below made

theorem windowFeatures_row {features part windows : TypedTensor α}
    (featuresRow : IsRow batch row 2 part features) (below : row < batch) {blocks : Blocks}
    {window : Int} (made : windowFeatures blocks window features = .ok windows) :
    ∃ small, windowFeatures blocks window part = .ok small ∧ IsRow batch row 3 small windows := by
  unfold windowFeatures at made ⊢
  rw [featuresRow.elementType]
  exact featuresRow.relayout _ made fun _ changed => featuresRow.tensor.lookBack below changed

theorem lastBlock_row {part whole : TypedTensor α} (isRow : IsRow batch row 3 part whole)
    (below : row < batch) (cached : Bool) :
    IsRow batch row 3 (if cached then part.takeLast 1 1 else part)
      (if cached then whole.takeLast 1 1 else whole) := by
  cases cached with
  | false => exact isRow
  | true => exact ⟨isRow.elementType, isRow.tensor.takeLast below 0 (by decide) 1⟩

theorem lastQuery_row {part whole : Tensor Bool} (isRow : Tensor.IsRow batch row 4 part whole)
    (below : row < batch) (cached : Bool) :
    Tensor.IsRow batch row 4 (if cached then (part.takeLast 1 1).takeLast 3 1 else part)
      (if cached then (whole.takeLast 1 1).takeLast 3 1 else whole) := by
  cases cached with
  | false => exact isRow
  | true =>
      have lastBlock := isRow.takeLast below 0 (by decide) 1
      exact lastBlock.takeLast below 2 (by decide) 1

/-- Blocks and windows depend on the number of positions, which the rows have in common. -/
theorem localFeatures_row (formed : layer.Formed) (batched : input.Batched batch)
    (below : row < batch) {windowSetting : Setting} {features : Operands α}
    (made : layer.localFeatures windowSetting input = .ok features) :
    ∃ part, layer.localFeatures windowSetting (input.atRow row) = .ok part ∧
      IsRow batch row 3 part.query features.query ∧ IsRow batch row 3 part.key features.key ∧
      IsRow batch row 3 part.value features.value ∧
      Tensor.IsRow batch row 4 part.visible features.visible ∧
      part.additive = none ∧ features.additive = none := by
  rcases formed.parameters with ⟨width, shaped⟩
  rcases batched.hidden with ⟨positions, _, sizes⟩
  have hiddenRow : IsRow batch row 2 (input.hidden.atRow row) input.hidden := isRow_slice _ sizes
  obtain ⟨rest, partSizes⟩ : ∃ rest, (input.hidden.atRow row).shape = 1 :: positions :: rest := by
    unfold TypedTensor.atRow
    rw [shape_slice, sizes]
    exact ⟨_, rfl⟩
  unfold localFeatures at made
  simp only [sizes, pure_bind] at made
  rcases exists_of_bind_ok made with ⟨queryFeatures, queryMade, made⟩
  rcases exists_of_bind_ok made with ⟨⟨states, pastCount⟩, extended, made⟩
  rcases exists_of_bind_ok made with ⟨keyFeatures, keyMade, made⟩
  rcases exists_of_bind_ok made with ⟨valueFeatures, valueMade, made⟩
  rcases exists_of_bind_ok made with ⟨_, positive, made⟩
  rcases exists_of_bind_ok made with ⟨_, permitted, made⟩
  rcases exists_of_bind_ok made with ⟨window, windowRead, made⟩
  rcases exists_of_bind_ok made with ⟨blocks, found, made⟩
  rcases hiddenRow.linear below (congrArg List.length shaped.query) queryMade with
    ⟨queryFeaturesPart, partQueryMade, queryFeaturesRow⟩
  rcases extendHidden_row batched.past hiddenRow below extended with
    ⟨statesPart, partExtended, statesRow⟩
  rcases statesRow.linear below (congrArg List.length shaped.key) keyMade with
    ⟨keyFeaturesPart, partKeyMade, keyFeaturesRow⟩
  rcases statesRow.linear below (congrArg List.length shaped.value) valueMade with
    ⟨valueFeaturesPart, partValueMade, valueFeaturesRow⟩
  have partPermitted := requireWindowMask_row batched.attentionMask queryFeaturesRow permitted
  by_cases empty : positions + pastCount = 0
  · simp only [if_pos empty] at made
    contradiction
  · simp only [if_neg empty] at made
    rcases exists_of_bind_ok made with ⟨fullMask, masked, made⟩
    rcases exists_of_bind_ok made with ⟨queryBlocks, blocksMade, made⟩
    rcases exists_of_bind_ok made with ⟨keyWindows, keyLooked, made⟩
    rcases exists_of_bind_ok made with ⟨valueWindows, valueLooked, made⟩
    cases made
    rcases windowMask_row batched.attentionMask below permitted masked with
      ⟨fullMaskPart, partMasked, fullMaskRow⟩
    rcases queryFeaturesRow.relayout _ blocksMade fun _ changed =>
        queryFeaturesRow.tensor.splitSequence below changed with
      ⟨queryBlocksPart, partBlocksMade, queryBlocksRow⟩
    rcases windowFeatures_row keyFeaturesRow below keyLooked with
      ⟨keyWindowsPart, partKeyLooked, keyWindowsRow⟩
    rcases windowFeatures_row valueFeaturesRow below valueLooked with
      ⟨valueWindowsPart, partValueLooked, valueWindowsRow⟩
    have cachedEq : (input.atRow row).past.isSome = input.past.isSome := Option.isSome_map
    refine ⟨⟨queryBlocksPart, if input.past.isSome then keyWindowsPart.takeLast 1 1
      else keyWindowsPart, if input.past.isSome then valueWindowsPart.takeLast 1 1
      else valueWindowsPart, if input.past.isSome then (fullMaskPart.takeLast 1 1).takeLast 3 1
      else fullMaskPart, none⟩, ?_, queryBlocksRow,
      lastBlock_row keyWindowsRow below input.past.isSome,
      lastBlock_row valueWindowsRow below input.past.isSome,
      lastQuery_row fullMaskRow below input.past.isSome, rfl, rfl⟩
    simp only [localFeatures, cachedEq]
    simp only [LayerInput.atRow, partSizes, partQueryMade, partExtended, partKeyMade,
      partValueMade, positive, partPermitted, windowRead, found, if_neg empty, partMasked,
      partBlocksMade, partKeyLooked, partValueLooked, bind, Except.bind, pure, Except.pure]

theorem localOperands_row (formed : layer.Formed) (batched : input.Batched batch)
    (below : row < batch) {windowSetting : Setting} {operands : Operands α}
    (made : layer.localFeatures windowSetting input >>= layer.splitOperands = .ok operands) :
    ∃ part, layer.localFeatures windowSetting (input.atRow row) >>= layer.splitOperands =
        .ok part ∧
      Operands.IsRow batch row 2 part operands := by
  rcases exists_of_bind_ok made with ⟨features, featuresMade, made⟩
  rcases exists_of_bind_ok made with ⟨query, querySplit, made⟩
  rcases exists_of_bind_ok made with ⟨key, keySplit, made⟩
  rcases exists_of_bind_ok made with ⟨value, valueSplit, made⟩
  cases made
  obtain ⟨part, partMade, queryRow, keyRow, valueRow, visibleRow, partBare, bare⟩ :=
    localFeatures_row formed batched below featuresMade
  rcases split_row queryRow below querySplit with ⟨queryPart, partQuerySplit, queryHeads⟩
  rcases split_row keyRow below keySplit with ⟨keyPart, partKeySplit, keyHeads⟩
  rcases split_row valueRow below valueSplit with ⟨valuePart, partValueSplit, valueHeads⟩
  refine ⟨{ part with query := queryPart, key := keyPart, value := valuePart }, ?_, queryHeads,
    keyHeads, valueHeads, visibleRow.alongside below, ?_⟩
  · simp only [partMade, splitOperands, partQuerySplit, partKeySplit, partValueSplit, bind,
      Except.bind, pure, Except.pure]
  · simp only [partBare, bare]
    exact .none

theorem operands_row (formed : layer.Formed) (batched : input.Batched batch) (below : row < batch)
    {operands : Operands α} (made : layer.operands input = .ok operands) :
    ∃ part count, layer.operands (input.atRow row) = .ok part ∧ 1 ≤ count ∧
      Operands.IsRow batch row count part operands := by
  cases reach : layer.reach with
  | everything limit =>
      rw [operands_of_everything reach] at made ⊢
      rcases globalOperands_row formed batched below made with ⟨part, partMade, isRow⟩
      exact ⟨part, 1, partMade, le_refl 1, isRow⟩
  | window setting =>
      rw [operands_of_window reach] at made ⊢
      rcases localOperands_row formed batched below made with ⟨part, partMade, isRow⟩
      exact ⟨part, 2, partMade, by decide, isRow⟩

theorem attend_row (formed : layer.Formed) {part operands : Operands α}
    (isRow : Operands.IsRow batch row count part operands) {headMask : Option (TypedTensor α)}
    (short : ∀ factors ∈ headMask, factors.rank ≤ count + 2) (below : row < batch)
    {attended : Attended α} (made : layer.attend operands headMask = .ok attended) :
    ∃ small, layer.attend part headMask = .ok small ∧
      IsRow batch row (count + 2) small.output attended.output ∧
      IsRow batch row (count + 2) small.weights attended.weights :=
  Attended.ofMasked_row isRow.query isRow.key isRow.value isRow.visible formed.maskedBias
    formed.attentionDropout isRow.additive short below made

/-- An answer that is asked for in certain sizes is asked for with the batch in front. -/
theorem answerSizes_row (layer : Layer α) (batched : input.Batched batch) (row : Nat) :
    ∃ sizes : Option (List Int), (∀ tail ∈ sizes, tail ≠ []) ∧
      layer.answerSizes input = (sizes.map fun tail => (batch : Int) :: tail) ∧
      layer.answerSizes (input.atRow row) = sizes.map fun tail => 1 :: tail := by
  rcases batched.hidden with ⟨positions, features, sizes⟩
  have partSizes : (input.atRow row).hidden.shape = [1, positions, features] := by
    change (input.hidden.atRow row).shape = _
    unfold TypedTensor.atRow
    rw [shape_slice, sizes]
    rfl
  unfold answerSizes
  rw [sizes, partSizes]
  cases layer.reach with
  | everything limit => exact ⟨none, by rintro _ ⟨⟩, rfl, rfl⟩
  | window setting =>
      refine ⟨some [positions, layer.width], ?_, rfl, rfl⟩
      rintro _ ⟨⟩
      exact List.cons_ne_nil _ _

theorem remember_row (batched : input.Batched batch) (below : row < batch)
    {part operands : Operands α} (isRow : Operands.IsRow batch row count part operands)
    {present : Option (Cache α)} (made : layer.remember input operands = .ok present) :
    layer.remember (input.atRow row) part =
      .ok (present.map fun cache => cache.atRow row) := by
  unfold remember at made ⊢
  cases reach : layer.reach with
  | everything limit =>
      simp only [reach] at made ⊢
      cases made
      have used : (input.atRow row).useCache = input.useCache := rfl
      rw [used, isRow.key.eq_slice, isRow.value.eq_slice]
      cases input.useCache <;> rfl
  | window setting =>
      simp only [reach] at made ⊢
      exact rememberHidden_row batched below made

/-- A run on a batch that succeeds answers for each row what a run on that row alone, with the row
of the cache and of the mask, answers. -/
theorem rows_independent {kind : LayerKind} {config : Config} {type : ElementType}
    {parameters : Parameters α} (built : evaluating kind config type parameters = .ok layer)
    (batched : input.Batched batch) {answer : LayerOutput α} (ran : layer.run input = .ok answer) :
    ∀ row, row < batch → layer.run (input.atRow row) = .ok (answer.atRow row) := by
  intro row below
  have formed := formed_of_evaluating built
  rw [run_eq] at ran ⊢
  rcases exists_of_bind_ok ran with ⟨operands, operandsMade, ran⟩
  rcases exists_of_bind_ok ran with ⟨attended, attendedMade, ran⟩
  rcases exists_of_bind_ok ran with ⟨output, finished, ran⟩
  rcases exists_of_bind_ok ran with ⟨present, remembered, ran⟩
  cases ran
  rcases operands_row formed batched below operandsMade with
    ⟨part, stacked, partMade, enough, isRow⟩
  have short : ∀ factors ∈ input.headMask, factors.rank ≤ stacked + 2 := fun factors given =>
    (batched.headMask factors given).trans (Nat.add_le_add_right enough 2)
  rcases attend_row formed isRow short below attendedMade with
    ⟨attendedPart, partAttended, outputRow, weightsRow⟩
  obtain ⟨sizes, nonempty, sizesEq, partSizesEq⟩ := answerSizes_row layer batched row
  rw [sizesEq] at finished
  rcases finish_row formed outputRow below sizes nonempty finished with
    ⟨outputPart, _, partFinished, finishedRow⟩
  rw [← partSizesEq] at partFinished
  have sameHeadMask : (input.atRow row).headMask = input.headMask := rfl
  simp only [partMade, sameHeadMask, partAttended, partFinished,
    remember_row batched below isRow remembered, bind, Except.bind, pure, Except.pure]
  rw [finishedRow.eq_slice, weightsRow.eq_slice]
  rfl

/-- Two rows with one position in the cache, which the mask of the second row leaves out, in machine
arithmetic. -/
theorem rows_independent_two_rows :
    let arguments : ConfigArguments :=
      { hiddenSize := .int 2, heads := .int 1, layerCount := .int 2, windowSize := .int 2,
        maxPositions := .int 3, attentionDropout := .int 0, outputDropout := .int 0 }
    let parameters : Parameters MachineNumber := Parameters.constant .float32 2 default
    let hidden : TypedTensor MachineNumber := ⟨.float32, Tensor.ofFn [2, 1, 2] fun index =>
      if index.head? = some 0 then default else .real 2⟩
    let held : TypedTensor MachineNumber := ⟨.float32, Tensor.replicate [2, 1, 1, 2] (.real 3)⟩
    let mask : TypedTensor MachineNumber := ⟨.int64, Tensor.ofFn [2, 2] fun index =>
      .whole (if index = [1, 0] then 0 else 1)⟩
    let everything : LayerInput MachineNumber := ⟨hidden, some [held, held], some mask, none, true⟩
    let window : LayerInput MachineNumber := ⟨hidden, some [hidden], some mask, none, true⟩
    ∃ config, Config.ofArguments arguments = .ok config ∧
      (∃ layer answer, evaluating .everything config .float32 parameters = .ok layer ∧
        layer.run everything = .ok answer ∧
        layer.run (everything.atRow 1) = .ok (answer.atRow 1)) ∧
      ∃ layer answer, evaluating .window config .float32 parameters = .ok layer ∧
        layer.run window = .ok answer ∧ layer.run (window.atRow 1) = .ok (answer.atRow 1) := by
  intro arguments parameters hidden held mask everything window
  obtain ⟨config, accepted⟩ : ∃ config, Config.ofArguments arguments = .ok config := ⟨_, rfl⟩
  have answers (kind : LayerKind) {input : LayerInput MachineNumber} (batched : input.Batched 2)
      (succeeds : (do
        let config ← Config.ofArguments arguments
        let layer ← evaluating kind config .float32 parameters
        layer.run input).toOption.isSome = true) :
      ∃ layer answer, evaluating kind config .float32 parameters = .ok layer ∧
        layer.run input = .ok answer ∧ layer.run (input.atRow 1) = .ok (answer.atRow 1) := by
    rw [accepted] at succeeds
    cases built : evaluating kind config .float32 parameters with
    | error failure =>
        simp only [built, bind, Except.bind] at succeeds
        contradiction
    | ok layer =>
        cases ran : layer.run input with
        | error failure =>
            simp only [built, ran, bind, Except.bind] at succeeds
            contradiction
        | ok answer =>
            exact ⟨layer, answer, rfl, ran, rows_independent built batched ran 1 (by decide)⟩
  have maskBatched : ∀ given ∈ some mask, given.Batched 2 := forall_mem_some ⟨[2], rfl⟩
  refine ⟨config, accepted, answers .everything ?_ (by decide +kernel),
    answers .window ?_ (by decide +kernel)⟩
  · refine ⟨⟨1, 2, rfl⟩, forall_mem_some ?_, maskBatched, forall_mem_none⟩
    exact List.forall_mem_cons.mpr ⟨⟨_, rfl⟩, List.forall_mem_singleton.mpr ⟨_, rfl⟩⟩
  · refine ⟨⟨1, 2, rfl⟩, forall_mem_some ?_, maskBatched, forall_mem_none⟩
    exact List.forall_mem_singleton.mpr ⟨_, rfl⟩

end Layer

end CausalAttention
