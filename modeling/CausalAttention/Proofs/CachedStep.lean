import CausalAttention.Number.Machine
import CausalAttention.Proofs.Layer.Construction
import CausalAttention.Proofs.Layer.Global
import CausalAttention.Proofs.Layer.Local

/-!
One step with a cache answers as the last rows of a run without one. Nothing is assumed of the
scalar operations, so the two runs compute the same scores from the same operands.
-/

set_option autoImplicit false

namespace CausalAttention

variable {α : Type} [Arithmetic α]

namespace Attended

def lastQuery (attended : Attended α) : Attended α :=
  ⟨attended.output.takeLast 1 1, (attended.weights.takeLast 1 1).takeLast 3 1⟩

end Attended

namespace LayerOutput

def lastQueries (count : Nat) (answer : LayerOutput α) : LayerOutput α :=
  { output := answer.output.takeLast 1 count
    present := answer.present
    weights := answer.weights.takeLast 2 count }

end LayerOutput

namespace TypedTensor

/-- The rows of a mask for the last queries. A padding mask has no rows for queries. -/
def lastQueries (count : Nat) (mask : TypedTensor α) : TypedTensor α :=
  if mask.rank = 4 then mask.takeLast 2 count else mask

end TypedTensor

namespace Layer

variable {layer : Layer α} {type : ElementType} {heads size batch sequence : Nat}
  {states : TypedTensor α}

omit [Arithmetic α] in
theorem exists_wider {headMask : Option (TypedTensor α)}
    (wide : ¬∀ factors ∈ headMask, type.join factors.elementType = type) :
    ∃ factors, headMask = some factors ∧ type.join factors.elementType ≠ type := by
  cases headMask with
  | none => exact absurd forall_mem_none wide
  | some factors =>
      refine ⟨factors, rfl, ?_⟩
      intro same
      apply wide
      intro other given
      cases given
      exact same

theorem LocalAnswer.eq_lastQuery {blocks : Blocks} {window : Nat} (cut : blocks.Cut sequence window)
    {mask headMask : Option (TypedTensor α)} {full step : Attended α}
    (fullAnswer : layer.LocalAnswer type heads size states batch blocks window mask headMask
      blocks.allQueries full)
    (stepAnswer : layer.LocalAnswer type heads size states batch blocks window mask headMask
      blocks.lastQuery step) :
    step = full.lastQuery := by
  have countPositive := cut.countPositive
  have lengthPositive := cut.lengthPositive
  have outputEq : step.output = full.output.takeLast 1 1 := by
    rcases fullAnswer.outputSized.takeLast_reads 1 cut.nonempty cut.whole with
      ⟨lastSized, lastGet⟩
    apply stepAnswer.outputSized.ext lastSized
    intro row rowBelow position positionBelow entry entryBelow
    have first : position = 0 := Nat.lt_one_iff.mp positionBelow
    subst first
    have lastBelow : sequence - 1 < blocks.count * blocks.length := by
      rw [cut.whole]
      exact Nat.sub_lt cut.nonempty Nat.one_pos
    -- The place of the new query in its own cut is that of the last position in all blocks.
    have stepRow := stepAnswer.outputGet row 0 entry rowBelow positionBelow entryBelow
    have fullRow := fullAnswer.outputGet row (sequence - 1) entry rowBelow lastBelow entryBelow
    simp only [Blocks.lastQuery, Nat.zero_div, Nat.zero_mod, Nat.add_zero] at stepRow
    simp only [Blocks.allQueries, cut.lastPlace, Nat.zero_add] at fullRow
    calc step.output.tensor.get [row, 0, entry]
      _ = full.output.tensor.get [row, sequence - 1, entry] := stepRow.trans fullRow.symm
      _ = (full.output.takeLast 1 1).tensor.get [row, 0, entry] :=
          (lastGet [row, 0, entry] ⟨rowBelow, positionBelow, entryBelow, trivial⟩).symm
  have weightsEq : step.weights = (full.weights.takeLast 1 1).takeLast 3 1 := by
    obtain ⟨lastShape, lastGet⟩ := Tensor.lastRow_reads countPositive lengthPositive
      fullAnswer.weightsSized.shape_eq
    have lastSized : ((full.weights.takeLast 1 1).takeLast 3 1).Sized type
        [batch, 1, heads, 1, window + blocks.length] :=
      ⟨fullAnswer.weightsSized.type_eq, lastShape⟩
    apply stepAnswer.weightsSized.ext lastSized
    intro row rowBelow block blockBelow head headBelow inner innerBelow slot slotBelow
    change block < 1 at blockBelow
    change inner < 1 at innerBelow
    have lastBlock : blocks.count - 1 + block < blocks.count := by omega
    have lastInner : blocks.length - 1 + inner < blocks.length := by omega
    have stepRow := stepAnswer.weightsGet row block head inner slot rowBelow blockBelow headBelow
      innerBelow slotBelow
    have fullRow := fullAnswer.weightsGet row _ head _ slot rowBelow lastBlock headBelow lastInner
      slotBelow
    simp only [Blocks.lastQuery] at stepRow
    simp only [Blocks.allQueries, Nat.zero_add] at fullRow
    exact (stepRow.trans fullRow.symm).trans
      (lastGet row block head inner slot rowBelow blockBelow headBelow innerBelow slotBelow).symm
  unfold Attended.lastQuery
  rw [← outputEq, ← weightsEq]

/-- With the states before it in the cache, the last position is answered as by a run on all of
them, and both runs fail when the head mask widens the type of the values. -/
theorem runLocal_last (regular : layer.Regular type heads size)
    (sized : states.Sized type [batch, sequence, heads * size]) {blocks : Blocks} {window : Nat}
    (cut : blocks.Cut sequence window) {mask headMask : Option (TypedTensor α)}
    (masks : ∀ given ∈ mask, given.MasksWindows batch sequence blocks window)
    (headMasks : ∀ factors ∈ headMask, PerHead factors heads) (useCache : Bool) :
    layer.runLocal (.int window) ⟨states.slice 1 (sequence - 1) 1,
        some [states.slice 1 0 (sequence - 1)], mask, headMask, useCache⟩ =
      (layer.runLocal (.int window) ⟨states, none, mask, headMask, useCache⟩).map
        Attended.lastQuery ∧
    ((∀ factors ∈ headMask, type.join factors.elementType = type) →
      ∃ full, layer.runLocal (.int window) ⟨states, none, mask, headMask, useCache⟩ =
        .ok full) := by
  have fullRun : LocalRun type heads size states batch sequence blocks window
      ⟨states, none, mask, headMask, useCache⟩ :=
    ⟨sized, cut, Or.inl ⟨rfl, rfl⟩, masks, headMasks⟩
  have stepRun : LocalRun type heads size states batch sequence blocks window
      ⟨states.slice 1 (sequence - 1) 1, some [states.slice 1 0 (sequence - 1)], mask, headMask,
        useCache⟩ :=
    ⟨sized, cut, Or.inr ⟨rfl, rfl⟩, masks, headMasks⟩
  by_cases narrow : ∀ factors ∈ headMask, type.join factors.elementType = type
  · rcases fullRun.answers regular narrow with ⟨full, fullRan, fullAnswer⟩
    rcases stepRun.answers regular narrow with ⟨step, stepRan, stepAnswer⟩
    refine ⟨?_, fun _ => ⟨full, fullRan⟩⟩
    rw [fullRan, stepRan, fullAnswer.eq_lastQuery cut stepAnswer]
    rfl
  · refine ⟨?_, fun other => absurd other narrow⟩
    rcases exists_wider narrow with ⟨factors, given, wider⟩
    rw [fullRun.fails_of_wider regular given wider, stepRun.fails_of_wider regular given wider]
    rfl

theorem lastQueries_masks {mask : TypedTensor α} {count : Nat} (few : count ≤ sequence)
    (masks : mask.Masks batch sequence sequence) :
    (mask.lastQueries count).Masks batch count sequence := by
  rcases masks with padding | pairs
  · have rankEq : mask.rank = 2 := congrArg List.length padding
    unfold TypedTensor.lastQueries
    rw [if_neg (by omega)]
    exact Or.inl padding
  · have rankEq : mask.rank = 4 := congrArg List.length pairs
    rcases Tensor.takeLast_reads 2 pairs few rfl with ⟨lastShape, _⟩
    unfold TypedTensor.lastQueries
    rw [if_pos rankEq]
    exact Or.inr lastShape

theorem termAt_lastQueries {mask : TypedTensor α} {count row query key : Nat}
    (few : count ≤ sequence) (masks : mask.Masks batch sequence sequence) (rowBelow : row < batch)
    (queryBelow : query < count) (keyBelow : key < sequence) :
    termAt (mask.lastQueries count) row query key =
      termAt mask row (sequence - count + query) key := by
  rcases masks with padding | pairs
  · have rankEq : mask.rank = 2 := congrArg List.length padding
    have flat : ¬mask.rank = 4 := by omega
    unfold TypedTensor.lastQueries termAt
    simp only [if_neg flat]
  · have rankEq : mask.rank = 4 := congrArg List.length pairs
    rcases Tensor.takeLast_reads 2 pairs few rfl with ⟨lastShape, lastGet⟩
    have lastRank : (mask.takeLast 2 count).rank = 4 := congrArg List.length lastShape
    have entry := lastGet [row, 0, query, key]
      ⟨rowBelow, Nat.one_pos, queryBelow, keyBelow, trivial⟩
    unfold TypedTensor.lastQueries termAt
    rw [if_pos rankEq, if_pos lastRank, if_pos rankEq]
    exact congrArg (Arithmetic.cast mask.elementType .float32) entry

theorem globalScore_last {mask : Option (TypedTensor α)} {count row query head key : Nat}
    (few : count ≤ sequence) (masks : ∀ given ∈ mask, given.Masks batch sequence sequence)
    (rowBelow : row < batch) (queryBelow : query < count) (keyBelow : key < sequence) :
    layer.globalScore type size states (mask.map (TypedTensor.lastQueries count))
        (sequence - count) row query head key =
      layer.globalScore type size states mask 0 row (sequence - count + query) head key := by
  unfold globalScore
  rw [Nat.zero_add]
  cases mask with
  | none => rfl
  | some given =>
      simp only [Option.map_some, plusTerm,
        termAt_lastQueries few (masks given rfl) rowBelow queryBelow keyBelow]

theorem GlobalAnswer.eq_lastQueries (regular : layer.Regular type heads size) {count : Nat}
    (few : count ≤ sequence) {mask headMask : Option (TypedTensor α)} {past : Option (Cache α)}
    {useCache : Bool} (masks : ∀ given ∈ mask, given.Masks batch sequence sequence)
    {full step : LayerOutput α}
    (fullAnswer : layer.GlobalAnswer type heads size states batch 0 sequence
      ⟨states, none, mask, headMask, useCache⟩ full)
    (stepAnswer : layer.GlobalAnswer type heads size states batch (sequence - count) count
      ⟨states.slice 1 (sequence - count) count, past,
        mask.map (TypedTensor.lastQueries count), headMask, useCache⟩ step) :
    step = full.lastQueries count := by
  have total : sequence - count + count = sequence := Nat.sub_add_cancel few
  have whole : 0 + sequence = sequence := Nat.zero_add sequence
  obtain ⟨fullWeightsSized, fullOutputSized, fullWeightsGet, fullOutputGet, fullRemembers,
    fullPresent⟩ := fullAnswer
  obtain ⟨stepWeightsSized, stepOutputSized, stepWeightsGet, stepOutputGet, stepRemembers,
    stepPresent⟩ := stepAnswer
  rw [whole] at fullWeightsSized fullWeightsGet fullOutputGet fullRemembers
  rw [total] at stepWeightsSized stepWeightsGet stepOutputGet stepRemembers
  have outputEq : step.output = full.output.takeLast 1 count := by
    rcases fullOutputSized.takeLast_reads 1 few rfl with ⟨lastSized, lastGet⟩
    apply stepOutputSized.ext lastSized
    intro row rowBelow query queryBelow entry entryBelow
    have lastBelow : sequence - count + query < sequence := by omega
    calc step.output.tensor.get [row, query, entry]
      _ = _ := stepOutputGet row query entry rowBelow queryBelow entryBelow
      _ = _ := regular.rowOutput_congr (fun head _ key keyBelow =>
          globalScore_last few masks rowBelow queryBelow keyBelow) entry
      _ = full.output.tensor.get [row, sequence - count + query, entry] :=
          (fullOutputGet row _ entry rowBelow lastBelow entryBelow).symm
      _ = (full.output.takeLast 1 count).tensor.get [row, query, entry] :=
          (lastGet [row, query, entry] ⟨rowBelow, queryBelow, entryBelow, trivial⟩).symm
  have weightsEq : step.weights = full.weights.takeLast 2 count := by
    rcases fullWeightsSized.takeLast_reads 2 few rfl with ⟨lastSized, lastGet⟩
    apply stepWeightsSized.ext lastSized
    intro row rowBelow head headBelow query queryBelow key keyBelow
    have lastBelow : sequence - count + query < sequence := by omega
    calc step.weights.tensor.get [row, head, query, key]
      _ = _ := stepWeightsGet row head query key rowBelow headBelow queryBelow keyBelow
      _ = _ := rowWeight_congr (fun other otherBelow =>
          globalScore_last few masks rowBelow queryBelow otherBelow) key
      _ = full.weights.tensor.get [row, head, sequence - count + query, key] :=
          (fullWeightsGet row head _ key rowBelow headBelow lastBelow keyBelow).symm
      _ = (full.weights.takeLast 2 count).tensor.get [row, head, query, key] :=
          (lastGet [row, head, query, key]
            ⟨rowBelow, headBelow, queryBelow, keyBelow, trivial⟩).symm
  have presentEq : step.present = full.present := by
    cases useCache with
    | false =>
        have fullNone : full.present = none := by simpa using fullPresent
        have stepNone : step.present = none := by simpa using stepPresent
        rw [fullNone, stepNone]
    | true =>
        exact (stepRemembers rfl).unique (fullRemembers rfl) (stepPresent.trans fullPresent.symm)
  unfold LayerOutput.lastQueries
  rw [← outputEq, ← weightsEq, ← presentEq]

/-- With the keys and values before them in the cache, the last positions are answered as by a run
on all of them, and both runs fail when the head mask widens the type of the values. -/
theorem runGlobal_last (regular : layer.Regular type heads size)
    (sized : states.Sized type [batch, sequence, heads * size]) {limit : Nat}
    (fits : sequence ≤ limit) {mask headMask : Option (TypedTensor α)}
    (masks : ∀ given ∈ mask, given.Masks batch sequence sequence)
    (headMasks : ∀ factors ∈ headMask, PerHead factors heads) (useCache : Bool)
    {count : Nat} (few : count ≤ sequence) {past : Option (Cache α)}
    (remembers : layer.Remembers type heads size states batch (sequence - count) past) :
    layer.runGlobal limit ⟨states.slice 1 (sequence - count) count, past,
        mask.map (TypedTensor.lastQueries count), headMask, useCache⟩ =
      (layer.runGlobal limit ⟨states, none, mask, headMask, useCache⟩).map
        (LayerOutput.lastQueries count) ∧
    ((∀ factors ∈ headMask, type.join factors.elementType = type) →
      ∃ full, layer.runGlobal limit ⟨states, none, mask, headMask, useCache⟩ = .ok full) := by
  have total : sequence - count + count = sequence := Nat.sub_add_cancel few
  have whole : 0 + sequence = sequence := Nat.zero_add sequence
  have fullRun : layer.GlobalRun type heads size states batch sequence 0 sequence
      ⟨states, none, mask, headMask, useCache⟩ := GlobalRun.whole sized masks headMasks useCache
  have stepRun : layer.GlobalRun type heads size states batch sequence (sequence - count) count
      ⟨states.slice 1 (sequence - count) count, past, mask.map (TypedTensor.lastQueries count),
        headMask, useCache⟩ := by
    refine ⟨sized, Nat.le_of_eq total, rfl, remembers, ?_, headMasks⟩
    intro given member
    rcases Option.map_eq_some_iff.mp member with ⟨source, sourceMember, rfl⟩
    rw [total]
    exact lastQueries_masks few (masks source sourceMember)
  have fullFits : 0 + sequence ≤ limit := by rw [whole]; exact fits
  have stepFits : sequence - count + count ≤ limit := by rw [total]; exact fits
  by_cases narrow : ∀ factors ∈ headMask, type.join factors.elementType = type
  · rcases fullRun.answers regular fullFits narrow with ⟨full, fullRan, fullAnswer⟩
    rcases stepRun.answers regular stepFits narrow with ⟨step, stepRan, stepAnswer⟩
    refine ⟨?_, fun _ => ⟨full, fullRan⟩⟩
    rw [fullRan, stepRan, fullAnswer.eq_lastQueries regular few masks stepAnswer]
    rfl
  · refine ⟨?_, fun other => absurd other narrow⟩
    rcases exists_wider narrow with ⟨factors, given, wider⟩
    rw [fullRun.fails_of_wider regular fullFits given wider,
      stepRun.fails_of_wider regular stepFits given wider]
    rfl

theorem runGlobal_prefix (regular : layer.Regular type heads size)
    (sized : states.Sized type [batch, sequence, heads * size]) {limit first : Nat}
    (fits : first ≤ limit) (within : first ≤ sequence) :
    ∃ answer cache, layer.runGlobal limit ⟨states.slice 1 0 first, none, none, none, true⟩ =
        .ok answer ∧ answer.present = some cache ∧
      layer.Remembers type heads size states batch first (some cache) := by
  have start : 0 + first = first := Nat.zero_add first
  have run : layer.GlobalRun type heads size states batch sequence 0 first
      ⟨states.slice 1 0 first, none, none, none, true⟩ :=
    ⟨sized, by omega, rfl, rfl, forall_mem_none, forall_mem_none⟩
  have reached : 0 + first ≤ limit := by omega
  obtain ⟨answer, ran, answered⟩ :=
    run.answers regular reached forall_mem_none
  rcases Option.isSome_iff_exists.mp answered.presentSome with ⟨cache, given⟩
  have remembers := answered.remembers rfl
  rw [start, given] at remembers
  exact ⟨answer, cache, ran, given, remembers⟩

/-- One step with a cache answers with the last rows of the run without a cache: for a local layer
with the hidden states before the last position, for a global one with the keys and values before
as many positions as asked for. Only a head mask that widens the type of the values makes a run
fail, and then it makes both of them fail. -/
theorem cached_step_eq_tail (regular : layer.Regular type heads size)
    (sized : states.Sized type [batch, sequence, heads * size])
    {headMask : Option (TypedTensor α)}
    (headMasks : ∀ factors ∈ headMask, factors.shape = [heads, 1, 1]) (useCache : Bool) :
    (∀ window : Nat, 1 ≤ sequence → 1 ≤ window →
      ∃ blocks, Blocks.ofSequence sequence window = .ok blocks ∧
      ∀ mask : Option (TypedTensor α),
      (∀ given ∈ mask, given.shape = [batch, sequence] ∨
        given.shape = [batch, blocks.count, 1, blocks.length, window + blocks.length]) →
      layer.runLocal (.int window) ⟨states.slice 1 (sequence - 1) 1,
          some [states.slice 1 0 (sequence - 1)], mask, headMask, useCache⟩ =
        (layer.runLocal (.int window) ⟨states, none, mask, headMask, useCache⟩).map
          Attended.lastQuery ∧
      ((∀ factors ∈ headMask, type.join factors.elementType = type) →
        ∃ full, layer.runLocal (.int window) ⟨states, none, mask, headMask, useCache⟩ =
          .ok full)) ∧
    (∀ limit count : Nat, sequence ≤ limit → 1 ≤ count → count ≤ sequence →
      ∃ before cache, layer.runGlobal limit
          ⟨states.slice 1 0 (sequence - count), none, none, none, true⟩ = .ok before ∧
        before.present = some cache ∧
      ∀ mask : Option (TypedTensor α),
      (∀ given ∈ mask, given.shape = [batch, sequence] ∨
        given.shape = [batch, 1, sequence, sequence]) →
      layer.runGlobal limit ⟨states.slice 1 (sequence - count) count, some cache,
          mask.map (TypedTensor.lastQueries count), headMask, useCache⟩ =
        (layer.runGlobal limit ⟨states, none, mask, headMask, useCache⟩).map
          (LayerOutput.lastQueries count) ∧
      ((∀ factors ∈ headMask, type.join factors.elementType = type) →
        ∃ full, layer.runGlobal limit ⟨states, none, mask, headMask, useCache⟩ = .ok full)) := by
  have perHead : ∀ factors ∈ headMask, PerHead factors heads :=
    fun factors given => Or.inl (headMasks factors given)
  constructor
  · intro window nonempty wide
    rcases Blocks.exists_cut nonempty wide with ⟨blocks, cut⟩
    refine ⟨blocks, cut.found, ?_⟩
    intro mask masks
    exact runLocal_last regular sized cut masks perHead useCache
  · intro limit count fits _ few
    have reached : sequence - count ≤ limit := by omega
    obtain ⟨before, cache, ran, given, remembers⟩ :=
      runGlobal_prefix regular sized reached (Nat.sub_le sequence count)
    refine ⟨before, cache, ran, given, ?_⟩
    intro mask masks
    exact runGlobal_last regular sized fits masks perHead useCache few remembers

/-- The last of three positions, in machine arithmetic, with a window of two positions and with a
cache of one. -/
theorem cached_step_eq_tail_three_positions :
    let layer : Layer MachineNumber := constant .float32 1 2 (.everything 4) default
    let states : TypedTensor MachineNumber := ⟨.float32, Tensor.replicate [1, 3, 2] default⟩
    let headMask : TypedTensor MachineNumber := ⟨.float32, Tensor.replicate [1, 1, 1] default⟩
    (∃ full, layer.runLocal (.int 2) ⟨states, none, none, some headMask, false⟩ = .ok full ∧
      layer.runLocal (.int 2) ⟨states.slice 1 2 1, some [states.slice 1 0 2], none, some headMask,
        false⟩ = .ok full.lastQuery) ∧
    ∃ full before cache, layer.runGlobal 4 ⟨states, none, none, some headMask, false⟩ = .ok full ∧
      layer.runGlobal 4 ⟨states.slice 1 0 1, none, none, none, true⟩ = .ok before ∧
      before.present = some cache ∧
      layer.runGlobal 4 ⟨states.slice 1 1 2, some cache, none, some headMask, false⟩ =
        .ok (full.lastQueries 2) := by
  intro layer states headMask
  have regular : layer.Regular .float32 1 2 := regular_constant rfl (.everything 4) default
  have sized : states.Sized .float32 [1, 3, 1 * 2] := ⟨rfl, rfl⟩
  have headMasks : ∀ factors ∈ some headMask, factors.shape = [1, 1, 1] := by
    intro factors given
    cases given
    rfl
  have narrow : ∀ factors ∈ some headMask,
      ElementType.float32.join factors.elementType = .float32 := by
    intro factors given
    cases given
    rfl
  rcases cached_step_eq_tail regular sized headMasks false with ⟨windowed, everything⟩
  constructor
  · rcases windowed 2 (by decide) (by decide) with ⟨blocks, _, steps⟩
    rcases steps none forall_mem_none with ⟨same, answered⟩
    rcases answered narrow with ⟨full, ran⟩
    refine ⟨full, ran, ?_⟩
    rw [ran] at same
    exact same
  · obtain ⟨before, cache, prefixed, given, steps⟩ :=
      everything 4 2 (by decide) (by decide) (by decide)
    rcases steps none forall_mem_none with ⟨same, answered⟩
    rcases answered narrow with ⟨full, ran⟩
    refine ⟨full, before, cache, ran, prefixed, given, ?_⟩
    rw [ran] at same
    exact same

end Layer

end CausalAttention
