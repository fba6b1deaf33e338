import CausalAttention.Proofs.Exact.Rows

/-!
Local attention as dense attention with a mask. A global layer that adds a large negative term to
the scores of all keys outside of the window answers as a local layer of the same parameters,
which never scores them.
-/

set_option autoImplicit false

namespace CausalAttention

open Exact

def isDropped (padding : Option (TypedTensor ℚ)) (row position : Nat) : Bool :=
  match padding with
  | none => false
  | some mask => decide (mask.tensor.get [row, position] = 0)

def windowTerm (window : Nat) (padding : Option (TypedTensor ℚ)) (row query key : Nat) : ℚ :=
  (if key + window ≤ query then -1000000000 else 0) +
    if isDropped padding row key then -10000 else 0

def windowTerms (batch sequence window : Nat) (padding : Option (TypedTensor ℚ)) : TypedTensor ℚ :=
  ⟨.float32, Tensor.ofFn [batch, 1, sequence, sequence] fun index =>
    windowTerm window padding (index.getD 0 0) (index.getD 2 0) (index.getD 3 0)⟩

/-- A padding mask whose entries count something. -/
structure TypedTensor.Counts (mask : TypedTensor ℚ) (batch sequence : Nat) : Prop where
  shape_eq : mask.shape = [batch, sequence]
  whole : ∀ row position, row < batch → position < sequence →
    ∃ count : Nat, mask.tensor.get [row, position] = count

variable {batch sequence window : Nat} {padding : Option (TypedTensor ℚ)} {row query key : Nat}

theorem windowTerm_nonpositive : windowTerm window padding row query key ≤ 0 := by
  unfold windowTerm
  split <;> split <;> norm_num

theorem windowTerm_of_far (far : key + window ≤ query) :
    windowTerm window padding row query key ≤ -1000000000 := by
  unfold windowTerm
  rw [if_pos far]
  split <;> norm_num

theorem windowTerm_of_dropped (dropped : isDropped padding row key = true) :
    windowTerm window padding row query key ≤ -10000 := by
  unfold windowTerm
  rw [if_pos dropped]
  split <;> norm_num

theorem windowTerm_of_kept (near : query < key + window)
    (kept : isDropped padding row key = false) :
    windowTerm window padding row query key = 0 := by
  unfold windowTerm
  rw [if_neg (Nat.not_le.mpr near), kept]
  norm_num

variable [Falloff]

theorem keptAt_of_counts (counts : ∀ given ∈ padding, given.Counts batch sequence)
    (rowBelow : row < batch) (keyBelow : key < sequence) :
    keptAt padding row key = !isDropped padding row key := by
  cases padding with
  | none => rfl
  | some mask =>
      rcases (counts mask rfl).whole row key rowBelow keyBelow with ⟨count, entry⟩
      have unchanged : (Arithmetic.cast mask.elementType .int64 (count : ℚ) : ℚ) = count := by
        unfold Arithmetic.cast
        split
        · rfl
        · change (((count : ℚ).num.tdiv (count : ℚ).den : Int) : ℚ) = count
          rw [Rat.num_natCast, Rat.den_natCast, Nat.cast_one, Int.tdiv_one, Int.cast_natCast]
      simp only [keptAt, isDropped]
      rw [entry, unchanged]
      exact decide_not

theorem termAt_windowTerms (rowBelow : row < batch) (queryBelow : query < sequence)
    (keyBelow : key < sequence) :
    termAt (windowTerms batch sequence window padding) row query key =
      windowTerm window padding row query key := by
  have inside : Shape.Contains [batch, 1, sequence, sequence] [row, 0, query, key] :=
    ⟨rowBelow, Nat.one_pos, queryBelow, keyBelow, trivial⟩
  have entry : (windowTerms batch sequence window padding).tensor.get [row, 0, query, key] =
      windowTerm window padding row query key := Tensor.get_ofFn inside _
  have rankEq : (windowTerms batch sequence window padding).rank = 4 := rfl
  unfold termAt
  rw [if_pos rankEq, entry]
  exact cast_floating _ rfl _

namespace Layer

variable {layer : Layer ℚ} {type : ElementType} {heads size head : Nat} {hidden : TypedTensor ℚ}

/-! ### Dense rows -/

theorem Regular.denseScore_eq (regular : layer.Regular type heads size) (rowBelow : row < batch)
    (queryBelow : query < sequence) (keyBelow : key < sequence) :
    layer.globalScore type size hidden (some (windowTerms batch sequence window padding)) 0 row
        query head key =
      (if key ≤ query then layer.pairScore type size hidden row query head key
        else -1000000000) + windowTerm window padding row query key := by
  rw [regular.globalScore_eq, Nat.zero_add]
  unfold addedTerm
  simp only
  rw [termAt_windowTerms rowBelow queryBelow keyBelow]

section Rows

variable (regular : layer.Regular type heads size)
  (counts : ∀ given ∈ padding, given.Counts batch sequence) (rowBelow : row < batch)
  (queryBelow : query < sequence)

include regular counts rowBelow queryBelow

theorem denseScore_of_mem (member : key ∈ windowKeys window (keptAt padding row) query) :
    layer.globalScore type size hidden (some (windowTerms batch sequence window padding)) 0 row
        query head key =
      layer.pairScore type size hidden row query head key := by
  rcases mem_windowKeys.mp member with ⟨past, near, kept⟩
  have keyBelow : key < sequence := by omega
  rw [keptAt_of_counts counts rowBelow keyBelow, Bool.not_eq_true'] at kept
  rw [regular.denseScore_eq rowBelow queryBelow keyBelow, if_pos past,
    windowTerm_of_kept near kept, add_zero]

variable (modest : layer.ModestAt type heads size hidden batch sequence query)
  (headBelow : head < heads)

include modest headBelow

/-- All other keys lie far below: later ones by the causal mask, the others by the terms. -/
theorem denseScore_of_not_mem (keyBelow : key < sequence)
    (outside : key ∉ windowKeys window (keptAt padding row) query) :
    layer.globalScore type size hidden (some (windowTerms batch sequence window padding)) 0 row
        query head key ≤ -6000 := by
  have term : windowTerm window padding row query key ≤ 0 := windowTerm_nonpositive
  rw [regular.denseScore_eq rowBelow queryBelow keyBelow]
  by_cases past : key ≤ query
  · have small := abs_le.mp (modest row head key rowBelow headBelow past (by omega))
    rw [if_pos past]
    by_cases far : key + window ≤ query
    · have deep : windowTerm window padding row query key ≤ -1000000000 := windowTerm_of_far far
      linarith [small.2]
    · have dropped : isDropped padding row key = true := by
        by_contra kept
        apply outside
        rw [mem_windowKeys, keptAt_of_counts counts rowBelow keyBelow]
        exact ⟨past, Nat.lt_of_not_le far, by simp [kept]⟩
      have deep : windowTerm window padding row query key ≤ -10000 :=
        windowTerm_of_dropped dropped
      linarith [small.2]
  · rw [if_neg past]
    linarith

theorem denseScore_stands (seen : (windowKeys window (keptAt padding row) query).Nonempty) :
    Stands (0 + sequence)
      (layer.globalScore type size hidden (some (windowTerms batch sequence window padding)) 0 row
        query head)
      (windowKeys window (keptAt padding row) query) := by
  refine ⟨?_, seen, ?_⟩
  · intro key member
    have past := (mem_windowKeys.mp member).1
    omega
  · intro key below outside high member
    have past := (mem_windowKeys.mp member).1
    have keyBelow : key < sequence := by omega
    have small := abs_le.mp (modest row head high rowBelow headBelow past (by omega))
    have deep := denseScore_of_not_mem regular counts rowBelow queryBelow modest headBelow keyBelow
      outside
    rw [denseScore_of_mem regular counts rowBelow queryBelow member]
    linarith [small.1]

end Rows

section Answers

variable (regular : layer.Regular type heads size)
  (counts : ∀ given ∈ padding, given.Counts batch sequence)
  (modest : layer.ModestAt type heads size hidden batch sequence query)

include regular counts modest

/-- A row takes the mean over the window, as a layer does that reaches nothing else. -/
theorem dense_row (rowBelow : row < batch) (queryBelow : query < sequence)
    (seen : (windowKeys window (keptAt padding row) query).Nonempty) (entry : Nat) :
    layer.rowOutput type size none (0 + sequence)
        (layer.globalScore type size hidden (some (windowTerms batch sequence window padding)) 0 row
          query) (layer.globalValue hidden row) entry =
      layer.windowMean type size hidden window padding row query entry := by
  have stands (head : Nat) (headBelow : head < heads) :=
    denseScore_stands regular counts rowBelow queryBelow modest headBelow seen
  refine (regular.rowOutput_of_stands stands entry).trans ?_
  apply regular.meanOutput_congr
  intro head _ key member
  exact denseScore_of_mem regular counts rowBelow queryBelow member

theorem dense_output {answer : LayerOutput ℚ}
    (answered : layer.GlobalAnswer type heads size hidden batch 0 sequence
      { hidden, attentionMask := some (windowTerms batch sequence window padding) } answer)
    {entry : Nat} (rowBelow : row < batch) (queryBelow : query < sequence)
    (entryBelow : entry < heads * size)
    (seen : (windowKeys window (keptAt padding row) query).Nonempty) :
    answer.output.tensor.get [row, query, entry] =
      layer.windowMean type size hidden window padding row query entry :=
  (answered.outputGet row query entry rowBelow queryBelow entryBelow).trans
    (dense_row regular counts modest rowBelow queryBelow seen entry)

theorem dense_weight {answer : LayerOutput ℚ}
    (answered : layer.GlobalAnswer type heads size hidden batch 0 sequence
      { hidden, attentionMask := some (windowTerms batch sequence window padding) } answer)
    (rowBelow : row < batch) (headBelow : head < heads) (queryBelow : query < sequence)
    (keyBelow : key < sequence) (seen : (windowKeys window (keptAt padding row) query).Nonempty) :
    answer.weights.tensor.get [row, head, query, key] =
      if key ∈ windowKeys window (keptAt padding row) query then
        liveShare (windowKeys window (keptAt padding row) query)
          (layer.pairScore type size hidden row query head) key
      else 0 := by
  have stands := denseScore_stands regular counts rowBelow queryBelow modest headBelow seen
  have within : key < 0 + sequence := by omega
  rw [regular.globalAnswer_weight answered rowBelow headBelow queryBelow within stands]
  by_cases member : key ∈ windowKeys window (keptAt padding row) query
  · rw [if_pos member, if_pos member]
    refine liveShare_congr ?_ member
    intro other otherMember
    exact denseScore_of_mem regular counts rowBelow queryBelow otherMember
  · rw [if_neg member, if_neg member]

end Answers

/-- A dense answer and one by blocks that agree for every query whose window holds a position that
is not dropped. -/
structure WindowsAgree (type : ElementType) (batch sequence heads size window : Nat)
    (blocks : Blocks) (padding : Option (TypedTensor ℚ)) (dense windowed : LayerOutput ℚ) :
    Prop where
  denseOutput : dense.output.Sized type [batch, sequence, heads * size]
  windowedOutput : windowed.output.Sized type [batch, sequence, heads * size]
  denseWeights : dense.weights.Sized type [batch, heads, sequence, sequence]
  windowedWeights : windowed.weights.Sized type
    [batch, blocks.count, heads, blocks.length, window + blocks.length]
  output : ∀ row query entry, row < batch → query < sequence → entry < heads * size →
    (∃ key, key ≤ query ∧ query < key + window ∧ isDropped padding row key = false) →
    windowed.output.tensor.get [row, query, entry] = dense.output.tensor.get [row, query, entry]
  weights : ∀ row block head inner slot, row < batch → block < blocks.count → head < heads →
    inner < blocks.length → slot < window + blocks.length →
    (∃ key, key ≤ block * blocks.length + inner ∧ block * blocks.length + inner < key + window ∧
      isDropped padding row key = false) →
    windowed.weights.tensor.get [row, block, head, inner, slot] =
      if window ≤ block * blocks.length + slot then
        dense.weights.tensor.get [row, head, block * blocks.length + inner,
          block * blocks.length + slot - window]
      else 0
  outside : ∀ row head query key, row < batch → head < heads → query < sequence →
    key < sequence →
    (∃ kept, kept ≤ query ∧ query < kept + window ∧ isDropped padding row kept = false) →
    ¬(key ≤ query ∧ query < key + window ∧ isDropped padding row key = false) →
    dense.weights.tensor.get [row, head, query, key] = 0

theorem mem_windowKeys_of_counts (counts : ∀ given ∈ padding, given.Counts batch sequence)
    (rowBelow : row < batch) (queryBelow : query < sequence) :
    key ∈ windowKeys window (keptAt padding row) query ↔
      key ≤ query ∧ query < key + window ∧ isDropped padding row key = false := by
  rw [mem_windowKeys]
  constructor
  · rintro ⟨past, near, kept⟩
    rw [keptAt_of_counts counts rowBelow (by omega), Bool.not_eq_true'] at kept
    exact ⟨past, near, kept⟩
  · rintro ⟨past, near, kept⟩
    refine ⟨past, near, ?_⟩
    rw [keptAt_of_counts counts rowBelow (by omega), kept]
    rfl

theorem WindowsAgree.of_answers (regular : layer.Regular type heads size) (reach : Reach)
    (counts : ∀ given ∈ padding, given.Counts batch sequence)
    (modest : layer.Modest type heads size hidden batch sequence) {blocks : Blocks}
    (cut : blocks.Cut sequence window) {dense windowed : LayerOutput ℚ}
    (denseAnswer : layer.GlobalAnswer type heads size hidden batch 0 sequence
      { hidden, attentionMask := some (windowTerms batch sequence window padding) } dense)
    (windowedAnswer : ({ layer with reach } : Layer ℚ).LocalAnswer type heads size hidden batch
      blocks window padding none blocks.allQueries ⟨windowed.output, windowed.weights⟩) :
    WindowsAgree type batch sequence heads size window blocks padding dense windowed := by
  have paddingShape : ∀ given ∈ padding, given.shape = [batch, sequence] := by
    intro given member
    exact (counts given member).shape_eq
  have windowedOutput := windowedAnswer.outputSized
  change windowed.output.Sized type [batch, blocks.count * blocks.length, heads * size]
    at windowedOutput
  rw [cut.whole] at windowedOutput
  have denseWeights := denseAnswer.weightsSized
  rw [Nat.zero_add] at denseWeights
  refine ⟨denseAnswer.outputSized, windowedOutput, denseWeights, windowedAnswer.weightsSized, ?_,
    ?_, ?_⟩
  · rintro row query entry rowBelow queryBelow entryBelow ⟨key, kept⟩
    have seen : (windowKeys window (keptAt padding row) query).Nonempty :=
      ⟨key, (mem_windowKeys_of_counts counts rowBelow queryBelow).mpr kept⟩
    have denseMean := dense_output regular counts (modest.modestAt queryBelow sequence) denseAnswer
      rowBelow queryBelow entryBelow seen
    have windowedMean := (regular.withReach reach).allQueries_output cut paddingShape
      (modest.modestAt queryBelow window) windowedAnswer rowBelow queryBelow entryBelow seen
    exact windowedMean.trans denseMean.symm
  · rintro row block head inner slot rowBelow blockBelow headBelow innerBelow slotBelow ⟨key, kept⟩
    have blockEnd := cut.blockEnd blockBelow
    have queryBelow : block * blocks.length + inner < sequence := by omega
    have seen : (windowKeys window (keptAt padding row)
        (block * blocks.length + inner)).Nonempty :=
      ⟨key, (mem_windowKeys_of_counts counts rowBelow queryBelow).mpr kept⟩
    have modestHere := modest.modestAt queryBelow
    refine ((regular.withReach reach).allQueries_weight cut paddingShape (modestHere window)
      windowedAnswer rowBelow headBelow blockBelow innerBelow slotBelow seen).trans ?_
    -- A slot in front of the sequence shows no key; any other is seen exactly when its key is.
    by_cases behind : window ≤ block * blocks.length + slot
    · have keyBelow : block * blocks.length + slot - window < sequence := by omega
      rw [if_pos behind, dense_weight regular counts (modestHere sequence) denseAnswer rowBelow
        headBelow queryBelow keyBelow seen]
      by_cases member : block * blocks.length + slot - window ∈
          windowKeys window (keptAt padding row) (block * blocks.length + inner)
      · rw [if_pos ((mem_seenSlots cut).mpr ⟨slotBelow, behind, member⟩), if_pos member]
        rfl
      · rw [if_neg (fun shown => member ((mem_seenSlots cut).mp shown).2.2), if_neg member]
    · rw [if_neg behind, if_neg (fun shown => behind ((mem_seenSlots cut).mp shown).2.1)]
  · rintro row head query key rowBelow headBelow queryBelow keyBelow ⟨other, kept⟩ outside
    have seen : (windowKeys window (keptAt padding row) query).Nonempty :=
      ⟨other, (mem_windowKeys_of_counts counts rowBelow queryBelow).mpr kept⟩
    have hidden : key ∉ windowKeys window (keptAt padding row) query := by
      rw [mem_windowKeys_of_counts counts rowBelow queryBelow]
      exact outside
    rw [dense_weight regular counts (modest.modestAt queryBelow sequence) denseAnswer rowBelow
      headBelow queryBelow keyBelow seen, if_neg hidden]

/-- Two layers with the same parameters agree, one that reaches everything and adds the terms and
one that reaches a window. -/
theorem Regular.windowsAgree (regular : layer.Regular type heads size) {limit : Nat}
    (reach : layer.reach = .everything limit) (fits : sequence ≤ limit) (nonempty : 1 ≤ sequence)
    (wide : 1 ≤ window) (sized : hidden.Sized type [batch, sequence, heads * size])
    (counts : ∀ given ∈ padding, given.Counts batch sequence)
    (modest : layer.Modest type heads size hidden batch sequence) :
    ∃ dense windowed blocks,
      layer.run { hidden, attentionMask := some (windowTerms batch sequence window padding) } =
        .ok dense ∧
      ({ layer with reach := .window (.int window) } : Layer ℚ).run
        { hidden, attentionMask := padding } = .ok windowed ∧
      Blocks.ofSequence sequence window = .ok blocks ∧
      WindowsAgree type batch sequence heads size window blocks padding dense windowed := by
  rcases Blocks.exists_cut nonempty wide with ⟨blocks, cut⟩
  have terms : ∀ given ∈ some (windowTerms batch sequence window padding),
      given.Masks batch sequence sequence := by
    intro given member
    cases member
    exact Or.inr rfl
  have denseRun : layer.GlobalRun type heads size hidden batch sequence 0 sequence
      { hidden, attentionMask := some (windowTerms batch sequence window padding) } :=
    GlobalRun.whole sized terms forall_mem_none false
  have reached : 0 + sequence ≤ limit := by omega
  obtain ⟨dense, denseRan, denseAnswer⟩ :=
    denseRun.answers regular reached forall_mem_none
  have windowedRun : LocalRun type heads size hidden batch sequence blocks window
      { hidden, attentionMask := padding } :=
    ⟨sized, cut, Or.inl ⟨rfl, rfl⟩, (fun given member => Or.inl (counts given member).shape_eq),
      forall_mem_none⟩
  obtain ⟨windowed, windowedRan, windowedAnswer, _⟩ :=
    windowedRun.run_answers (regular.withReach (.window (.int window))) rfl
      forall_mem_none
  refine ⟨dense, windowed, blocks, ?_, windowedRan, cut.found,
    WindowsAgree.of_answers regular _ counts modest cut denseAnswer windowedAnswer⟩
  simp only [Layer.run, reach]
  exact denseRan

/-- Layers of both kinds that are made of one accepted configuration and take over the same
parameters agree on every sequence within the limit. -/
theorem local_eq_windowed_dense {arguments : ConfigArguments} {config : Config}
    {width heads window limit : Int} (whole : arguments.Whole width heads window limit)
    (positive : 1 ≤ width) (accepted : Config.ofArguments arguments = .ok config)
    (floating : type.isFloating = true) {parameters : Parameters ℚ}
    (shaped : parameters.Shaped width.toNat) :
    ∃ (count size : Nat) (everything windowed : Layer ℚ), heads = count ∧
      width = (count * size : Nat) ∧
      evaluating .everything config type parameters = .ok everything ∧
      evaluating .window config type parameters = .ok windowed ∧
      everything.parameters = parameters.convert type ∧
      windowed.parameters = parameters.convert type ∧
      ∀ (batch sequence : Nat) (hidden : TypedTensor ℚ) (padding : Option (TypedTensor ℚ)),
        1 ≤ sequence → sequence ≤ limit → hidden.Sized type [batch, sequence, width.toNat] →
        (∀ given ∈ padding, given.Counts batch sequence) →
        everything.Modest type count size hidden batch sequence →
        ∃ denseAnswer windowedAnswer blocks,
          everything.run
              { hidden, attentionMask := some (windowTerms batch sequence window.toNat padding) } =
            .ok denseAnswer ∧
          windowed.run { hidden, attentionMask := padding } = .ok windowedAnswer ∧
          Blocks.ofSequence sequence window = .ok blocks ∧
          WindowsAgree type batch sequence count size window.toNat blocks padding denseAnswer
            windowedAnswer := by
  obtain ⟨count, size, counted, product, settled⟩ :=
    Config.settled_of_accepted accepted whole (by omega)
  have widthEq : width.toNat = count * size := by omega
  have windowPositive := settled.windowPositive
  have windowEq : (window.toNat : Int) = window := by omega
  rw [widthEq] at shaped ⊢
  obtain ⟨layer, regular, converted, everythingMade, windowedMade⟩ :=
    evaluating_of_settled settled floating shaped
  refine ⟨count, size, _, _, counted, product, everythingMade, windowedMade, converted, converted,
    ?_⟩
  intro batch sequence hidden padding nonempty fits sized counts modest
  have reached : sequence ≤ limit.toNat := by omega
  have wide : 1 ≤ window.toNat := by omega
  have agreed := (regular.withReach (.everything limit.toNat)).windowsAgree rfl reached nonempty
    wide sized counts modest
  rw [windowEq] at agreed
  exact agreed

omit [Falloff] in
/-- Three positions, of which the second is dropped, with a window of two: the last query sees the
last key alone. -/
theorem local_eq_windowed_dense_three_positions :
    let _ : Falloff := Falloff.linear
    let arguments : ConfigArguments :=
      { hiddenSize := .int 2, heads := .int 1, layerCount := .int 2, windowSize := .int 2,
        maxPositions := .int 3, attentionDropout := .int 0, outputDropout := .int 0 }
    let parameters : Parameters ℚ := Parameters.constant .float32 2 1
    let hidden : TypedTensor ℚ := ⟨.float32, Tensor.replicate [1, 3, 2] 1⟩
    let padding : TypedTensor ℚ :=
      ⟨.int64, Tensor.ofFn [1, 3] fun index => if index.getD 1 0 = 1 then 0 else 1⟩
    ∃ config everything windowed denseAnswer windowedAnswer,
      Config.ofArguments arguments = .ok config ∧
      evaluating .everything config .float32 parameters = .ok everything ∧
      evaluating .window config .float32 parameters = .ok windowed ∧
      everything.run { hidden, attentionMask := some (windowTerms 1 3 2 (some padding)) } =
        .ok denseAnswer ∧
      windowed.run { hidden, attentionMask := some padding } = .ok windowedAnswer ∧
      windowedAnswer.output.tensor.get [0, 2, 0] = denseAnswer.output.tensor.get [0, 2, 0] ∧
      denseAnswer.weights.tensor.get [0, 0, 2, 1] = 0 := by
  intro falloff arguments parameters hidden padding
  obtain ⟨config, accepted⟩ : ∃ config, Config.ofArguments arguments = .ok config := ⟨_, rfl⟩
  have whole : arguments.Whole 2 1 2 3 := ⟨rfl, rfl, rfl, rfl, rfl⟩
  have floating : ElementType.float32.isFloating = true := rfl
  have shaped : parameters.Shaped (2 : Int).toNat := Parameters.constant_shaped .float32 2 1
  obtain ⟨count, size, everything, windowed, counted, product, everythingMade, windowedMade,
    converted, _, agree⟩ := local_eq_windowed_dense whole (by decide) accepted floating shaped
  obtain rfl : count = 1 := by omega
  obtain rfl : size = 2 := by omega
  have sized : hidden.Sized .float32 [1, 3, (2 : Int).toNat] := ⟨rfl, rfl⟩
  have counts : ∀ given ∈ some padding, given.Counts 1 3 := by
    intro given member
    cases member
    refine ⟨rfl, ?_⟩
    intro row position rowBelow positionBelow
    refine ⟨if position = 1 then 0 else 1, ?_⟩
    interval_cases row
    interval_cases position <;> decide +kernel
  obtain ⟨denseAnswer, windowedAnswer, blocks, denseRan, windowedRan, _, agreed⟩ :=
    agree 1 3 hidden (some padding) (by decide) (by decide) sized counts
      (modest_of_ones everything converted)
  have dropped : isDropped (some padding) 0 1 = true := by decide +kernel
  have seen : ∃ key, key ≤ 2 ∧ 2 < key + 2 ∧ isDropped (some padding) 0 key = false :=
    ⟨2, by decide, by decide, by decide +kernel⟩
  refine ⟨config, everything, windowed, denseAnswer, windowedAnswer, accepted, everythingMade,
    windowedMade, denseRan, windowedRan, ?_, ?_⟩
  · exact agreed.output 0 2 0 (by decide) (by decide) (by decide) seen
  · apply agreed.outside 0 0 2 1 (by decide) (by decide) (by decide) (by decide) seen
    rintro ⟨_, _, kept⟩
    rw [dropped] at kept
    contradiction

end Layer

end CausalAttention
