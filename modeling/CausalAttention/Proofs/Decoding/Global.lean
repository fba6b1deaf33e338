import CausalAttention.Proofs.Decoding.Run
import CausalAttention.Proofs.Exact.Rows

/-!
Decoding with a global layer. Over exact numbers every chunk answers with its rows of the run on
the whole sequence, whose later keys have no weight, and the limit is passed by the first chunk
that takes the total past it.
-/

set_option autoImplicit false

namespace CausalAttention

open Exact

section Columns

variable {α : Type} [Arithmetic α] {mask : TypedTensor α} {batch sequence : Nat}

theorem markedAt_columns (sizes : mask.shape = [batch, sequence]) {count row key : Nat}
    (rowBelow : row < batch) (keyBelow : key < count) :
    markedAt (mask.slice 1 0 count) row key = markedAt mask row key := by
  unfold markedAt
  rw [get_columns sizes 0 rowBelow keyBelow, Nat.zero_add]
  rfl

end Columns

namespace Layer

variable [Falloff] {layer : Layer ℚ} {type : ElementType} {heads size batch sequence : Nat}
  {hidden : TypedTensor ℚ} {mask : Option (TypedTensor ℚ)}

theorem addedTerm_columns (padding : ∀ given ∈ mask, given.shape = [batch, sequence])
    {count row query position key : Nat} (rowBelow : row < batch) (keyBelow : key < count) :
    addedTerm (mask.map fun given => given.slice 1 0 count) row query key =
      addedTerm mask row position key := by
  cases mask with
  | none => rfl
  | some given =>
      have sizes := padding given rfl
      simp only [Option.map_some, addedTerm]
      rw [termAt_padding (shape_columns sizes 0 count), termAt_padding sizes,
        markedAt_columns sizes rowBelow keyBelow]

theorem addedTerm_within (padding : ∀ given ∈ mask, given.shape = [batch, sequence])
    (row query key : Nat) :
    -10000 ≤ addedTerm mask row query key ∧ addedTerm mask row query key ≤ 0 := by
  cases mask with
  | none =>
      unfold addedTerm
      constructor <;> norm_num
  | some given =>
      unfold addedTerm
      simp only
      rw [termAt_padding (padding given rfl)]
      have float (number : Int) : (Arithmetic.ofInteger .float32 number : ℚ) = number := rfl
      rw [float]
      by_cases marked : markedAt given row key = true
      · rw [if_pos marked]
        norm_num
      · rw [if_neg marked]
        norm_num [droppedTerm]

/-- Later keys weigh nothing, and all keys up to the query are visible. -/
theorem Regular.globalScore_stands (regular : layer.Regular type heads size)
    (modest : layer.Modest type heads size hidden batch sequence)
    {first slots row query head : Nat}
    (mild : ∀ key, key < slots → -10000 ≤ addedTerm mask row query key ∧
      addedTerm mask row query key ≤ 0)
    (rowBelow : row < batch) (headBelow : head < heads) (queryBelow : first + query < slots)
    (within : slots ≤ sequence) :
    Stands slots (layer.globalScore type size hidden mask first row query head)
      (Finset.range (first + query + 1)) := by
  refine ⟨?_, ⟨0, Finset.mem_range.mpr (Nat.succ_pos _)⟩, ?_⟩
  · intro key member
    have past := Finset.mem_range.mp member
    omega
  · intro key keyBelow later high highMember
    have past := Finset.mem_range.mp highMember
    have after : ¬key ≤ first + query := by
      intro reached
      exact later (Finset.mem_range.mpr (Nat.lt_succ_iff.mpr reached))
    have small := abs_le.mp (modest row (first + query) head high rowBelow (by omega) headBelow
      (by omega))
    rw [regular.globalScore_eq, if_neg after, regular.globalScore_eq,
      if_pos (Nat.lt_succ_iff.mp past)]
    have lowTerm := mild key keyBelow
    have highTerm := mild high (by omega)
    linarith [small.1, lowTerm.2, highTerm.1]

theorem Regular.globalScore_columns (regular : layer.Regular type heads size)
    (padding : ∀ given ∈ mask, given.shape = [batch, sequence]) {start count row query key : Nat}
    (rowBelow : row < batch) (keyBelow : key < count) (head : Nat) :
    layer.globalScore type size hidden (mask.map fun given => given.slice 1 0 count) start row query
        head key =
      layer.globalScore type size hidden mask 0 row (start + query) head key := by
  rw [regular.globalScore_eq, regular.globalScore_eq, Nat.zero_add,
    addedTerm_columns padding rowBelow keyBelow]

theorem globalRun_chunk (sized : hidden.Sized type [batch, sequence, heads * size])
    (padding : ∀ given ∈ mask, given.shape = [batch, sequence]) {start count : Nat}
    (within : start + count ≤ sequence) {past : Option (Cache ℚ)}
    (remembers : layer.Remembers type heads size hidden batch start past) :
    layer.GlobalRun type heads size hidden batch sequence start count
      (chunkInput hidden mask past start count) := by
  refine ⟨sized, within, rfl, remembers, ?_, forall_mem_none⟩
  intro given member
  exact Or.inl (shape_columns_of_mem padding 0 (start + count) given member)

section Chunk

variable {start count : Nat} {past : Option (Cache ℚ)} {full answer : LayerOutput ℚ}

theorem Regular.whole_stands (regular : layer.Regular type heads size)
    (padding : ∀ given ∈ mask, given.shape = [batch, sequence])
    (modest : layer.Modest type heads size hidden batch sequence) {row query head : Nat}
    (rowBelow : row < batch) (headBelow : head < heads) (queryBelow : query < sequence) :
    Stands (0 + sequence) (layer.globalScore type size hidden mask 0 row query head)
      (Finset.range (0 + query + 1)) :=
  regular.globalScore_stands modest (fun key _ => addedTerm_within padding row query key) rowBelow
    headBelow (Nat.add_lt_add_left queryBelow 0) (Nat.le_of_eq (Nat.zero_add sequence))

theorem Regular.chunk_stands (regular : layer.Regular type heads size)
    (padding : ∀ given ∈ mask, given.shape = [batch, sequence])
    (modest : layer.Modest type heads size hidden batch sequence)
    (within : start + count ≤ sequence) {row query head : Nat}
    (rowBelow : row < batch) (headBelow : head < heads) (queryBelow : query < count) :
    Stands (start + count)
      (layer.globalScore type size hidden (mask.map fun given => given.slice 1 0 (start + count))
        start row query head)
      (Finset.range (start + query + 1)) := by
  have columns := shape_columns_of_mem padding 0 (start + count)
  exact regular.globalScore_stands modest (fun key _ => addedTerm_within columns row query key)
    rowBelow headBelow (Nat.add_lt_add_left queryBelow start) within

theorem Regular.chunk_output (regular : layer.Regular type heads size)
    (padding : ∀ given ∈ mask, given.shape = [batch, sequence])
    (modest : layer.Modest type heads size hidden batch sequence)
    (within : start + count ≤ sequence)
    (fullAnswer : layer.GlobalAnswer type heads size hidden batch 0 sequence
      { hidden, attentionMask := mask } full)
    (chunkAnswer : layer.GlobalAnswer type heads size hidden batch start count
      (chunkInput hidden mask past start count) answer) :
    answer.output = full.output.slice 1 start count := by
  apply chunkAnswer.outputSized.ext (fullAnswer.outputSized.slice 1 start count)
  intro row rowBelow query queryBelow entry entryBelow
  change answer.output.tensor.get [row, query, entry] = _
  have place : start + query < sequence := by omega
  have sliceGet : (full.output.slice 1 start count).tensor.get [row, query, entry] =
      full.output.tensor.get [row, start + query, entry] :=
    fullAnswer.outputSized.get_slice 1 start count ⟨rowBelow, queryBelow, entryBelow, trivial⟩
  have chunkMean := regular.globalAnswer_output chunkAnswer rowBelow queryBelow entryBelow
    (fun head headBelow =>
      regular.chunk_stands padding modest within rowBelow headBelow queryBelow)
  have wholeMean := regular.globalAnswer_output fullAnswer rowBelow place entryBelow
    (fun head headBelow => regular.whole_stands padding modest rowBelow headBelow place)
  rw [sliceGet, chunkMean, wholeMean, Nat.zero_add]
  apply regular.meanOutput_congr
  intro head _ key member
  have keyBelow : key < start + count := by
    have reached := Finset.mem_range.mp member
    omega
  exact regular.globalScore_columns padding rowBelow keyBelow head

theorem Regular.whole_weight (regular : layer.Regular type heads size)
    (padding : ∀ given ∈ mask, given.shape = [batch, sequence])
    (modest : layer.Modest type heads size hidden batch sequence)
    (fullAnswer : layer.GlobalAnswer type heads size hidden batch 0 sequence
      { hidden, attentionMask := mask } full) {row head query key : Nat}
    (rowBelow : row < batch) (headBelow : head < heads) (queryBelow : query < sequence)
    (keyBelow : key < sequence) :
    full.weights.tensor.get [row, head, query, key] =
      if key ∈ Finset.range (query + 1) then
        liveShare (Finset.range (query + 1))
          (layer.globalScore type size hidden mask 0 row query head) key
      else 0 := by
  have stands := regular.whole_stands padding modest rowBelow headBelow queryBelow
  have keyWithin : key < 0 + sequence := by omega
  rw [regular.globalAnswer_weight fullAnswer rowBelow headBelow queryBelow keyWithin stands,
    Nat.zero_add]

theorem Regular.chunk_weights (regular : layer.Regular type heads size)
    (padding : ∀ given ∈ mask, given.shape = [batch, sequence])
    (modest : layer.Modest type heads size hidden batch sequence)
    (within : start + count ≤ sequence)
    (fullAnswer : layer.GlobalAnswer type heads size hidden batch 0 sequence
      { hidden, attentionMask := mask } full)
    (chunkAnswer : layer.GlobalAnswer type heads size hidden batch start count
      (chunkInput hidden mask past start count) answer) :
    answer.weights = (full.weights.slice 2 start count).slice 3 0 (start + count) := by
  have rowsSized : (full.weights.slice 2 start count).Sized type
      [batch, heads, count, 0 + sequence] := fullAnswer.weightsSized.slice 2 start count
  apply chunkAnswer.weightsSized.ext (rowsSized.slice 3 0 (start + count))
  intro row rowBelow head headBelow query queryBelow key keyBelow
  change answer.weights.tensor.get [row, head, query, key] = _
  have place : start + query < sequence := by omega
  have keyPlace : key < sequence := by omega
  have sliceGet : ((full.weights.slice 2 start count).slice 3 0 (start + count)).tensor.get
      [row, head, query, key] = full.weights.tensor.get [row, head, start + query, key] := by
    have rowInside : Shape.Contains [batch, heads, count, 0 + sequence]
        [row, head, query, 0 + key] :=
      ⟨rowBelow, headBelow, queryBelow, Nat.add_lt_add_left keyPlace 0, trivial⟩
    have columnInside : Shape.Contains [batch, heads, count, start + count]
        [row, head, query, key] := ⟨rowBelow, headBelow, queryBelow, keyBelow, trivial⟩
    refine (rowsSized.get_slice 3 0 (start + count) columnInside).trans ?_
    refine (fullAnswer.weightsSized.get_slice 2 start count rowInside).trans ?_
    rw [Nat.zero_add]
    rfl
  have stands := regular.chunk_stands padding modest within rowBelow headBelow queryBelow
  rw [sliceGet, regular.whole_weight padding modest fullAnswer rowBelow headBelow place keyPlace,
    regular.globalAnswer_weight chunkAnswer rowBelow headBelow queryBelow keyBelow stands]
  by_cases reached : key ∈ Finset.range (start + query + 1)
  · rw [if_pos reached, if_pos reached]
    refine liveShare_congr ?_ reached
    intro other member
    have otherBelow : other < start + count := by
      have otherReached := Finset.mem_range.mp member
      omega
    exact regular.globalScore_columns padding rowBelow otherBelow head
  · rw [if_neg reached, if_neg reached]

end Chunk

/-! ### All chunks -/

/-- Within the limit every chunk is answered, with its part of the run on the whole sequence. -/
theorem Regular.decode_within (regular : layer.Regular type heads size) {limit : Nat}
    (reach : layer.reach = .everything limit)
    (sized : hidden.Sized type [batch, sequence, heads * size])
    (padding : ∀ given ∈ mask, given.shape = [batch, sequence])
    (modest : layer.Modest type heads size hidden batch sequence) (fits : sequence ≤ limit)
    {full : LayerOutput ℚ}
    (fullAnswer : layer.GlobalAnswer type heads size hidden batch 0 sequence
      { hidden, attentionMask := mask } full) {sizes : List Nat} (total : sizes.sum = sequence) :
    ∃ answers, layer.decode hidden mask none 0 sizes = (answers, none) ∧
      List.Forall₂ (fun chunk answer =>
        answer.output = full.output.slice 1 chunk.1 chunk.2 ∧
        answer.weights = (full.weights.slice 2 chunk.1 chunk.2).slice 3 0 (chunk.1 + chunk.2))
        (chunks 0 sizes) answers := by
  have step : ∀ start count past, count ∈ sizes → start + count ≤ sequence →
      layer.Remembers type heads size hidden batch start past →
      ∃ answer, layer.run (chunkInput hidden mask past start count) = .ok answer ∧
        (answer.output = full.output.slice 1 start count ∧
          answer.weights = (full.weights.slice 2 start count).slice 3 0 (start + count)) ∧
        layer.Remembers type heads size hidden batch (start + count) answer.present := by
    intro start count past _ within remembers
    have run := globalRun_chunk sized padding within remembers
    obtain ⟨answer, ran, answered⟩ :=
      run.answers regular (Nat.le_trans within fits) forall_mem_none
    refine ⟨answer, ?_, ⟨?_, ?_⟩, answered.remembers rfl⟩
    · simp only [Layer.run, reach]
      exact ran
    · exact regular.chunk_output padding modest within fullAnswer answered
    · exact regular.chunk_weights padding modest within fullAnswer answered
  have nothing : layer.Remembers type heads size hidden batch 0 none := rfl
  have reached : 0 + sizes.sum ≤ sequence := by omega
  rcases decode_of_step step nothing reached with ⟨answers, last, _, answeredAll, decoded⟩
  have whole := decoded []
  rw [List.append_nil] at whole
  refine ⟨answers, ?_, answeredAll⟩
  rw [whole]
  simp only [decode, List.append_nil]

/-- Past the limit the chunks up to it are answered, and the one that passes it is refused. -/
theorem Regular.decode_past (regular : layer.Regular type heads size) {limit : Nat}
    (reach : layer.reach = .everything limit)
    (sized : hidden.Sized type [batch, sequence, heads * size])
    (padding : ∀ given ∈ mask, given.shape = [batch, sequence]) {front back : List Nat}
    {count : Nat} (total : (front ++ count :: back).sum = sequence) (below : front.sum ≤ limit)
    (past : limit < front.sum + count) :
    ∃ answers, layer.decode hidden mask none 0 front = (answers, none) ∧
      answers.length = front.length ∧
      layer.decode hidden mask none 0 (front ++ count :: back) =
        (answers, some (.sequenceTooLong (front.sum + count) limit)) := by
  rw [List.sum_append, List.sum_cons] at total
  have step : ∀ start amount past, amount ∈ front → start + amount ≤ front.sum →
      layer.Remembers type heads size hidden batch start past →
      ∃ answer, layer.run (chunkInput hidden mask past start amount) = .ok answer ∧ True ∧
        layer.Remembers type heads size hidden batch (start + amount) answer.present := by
    intro start amount past _ within remembers
    have reached : start + amount ≤ sequence := by omega
    have run := globalRun_chunk sized padding reached remembers
    obtain ⟨answer, ran, answered⟩ :=
      run.answers regular (Nat.le_trans within below) forall_mem_none
    refine ⟨answer, ?_, trivial, answered.remembers rfl⟩
    simp only [Layer.run, reach]
    exact ran
  have nothing : layer.Remembers type heads size hidden batch 0 none := rfl
  obtain ⟨answers, last, remembers, answeredAll, decoded⟩ :=
    decode_of_step step nothing (Nat.le_of_eq (Nat.zero_add front.sum))
  rw [Nat.zero_add] at remembers decoded
  -- Nothing before the limit is refused, so the cache holds all positions of the chunks in front.
  have refused : layer.run (chunkInput hidden mask last front.sum count) =
      .error (.sequenceTooLong (front.sum + count) limit) := by
    have reached : front.sum + count ≤ sequence := by omega
    have run := globalRun_chunk sized padding reached remembers
    simp only [Layer.run, reach]
    exact run.refuses regular past
  refine ⟨answers, ?_, ?_, ?_⟩
  · have whole := decoded []
    rw [List.append_nil] at whole
    rw [whole]
    simp only [decode, List.append_nil]
  · rw [← answeredAll.length_eq, length_chunks]
  · rw [decoded (count :: back), decode_cons_of_error refused]
    simp only [List.append_nil]

/-- Decoding a sequence in chunks with a global layer answers as one run on the whole sequence, up
to the limit. A longer sequence is refused at the first chunk that takes the total past the limit,
after all chunks before it are answered. -/
theorem decode_global_eq_whole (regular : layer.Regular type heads size) {limit : Nat}
    (reach : layer.reach = .everything limit)
    (sized : hidden.Sized type [batch, sequence, heads * size]) (nonempty : 1 ≤ sequence)
    (padding : ∀ given ∈ mask, given.shape = [batch, sequence])
    (modest : layer.Modest type heads size hidden batch sequence) {sizes : List Nat}
    (total : sizes.sum = sequence) :
    (sequence ≤ limit → ∃ full answers,
      layer.run { hidden, attentionMask := mask } = .ok full ∧
      layer.decode hidden mask none 0 sizes = (answers, none) ∧
      TypedTensor.concatenate 1 (answers.map LayerOutput.output) = .ok full.output ∧
      answers.map LayerOutput.weights = (chunks 0 sizes).map (fun chunk =>
        (full.weights.slice 2 chunk.1 chunk.2).slice 3 0 (chunk.1 + chunk.2)) ∧
      full.output.Sized type [batch, sequence, heads * size] ∧
      full.weights.Sized type [batch, heads, sequence, sequence] ∧
      ∀ row head query key, row < batch → head < heads → query < key → key < sequence →
        full.weights.tensor.get [row, head, query, key] = 0) ∧
    (limit < sequence → ∃ front count back answers, sizes = front ++ count :: back ∧
      front.sum ≤ limit ∧ limit < front.sum + count ∧
      layer.decode hidden mask none 0 front = (answers, none) ∧
      answers.length = front.length ∧
      layer.decode hidden mask none 0 sizes =
        (answers, some (.sequenceTooLong (front.sum + count) limit))) := by
  constructor
  · intro fits
    have run : layer.GlobalRun type heads size hidden batch sequence 0 sequence
        { hidden, attentionMask := mask } :=
      GlobalRun.whole sized (fun given member => Or.inl (padding given member))
        forall_mem_none false
    have reached : 0 + sequence ≤ limit := by omega
    obtain ⟨full, ran, fullAnswer⟩ :=
      run.answers regular reached forall_mem_none
    obtain ⟨answers, decoded, answeredAll⟩ :=
      regular.decode_within reach sized padding modest fits fullAnswer total
    have outputs : answers.map LayerOutput.output =
        (chunks 0 sizes).map fun chunk => full.output.slice 1 chunk.1 chunk.2 :=
      map_eq_map_of_forall₂ (answeredAll.imp fun _ _ answered => answered.1)
    have weights : answers.map LayerOutput.weights = (chunks 0 sizes).map fun chunk =>
        (full.weights.slice 2 chunk.1 chunk.2).slice 3 0 (chunk.1 + chunk.2) :=
      map_eq_map_of_forall₂ (answeredAll.imp fun _ _ answered => answered.2)
    have outputShape : full.output.tensor.shape = [batch, sequence, heads * size] :=
      fullAnswer.outputSized.shape_eq
    have outputRank : full.output.rank = 3 := congrArg List.length outputShape
    have tall : 2 ≤ full.output.rank := by omega
    have axisWithin : 1 < full.output.rank := by omega
    have extentEq : full.output.tensor.extent 1 = sizes.sum := by
      simp [Tensor.extent, outputShape, total]
    have someSizes : sizes ≠ [] := by
      intro none
      rw [none, List.sum_nil] at total
      omega
    have weightsSized := fullAnswer.weightsSized
    rw [Nat.zero_add] at weightsSized
    refine ⟨full, answers, ?_, decoded, ?_, weights, fullAnswer.outputSized, weightsSized, ?_⟩
    · simp only [Layer.run, reach]
      exact ran
    · rw [outputs]
      exact TypedTensor.concatenate_chunks tall axisWithin someSizes extentEq
    · intro row head query key rowBelow headBelow later keyBelow
      have unreached : key ∉ Finset.range (query + 1) := by
        intro member
        have reached := Finset.mem_range.mp member
        omega
      rw [regular.whole_weight padding modest fullAnswer rowBelow headBelow (by omega) keyBelow,
        if_neg unreached]
  · intro tooLong
    have totalPast : limit < 0 + sizes.sum := by omega
    obtain ⟨front, count, back, split, below, past⟩ :=
      exists_first_past (Nat.zero_le limit) totalPast
    rw [Nat.zero_add] at below past
    rw [split] at total
    obtain ⟨answers, decodedFront, counted, decoded⟩ :=
      regular.decode_past reach sized padding total below past
    refine ⟨front, count, back, answers, split, below, past, decodedFront, counted, ?_⟩
    rw [split]
    exact decoded

omit [Falloff] in
/-- Three positions in chunks of two and one, with a limit of three positions and with one of
two. -/
theorem decode_global_eq_whole_three_positions :
    let _ : Falloff := Falloff.linear
    let hidden : TypedTensor ℚ := ⟨.float32, Tensor.replicate [1, 3, 2] 1⟩
    let layer (limit : Nat) : Layer ℚ := constant .float32 1 2 (.everything limit) 1
    (∃ full answers, (layer 3).run { hidden } = .ok full ∧
      (layer 3).decode hidden none none 0 [2, 1] = (answers, none) ∧
      TypedTensor.concatenate 1 (answers.map LayerOutput.output) = .ok full.output) ∧
    ∃ answers, (layer 2).decode hidden none none 0 [2, 1] =
      (answers, some (.sequenceTooLong 3 2)) ∧ answers.length = 1 := by
  intro falloff hidden layer
  have regular (limit : Nat) : (layer limit).Regular .float32 1 2 :=
    regular_constant rfl (.everything limit) 1
  have sized : hidden.Sized .float32 [1, 3, 1 * 2] := ⟨rfl, rfl⟩
  have modest (limit : Nat) : (layer limit).Modest .float32 1 2 hidden 1 3 := modest_of_ones _ rfl
  have padding : ∀ given ∈ (none : Option (TypedTensor ℚ)), given.shape = [1, 3] :=
    forall_mem_none
  have total : [2, 1].sum = 3 := rfl
  constructor
  · obtain ⟨full, answers, ran, decoded, joined, _⟩ := (decode_global_eq_whole (regular 3) rfl sized
      (by decide) padding (modest 3) total).1 (by decide)
    exact ⟨full, answers, ran, decoded, joined⟩
  · obtain ⟨front, count, back, answers, split, below, past, _, counted, decoded⟩ :=
      (decode_global_eq_whole (regular 2) rfl sized (by decide) padding (modest 2) total).2
        (by decide)
    cases front with
    | nil =>
        cases split
        contradiction
    | cons first front =>
        cases front with
        | nil =>
            cases split
            exact ⟨answers, decoded, counted⟩
        | cons second front =>
            have lengths := congrArg List.length split
            simp at lengths

end Layer

end CausalAttention
