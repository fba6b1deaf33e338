import CausalAttention.Proofs.Decoding.Run
import CausalAttention.Proofs.Exact.Windows

/-!
Decoding with a local layer. The length of the blocks depends on the number of positions, and so
do the slots that show the keys of a window. Over exact numbers the answer for a position depends
on neither: it is the mean over the window.
-/

set_option autoImplicit false

namespace CausalAttention

open Exact

namespace Layer

variable [Falloff] {layer : Layer ℚ} {type : ElementType}
  {heads size batch sequence window count : Nat} {hidden : TypedTensor ℚ}
  {mask : Option (TypedTensor ℚ)}

theorem keptAt_columns (padding : ∀ given ∈ mask, given.shape = [batch, sequence]) (first : Nat)
    {row position : Nat} (rowBelow : row < batch) (positionBelow : position < count) :
    keptAt (mask.map fun given => given.slice 1 first count) row position =
      keptAt mask row (first + position) := by
  cases mask with
  | none => rfl
  | some given =>
      simp only [Option.map_some, keptAt, TypedTensor.elementType_slice]
      rw [get_columns (padding given rfl) first rowBelow positionBelow]

/-- An answer that knows a part of the positions is one for the whole sequence, when its windows
reach nothing in front of the part. -/
theorem WindowAnswer.of_part (regular : layer.Regular type heads size)
    (sizes : hidden.shape = [batch, sequence, heads * size])
    (padding : ∀ given ∈ mask, given.shape = [batch, sequence]) {first start seen : Nat}
    (covered : start + count ≤ seen) (within : first + seen ≤ sequence)
    (unreached : first = 0 ∨ window ≤ start + 1) {answer : LayerOutput ℚ}
    (answered : layer.WindowAnswer type heads size (hidden.slice 1 first seen) batch window
      (mask.map fun given => given.slice 1 first seen) start count answer) :
    layer.WindowAnswer type heads size hidden batch window mask (first + start) count answer := by
  refine ⟨answered.sized, ?_⟩
  intro row inner entry rowBelow innerBelow entryBelow some
  rw [Nat.add_assoc] at some ⊢
  have placeBelow : start + inner < seen := by omega
  have same : ∀ key, key ≤ start + inner →
      keptAt (mask.map fun given => given.slice 1 first seen) row key =
        keptAt mask row (first + key) := by
    intro key past
    exact keptAt_columns padding first rowBelow (by omega)
  have front : ∀ key, key < first → first + (start + inner) < key + window →
      keptAt mask row key = false := by
    intro key before near
    omega
  rw [← regular.windowMean_part sizes within rowBelow placeBelow same front]
  apply answered.mean row inner entry rowBelow innerBelow entryBelow
  rw [← image_windowKeys same front] at some
  exact Finset.image_nonempty.mp some

theorem WindowAnswer.of_front (regular : layer.Regular type heads size)
    (sizes : hidden.shape = [batch, sequence, heads * size])
    (padding : ∀ given ∈ mask, given.shape = [batch, sequence]) {start seen : Nat}
    (covered : start + count ≤ seen) (within : seen ≤ sequence) {answer : LayerOutput ℚ}
    (answered : layer.WindowAnswer type heads size (hidden.slice 1 0 seen) batch window
      (mask.map fun given => given.slice 1 0 seen) start count answer) :
    layer.WindowAnswer type heads size hidden batch window mask start count answer := by
  rw [← Nat.zero_add seen] at within
  have part := answered.of_part regular sizes padding covered within (Or.inl rfl)
  rwa [Nat.zero_add] at part

/-- A run on the last position, with all positions before it in the cache, answers it with the mean
over its window. -/
theorem Regular.run_last (regular : layer.Regular type heads size)
    (reach : layer.reach = .window (.int window)) (wide : 1 ≤ window)
    (sized : hidden.Sized type [batch, count + 1, heads * size])
    (padding : ∀ given ∈ mask, given.shape = [batch, count + 1])
    (modest : layer.ModestAt type heads size hidden batch window count) (useCache : Bool) :
    ∃ answer, layer.run ⟨hidden.slice 1 count 1, some [hidden.slice 1 0 count], mask, none,
        useCache⟩ = .ok answer ∧
      layer.WindowAnswer type heads size hidden batch window mask count 1 answer ∧
      answer.present = if useCache then some [hidden] else none := by
  rcases Blocks.exists_cut (Nat.succ_pos count) wide with ⟨blocks, cut⟩
  have run : LocalRun type heads size hidden batch (count + 1) blocks window
      ⟨hidden.slice 1 count 1, some [hidden.slice 1 0 count], mask, none, useCache⟩ :=
    ⟨sized, cut, Or.inr ⟨rfl, rfl⟩, (fun given member => Or.inl (padding given member)),
      forall_mem_none⟩
  obtain ⟨answer, ran, answered, present⟩ :=
    run.run_answers regular reach forall_mem_none
  refine ⟨answer, ran, ⟨answered.outputSized, ?_⟩, present⟩
  intro row inner entry rowBelow innerBelow entryBelow some
  have first : inner = 0 := Nat.lt_one_iff.mp innerBelow
  subst first
  exact regular.lastQuery_output cut padding modest answered rowBelow entryBelow some

section Steps

variable (regular : layer.Regular type heads size) (reach : layer.reach = .window (.int window))
  (wide : 1 ≤ window) (sized : hidden.Sized type [batch, sequence, heads * size])
  (padding : ∀ given ∈ mask, given.shape = [batch, sequence])
  (modest : layer.Modest type heads size hidden batch sequence)

include regular reach wide sized padding modest

theorem run_front (positive : 1 ≤ count) (within : count ≤ sequence) :
    ∃ answer, layer.run (chunkInput hidden mask none 0 count) = .ok answer ∧
      layer.WindowAnswer type heads size hidden batch window mask 0 count answer ∧
      answer.present = some [hidden.slice 1 0 count] := by
  have columns := shape_columns_of_mem padding 0 (0 + count)
  rw [Nat.zero_add] at columns
  have front : 0 + count ≤ sequence := by omega
  have modestFront := modest.part sized.shape_eq front
  obtain ⟨answer, ran, answered, present⟩ :=
    regular.run_all reach wide (sized.slice 1 0 count) positive columns
      (fun query below => modestFront.modestAt below window) true
  refine ⟨answer, ?_, ?_, present⟩
  · unfold chunkInput
    rw [Nat.zero_add]
    exact ran
  · have covered : 0 + count ≤ count := by omega
    exact answered.of_front regular sized.shape_eq padding covered within

theorem run_next {start : Nat} (within : start + 1 ≤ sequence) :
    ∃ answer, layer.run (chunkInput hidden mask (some [hidden.slice 1 0 start]) start 1) =
        .ok answer ∧
      layer.WindowAnswer type heads size hidden batch window mask start 1 answer ∧
      answer.present = some [hidden.slice 1 0 (start + 1)] := by
  -- The new position is the last one of the sequence that ends with it.
  have rankEq : hidden.rank = 3 := congrArg List.length sized.shape_eq
  have front : 0 + (start + 1) ≤ sequence := by omega
  have modestFront := modest.part sized.shape_eq front
  obtain ⟨answer, ran, answered, present⟩ :=
    regular.run_last reach wide (sized.slice 1 0 (start + 1))
      (shape_columns_of_mem padding 0 (start + 1)) (modestFront.modestAt (Nat.lt_succ_self start) _)
      true
  rw [TypedTensor.slice_slice (by omega) (Nat.le_refl _),
    TypedTensor.slice_slice (by omega) (by omega), Nat.zero_add] at ran
  exact ⟨answer, ran, answered.of_front regular sized.shape_eq padding (Nat.le_refl _) within,
    present⟩

end Steps

/-- Decoding a sequence with a local layer, a prefix first and then one position after the other,
answers every position whose window holds a kept key as one run on the whole sequence. -/
theorem decode_local_eq_whole (regular : layer.Regular type heads size)
    (reach : layer.reach = .window (.int window)) (wide : 1 ≤ window)
    (sized : hidden.Sized type [batch, sequence, heads * size])
    (padding : ∀ given ∈ mask, given.shape = [batch, sequence])
    (modest : layer.Modest type heads size hidden batch sequence) {prefill : Nat}
    (positive : 1 ≤ prefill) (within : prefill ≤ sequence) :
    ∃ full answers, layer.run { hidden, attentionMask := mask } = .ok full ∧
      layer.decode hidden mask none 0 (prefill :: List.replicate (sequence - prefill) 1) =
        (answers, none) ∧
      full.output.Sized type [batch, sequence, heads * size] ∧
      List.Forall₂ (fun chunk answer =>
        answer.output.Sized type [batch, chunk.2, heads * size] ∧
        ∀ row inner entry, row < batch → inner < chunk.2 → entry < heads * size →
          (∃ key, key ≤ chunk.1 + inner ∧ chunk.1 + inner < key + window ∧
            keptAt mask row key = true) →
          answer.output.tensor.get [row, inner, entry] =
            full.output.tensor.get [row, chunk.1 + inner, entry])
        (chunks 0 (prefill :: List.replicate (sequence - prefill) 1)) answers := by
  obtain ⟨full, fullRan, fullAnswered, _⟩ :=
    regular.run_all reach wide sized (by omega) padding
      (fun query below => modest.modestAt below window) false
  obtain ⟨first, firstRan, firstAnswered, firstPresent⟩ :=
    run_front regular reach wide sized padding modest positive within
  have step : ∀ start count past, count ∈ List.replicate (sequence - prefill) 1 →
      start + count ≤ sequence → past = some [hidden.slice 1 0 start] →
      ∃ answer, layer.run (chunkInput hidden mask past start count) = .ok answer ∧
        (answer.output.Sized type [batch, count, heads * size] ∧
          ∀ row inner entry, row < batch → inner < count → entry < heads * size →
            (∃ key, key ≤ start + inner ∧ start + inner < key + window ∧
              keptAt mask row key = true) →
            answer.output.tensor.get [row, inner, entry] =
              full.output.tensor.get [row, start + inner, entry]) ∧
        answer.present = some [hidden.slice 1 0 (start + count)] := by
    intro start count past member reached remembered
    obtain rfl := List.eq_of_mem_replicate member
    subst remembered
    obtain ⟨answer, ran, answered, present⟩ :=
      run_next regular reach wide sized padding modest reached
    refine ⟨answer, ran, ⟨answered.sized, ?_⟩, present⟩
    intro row inner entry rowBelow innerBelow entryBelow kept
    exact fullAnswered.eq_part reached answered rowBelow innerBelow entryBelow kept
  have total : 0 + prefill + (List.replicate (sequence - prefill) 1).sum ≤ sequence := by
    rw [List.sum_replicate_nat]
    omega
  have started : first.present = some [hidden.slice 1 0 (0 + prefill)] := by
    rw [Nat.zero_add]
    exact firstPresent
  rcases decode_of_step step started total with ⟨answers, last, _, answeredAll, decoded⟩
  have whole := decoded []
  rw [List.append_nil] at whole
  refine ⟨full, first :: answers, fullRan, ?_, fullAnswered.sized,
    List.Forall₂.cons ⟨firstAnswered.sized, ?_⟩ answeredAll⟩
  · rw [decode_cons_of_ok firstRan, whole]
    simp only [decode, List.append_nil]
  · intro row inner entry rowBelow innerBelow entryBelow kept
    have reached : 0 + prefill ≤ sequence := by omega
    exact fullAnswered.eq_part reached firstAnswered rowBelow innerBelow entryBelow kept

omit [Falloff] in
/-- Three positions, of which the first two come together, with a window of two. -/
theorem decode_local_eq_whole_three_positions :
    let _ : Falloff := Falloff.linear
    let hidden : TypedTensor ℚ := ⟨.float32, Tensor.replicate [1, 3, 2] 1⟩
    let layer : Layer ℚ := constant .float32 1 2 (.window (.int 2)) 1
    ∃ full first second, layer.run { hidden } = .ok full ∧
      layer.decode hidden none none 0 [2, 1] = ([first, second], none) ∧
      first.output.tensor.get [0, 1, 0] = full.output.tensor.get [0, 1, 0] ∧
      second.output.tensor.get [0, 0, 1] = full.output.tensor.get [0, 2, 1] := by
  intro falloff hidden layer
  have regular : layer.Regular .float32 1 2 := regular_constant rfl (.window (.int 2)) 1
  have sized : hidden.Sized .float32 [1, 3, 1 * 2] := ⟨rfl, rfl⟩
  have modest : layer.Modest .float32 1 2 hidden 1 3 := modest_of_ones _ rfl
  have padding : ∀ given ∈ (none : Option (TypedTensor ℚ)), given.shape = [1, 3] :=
    forall_mem_none
  have wide : 1 ≤ 2 := by decide
  have within : 2 ≤ 3 := by decide
  obtain ⟨full, answers, ran, decoded, _, answeredAll⟩ :=
    decode_local_eq_whole regular rfl wide sized padding modest wide within
  cases answeredAll with
  | cons firstAnswered later =>
      cases later with
      | cons secondAnswered none =>
          cases none
          exact ⟨full, _, _, ran, decoded,
            firstAnswered.2 0 1 0 (by decide) (by decide) (by decide)
              ⟨1, by decide, by decide, rfl⟩,
            secondAnswered.2 0 0 1 (by decide) (by decide) (by decide)
              ⟨2, by decide, by decide, rfl⟩⟩

end Layer

end CausalAttention
