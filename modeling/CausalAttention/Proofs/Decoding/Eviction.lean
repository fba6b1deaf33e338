import CausalAttention.Proofs.Decoding.Local

/-!
Dropping the oldest positions of a local cache. Fewer cached positions mean other blocks, and every
key moves to another slot. As long as the cache still covers what the window of the next position
reaches, that position is answered as before.
-/

set_option autoImplicit false

namespace CausalAttention

open Exact

namespace Layer

variable [Falloff] {layer : Layer ℚ} {type : ElementType}
  {heads size batch window first remaining : Nat} {mask : Option (TypedTensor ℚ)}

/-- A run on the position behind a part of the sequence, with the part in the cache, answers with
the mean over the window in the whole sequence. -/
theorem Regular.run_evicted (regular : layer.Regular type heads size)
    (reach : layer.reach = .window (.int window)) (wide : 1 ≤ window) {hidden : TypedTensor ℚ}
    (sized : hidden.Sized type [batch, first + remaining + 1, heads * size])
    (padding : ∀ given ∈ mask, given.shape = [batch, first + remaining + 1])
    (unreached : first = 0 ∨ window ≤ remaining + 1)
    (modest : layer.ModestAt type heads size hidden batch window (first + remaining))
    (useCache : Bool) :
    ∃ answer, layer.run ⟨hidden.slice 1 (first + remaining) 1,
        some [hidden.slice 1 first remaining],
        mask.map fun given => given.slice 1 first (remaining + 1), none, useCache⟩ = .ok answer ∧
      layer.WindowAnswer type heads size hidden batch window mask (first + remaining) 1 answer := by
  have rankEq : hidden.rank = 3 := congrArg List.length sized.shape_eq
  have reached : first + (remaining + 1) ≤ first + remaining + 1 := Nat.le_refl _
  have modestPart : layer.ModestAt type heads size (hidden.slice 1 first (remaining + 1)) batch
      window remaining :=
    modest.part sized.shape_eq reached (Nat.lt_succ_self remaining)
  obtain ⟨answer, ran, answered, _⟩ :=
    regular.run_last reach wide (sized.slice 1 first (remaining + 1))
      (shape_columns_of_mem padding first (remaining + 1)) modestPart useCache
  rw [TypedTensor.slice_slice (by omega) (Nat.le_refl (remaining + 1)),
    TypedTensor.slice_slice (by omega) (by omega), Nat.add_zero] at ran
  exact ⟨answer, ran, answered.of_part regular sized.shape_eq padding (Nat.le_refl _) reached
    unreached⟩

/-- The next position needs no more of the cache than the positions in front of it that its window
reaches, whatever was cached before them. -/
theorem eviction_invisible (regular : layer.Regular type heads size)
    (reach : layer.reach = .window (.int window)) (wide : 1 ≤ window)
    {past token : TypedTensor ℚ} {cached : Nat}
    (pastSized : past.Sized type [batch, cached, heads * size])
    (tokenSized : token.Sized type [batch, 1, heads * size])
    (padding : ∀ given ∈ mask, given.shape = [batch, cached + 1])
    (covered : min cached (window - 1) ≤ remaining) (within : remaining ≤ cached)
    (useCache : Bool) :
    ∃ states, past.append 1 token = .ok states ∧
      (layer.ModestAt type heads size states batch window cached →
        ∃ whole evicted,
          layer.run ⟨token, some [past], mask, none, useCache⟩ = .ok whole ∧
          layer.run ⟨token, some [past.slice 1 (cached - remaining) remaining],
              mask.map fun given => given.slice 1 (cached - remaining) (remaining + 1), none,
              useCache⟩ = .ok evicted ∧
          whole.output.Sized type [batch, 1, heads * size] ∧
          evicted.output.Sized type [batch, 1, heads * size] ∧
          ∀ row entry, row < batch → entry < heads * size →
            (∃ key, key ≤ cached ∧ cached < key + window ∧ keptAt mask row key = true) →
            evicted.output.tensor.get [row, 0, entry] =
              whole.output.tensor.get [row, 0, entry]) := by
  obtain ⟨first, rfl⟩ : ∃ first, cached = first + remaining :=
    ⟨cached - remaining, (Nat.sub_add_cancel within).symm⟩
  obtain ⟨states, joined, sized, front, back⟩ := pastSized.append_parts tokenSized
  have rankEq : states.rank = 3 := congrArg List.length sized.shape_eq
  have kept : past.slice 1 first remaining = states.slice 1 first remaining := by
    rw [← front, TypedTensor.slice_slice (by omega) (Nat.le_refl _), Nat.zero_add]
  have unreached : first = 0 ∨ window ≤ remaining + 1 := by omega
  rw [Nat.add_sub_cancel, kept]
  refine ⟨states, joined, ?_⟩
  intro modest
  obtain ⟨whole, wholeRan, wholeMean, _⟩ :=
    regular.run_last reach wide sized padding modest useCache
  obtain ⟨evicted, evictedRan, evictedMean⟩ :=
    regular.run_evicted reach wide sized padding unreached modest useCache
  rw [front, back] at wholeRan
  rw [back] at evictedRan
  refine ⟨whole, evicted, wholeRan, evictedRan, wholeMean.sized, evictedMean.sized, ?_⟩
  rintro row entry rowBelow entryBelow ⟨key, seen⟩
  have some : (windowKeys window (keptAt mask row) (first + remaining + 0)).Nonempty :=
    ⟨key, mem_windowKeys.mpr seen⟩
  calc evicted.output.tensor.get [row, 0, entry]
    _ = layer.windowMean type size states window mask row (first + remaining + 0) entry :=
        evictedMean.mean row 0 entry rowBelow Nat.one_pos entryBelow some
    _ = whole.output.tensor.get [row, 0, entry] :=
        (wholeMean.mean row 0 entry rowBelow Nat.one_pos entryBelow some).symm

omit [Falloff] in
/-- With a window of two, the third position needs one of the two cached positions, also when the
padding mask drops the third position itself. -/
theorem eviction_invisible_three_positions :
    let _ : Falloff := Falloff.linear
    let layer : Layer ℚ := constant .float32 1 2 (.window (.int 2)) 1
    let states : TypedTensor ℚ := ⟨.float32, Tensor.replicate [1, 3, 2] 1⟩
    let past := states.slice 1 0 2
    let token := states.slice 1 2 1
    let mask : TypedTensor ℚ :=
      ⟨.int64, Tensor.ofFn [1, 3] fun index => if index.getD 1 0 = 2 then 0 else 1⟩
    ∃ whole evicted,
      layer.run { hidden := token, past := some [past], attentionMask := some mask } =
        .ok whole ∧
      layer.run { hidden := token, past := some [past.slice 1 1 1],
                  attentionMask := some (mask.slice 1 1 2) } = .ok evicted ∧
      evicted.output.tensor.get [0, 0, 1] = whole.output.tensor.get [0, 0, 1] := by
  intro falloff layer states past token mask
  have regular : layer.Regular .float32 1 2 := regular_constant rfl (.window (.int 2)) 1
  have sized : states.Sized .float32 [1, 3, 1 * 2] := ⟨rfl, rfl⟩
  have padding : ∀ given ∈ some mask, given.shape = [1, 2 + 1] := forall_mem_some rfl
  have joined : past.append 1 token = .ok states := by
    have parts : past.append 1 token = .ok (states.slice 1 0 (2 + 1)) :=
      TypedTensor.append_slice 2 1 (by decide) (by decide)
    have extent : states.tensor.extent 1 = 2 + 1 := rfl
    rwa [TypedTensor.slice_all extent] at parts
  have modest : layer.Modest .float32 1 2 states 1 3 := modest_of_ones layer rfl
  have seen : ∃ key, key ≤ 2 ∧ 2 < key + 2 ∧ keptAt (some mask) 0 key = true :=
    ⟨1, by decide, by decide, by decide +kernel⟩
  obtain ⟨made, makes, answered⟩ := eviction_invisible regular rfl (by decide) (sized.slice 1 0 2)
    (sized.slice 1 2 1) padding (Nat.le_refl 1) (by decide) false
  rw [joined] at makes
  cases makes
  obtain ⟨whole, evicted, wholeRan, evictedRan, _, _, agree⟩ :=
    answered (modest.modestAt (by decide) 2)
  exact ⟨whole, evicted, wholeRan, evictedRan, agree 0 1 (by decide) (by decide) seen⟩

end Layer

end CausalAttention
