import CausalAttention.Proofs.Exact.Rows
import CausalAttention.Proofs.Tensor.Slice

/-!
Windows in a part of a sequence. The mean over a window asks for the kept keys of the window alone,
so every part of the sequence that holds them has the same mean.
-/

set_option autoImplicit false

namespace CausalAttention

open Exact

namespace Layer

/-- A part that starts some positions later keeps the same keys of a window, when the positions in
front of the part that the window reaches are not kept. -/
theorem image_windowKeys {kept others : Nat → Bool} {window start position : Nat}
    (same : ∀ key, key ≤ position → kept key = others (start + key))
    (front : ∀ key, key < start → start + position < key + window → others key = false) :
    (windowKeys window kept position).image (start + ·) =
      windowKeys window others (start + position) := by
  apply Finset.ext
  intro key
  rw [Finset.mem_image, mem_windowKeys]
  constructor
  · rintro ⟨inner, member, rfl⟩
    rcases mem_windowKeys.mp member with ⟨past, near, keeps⟩
    refine ⟨Nat.add_le_add_left past start, by omega, ?_⟩
    rw [← same inner past]
    exact keeps
  · rintro ⟨past, near, keeps⟩
    have reached : start ≤ key := by
      by_contra before
      rw [front key (Nat.lt_of_not_le before) near] at keeps
      contradiction
    have place : start + (key - start) = key := Nat.add_sub_cancel' reached
    refine ⟨key - start, mem_windowKeys.mpr ⟨by omega, by omega, ?_⟩, place⟩
    rw [same (key - start) (by omega), place]
    exact keeps

theorem Regular.windowMean_congr [Falloff] {layer : Layer ℚ} {type : ElementType}
    {heads size window row query : Nat} (regular : layer.Regular type heads size)
    {states others : TypedTensor ℚ} {mask : Option (TypedTensor ℚ)}
    (here : ∀ matrix, states.projected matrix [row, query] = others.projected matrix [row, query])
    (seen : ∀ matrix key, key ∈ windowKeys window (keptAt mask row) query →
      states.projected matrix [row, key] = others.projected matrix [row, key]) (entry : Nat) :
    layer.windowMean type size states window mask row query entry =
      layer.windowMean type size others window mask row query entry := by
  apply regular.outputEntry_congr
  intro feature _
  apply average_congr
  · intro key member
    unfold pairScore
    rw [here, seen _ key member]
  · intro key member
    rw [seen _ key member]

section Part

variable [Falloff] {layer : Layer ℚ} {type : ElementType}
  {heads size batch sequence window start count row position : Nat} {hidden : TypedTensor ℚ}
  {mask partMask : Option (TypedTensor ℚ)}

theorem projected_part (sizes : hidden.shape = [batch, sequence, heads * size])
    (within : start + count ≤ sequence) (rowBelow : row < batch) (positionBelow : position < count)
    (matrix : TypedTensor ℚ) :
    (hidden.slice 1 start count).projected matrix [row, position] =
      hidden.projected matrix [row, start + position] := by
  funext feature
  exact TypedTensor.projected_slice sizes rowBelow positionBelow within feature

theorem pairScore_part (sizes : hidden.shape = [batch, sequence, heads * size])
    (within : start + count ≤ sequence) (rowBelow : row < batch) {query key : Nat}
    (queryBelow : query < count) (keyBelow : key < count) (head : Nat) :
    layer.pairScore type size (hidden.slice 1 start count) row query head key =
      layer.pairScore type size hidden row (start + query) head (start + key) := by
  unfold pairScore
  rw [projected_part sizes within rowBelow queryBelow,
    projected_part sizes within rowBelow keyBelow]

theorem Modest.part (modest : layer.Modest type heads size hidden batch sequence)
    (sizes : hidden.shape = [batch, sequence, heads * size]) (within : start + count ≤ sequence) :
    layer.Modest type heads size (hidden.slice 1 start count) batch count := by
  intro row query head key rowBelow queryBelow headBelow keyBelow
  rw [pairScore_part sizes within rowBelow queryBelow keyBelow]
  exact modest row (start + query) head (start + key) rowBelow (by omega) headBelow (by omega)

theorem ModestAt.part {query : Nat}
    (modest : layer.ModestAt type heads size hidden batch window (start + query))
    (sizes : hidden.shape = [batch, sequence, heads * size]) (within : start + count ≤ sequence)
    (queryBelow : query < count) :
    layer.ModestAt type heads size (hidden.slice 1 start count) batch window query := by
  intro row head key rowBelow headBelow past near
  rw [pairScore_part sizes within rowBelow queryBelow (Nat.lt_of_le_of_lt past queryBelow)]
  exact modest row head (start + key) rowBelow headBelow (by omega) (by omega)

theorem Regular.windowMean_part (regular : layer.Regular type heads size)
    (sizes : hidden.shape = [batch, sequence, heads * size]) (within : start + count ≤ sequence)
    (rowBelow : row < batch) (positionBelow : position < count)
    (same : ∀ key, key ≤ position → keptAt partMask row key = keptAt mask row (start + key))
    (front : ∀ key, key < start → start + position < key + window →
      keptAt mask row key = false) (entry : Nat) :
    layer.windowMean type size (hidden.slice 1 start count) window partMask row position entry =
      layer.windowMean type size hidden window mask row (start + position) entry := by
  unfold windowMean
  apply regular.outputEntry_congr
  intro feature _
  rw [← image_windowKeys same front]
  have distinct : Set.InjOn (start + ·) (windowKeys window (keptAt partMask row) position) :=
    fun _ _ _ _ equal => Nat.add_left_cancel equal
  apply average_image distinct
  · intro key member
    have past := (mem_windowKeys.mp member).1
    exact pairScore_part sizes within rowBelow positionBelow (by omega) _
  · intro key member
    have past := (mem_windowKeys.mp member).1
    rw [projected_part sizes within rowBelow (by omega)]

end Part

variable [Falloff] {layer : Layer ℚ} {type : ElementType}
  {heads size batch sequence window count : Nat} {hidden : TypedTensor ℚ}
  {mask : Option (TypedTensor ℚ)}

/-- An answer for positions from a start on, each with the mean over its window if that holds a
kept key. -/
structure WindowAnswer (layer : Layer ℚ) (type : ElementType) (heads size : Nat)
    (hidden : TypedTensor ℚ) (batch window : Nat) (mask : Option (TypedTensor ℚ))
    (start count : Nat) (answer : LayerOutput ℚ) : Prop where
  sized : answer.output.Sized type [batch, count, heads * size]
  mean : ∀ row inner entry, row < batch → inner < count → entry < heads * size →
    (windowKeys window (keptAt mask row) (start + inner)).Nonempty →
    answer.output.tensor.get [row, inner, entry] =
      layer.windowMean type size hidden window mask row (start + inner) entry

theorem WindowAnswer.eq_part {full answer : LayerOutput ℚ} {start row inner entry : Nat}
    (whole : layer.WindowAnswer type heads size hidden batch window mask 0 sequence full)
    (within : start + count ≤ sequence)
    (part : layer.WindowAnswer type heads size hidden batch window mask start count answer)
    (rowBelow : row < batch) (innerBelow : inner < count) (entryBelow : entry < heads * size)
    (kept : ∃ key, key ≤ start + inner ∧ start + inner < key + window ∧
      keptAt mask row key = true) :
    answer.output.tensor.get [row, inner, entry] =
      full.output.tensor.get [row, start + inner, entry] := by
  rcases kept with ⟨key, keyKept⟩
  have some : (windowKeys window (keptAt mask row) (start + inner)).Nonempty :=
    ⟨key, mem_windowKeys.mpr keyKept⟩
  have wholeMean := whole.mean row (start + inner) entry rowBelow (by omega) entryBelow
  rw [Nat.zero_add] at wholeMean
  rw [part.mean row inner entry rowBelow innerBelow entryBelow some, wholeMean some]

/-- A run of a local layer on all positions answers each of them with the mean over its window. -/
theorem Regular.run_all (regular : layer.Regular type heads size)
    (reach : layer.reach = .window (.int window)) (wide : 1 ≤ window)
    (sized : hidden.Sized type [batch, sequence, heads * size]) (nonempty : 1 ≤ sequence)
    (padding : ∀ given ∈ mask, given.shape = [batch, sequence])
    (modest : ∀ query, query < sequence → layer.ModestAt type heads size hidden batch window query)
    (useCache : Bool) :
    ∃ answer, layer.run ⟨hidden, none, mask, none, useCache⟩ = .ok answer ∧
      layer.WindowAnswer type heads size hidden batch window mask 0 sequence answer ∧
      answer.present = if useCache then some [hidden] else none := by
  rcases Blocks.exists_cut nonempty wide with ⟨blocks, cut⟩
  have run : LocalRun type heads size hidden batch sequence blocks window
      ⟨hidden, none, mask, none, useCache⟩ :=
    ⟨sized, cut, Or.inl ⟨rfl, rfl⟩, (fun given member => Or.inl (padding given member)),
      forall_mem_none⟩
  obtain ⟨answer, ran, answered, present⟩ :=
    run.run_answers regular reach forall_mem_none
  have outputSized := answered.outputSized
  change answer.output.Sized type [batch, blocks.count * blocks.length, heads * size]
    at outputSized
  rw [cut.whole] at outputSized
  refine ⟨answer, ran, ⟨outputSized, ?_⟩, present⟩
  intro row inner entry rowBelow innerBelow entryBelow some
  rw [Nat.zero_add] at some ⊢
  exact regular.allQueries_output cut padding (modest inner innerBelow) answered rowBelow innerBelow
    entryBelow some

end Layer

end CausalAttention
