import CausalAttention.Proofs.PaddingMask

/-!
Padding in front of a sequence. Positions that a padding mask leaves out move all others, and with
them the blocks of a local layer. The answers for the others do not change.
-/

set_option autoImplicit false

namespace CausalAttention

open Exact

/-- A padding mask that leaves out the first positions and keeps those that follow. -/
structure TypedTensor.LeftPads (mask : TypedTensor ℚ) (batch pads count : Nat) : Prop where
  shape_eq : mask.shape = [batch, pads + count]
  get : ∀ row position, row < batch → position < pads + count →
    mask.tensor.get [row, position] = if position < pads then 0 else 1

namespace TypedTensor.LeftPads

variable {mask : TypedTensor ℚ} {batch pads count row position : Nat}

theorem counts (leftPads : mask.LeftPads batch pads count) : mask.Counts batch (pads + count) := by
  refine ⟨leftPads.shape_eq, ?_⟩
  intro row position rowBelow positionBelow
  refine ⟨if position < pads then 0 else 1, ?_⟩
  rw [leftPads.get row position rowBelow positionBelow]
  split
  · exact Nat.cast_zero.symm
  · exact Nat.cast_one.symm

theorem keptAt_eq [Falloff] (leftPads : mask.LeftPads batch pads count) (rowBelow : row < batch)
    (positionBelow : position < pads + count) :
    keptAt (some mask) row position = decide (pads ≤ position) := by
  rw [keptAt_of_counts (forall_mem_some leftPads.counts) rowBelow positionBelow]
  simp only [isDropped]
  rw [leftPads.get row position rowBelow positionBelow]
  by_cases before : position < pads
  · simp [before]
  · simp [before, Nat.le_of_not_lt before]

end TypedTensor.LeftPads

namespace Layer

variable [Falloff] {layer : Layer ℚ} {type : ElementType} {heads size batch pads count : Nat}

/-- Behind the positions that the mask leaves out, a window holds the same kept keys as without
them. -/
theorem Regular.windowMean_leftPads (regular : layer.Regular type heads size)
    {padded mask : TypedTensor ℚ} (sizes : padded.shape = [batch, pads + count, heads * size])
    (leftPads : mask.LeftPads batch pads count) {window row position : Nat} (rowBelow : row < batch)
    (positionBelow : position < count) (entry : Nat) :
    layer.windowMean type size (padded.slice 1 pads count) window none row position entry =
      layer.windowMean type size padded window (some mask) row (pads + position) entry := by
  apply regular.windowMean_part sizes (Nat.le_refl _) rowBelow positionBelow
  · intro key past
    rw [leftPads.keptAt_eq rowBelow (by omega)]
    exact (decide_eq_true (Nat.le_add_right pads key)).symm
  · intro key before _
    rw [leftPads.keptAt_eq rowBelow (by omega)]
    exact decide_eq_false (Nat.not_le.mpr before)

/-- Positions in front that the mask leaves out are invisible: a run on them and on the positions
that follow answers the latter as a run without them. -/
theorem left_padding_invisible (regular : layer.Regular type heads size)
    (admits : layer.reach.Admits (pads + count)) (nonempty : 1 ≤ count)
    {front hidden mask : TypedTensor ℚ} (frontSized : front.Sized type [batch, pads, heads * size])
    (sized : hidden.Sized type [batch, count, heads * size])
    (leftPads : mask.LeftPads batch pads count) :
    ∃ padded, front.append 1 hidden = .ok padded ∧
      (layer.Modest type heads size padded batch (pads + count) →
        ∃ alone whole, layer.run { hidden } = .ok alone ∧
          layer.run { hidden := padded, attentionMask := some mask } = .ok whole ∧
          whole.output.slice 1 pads count = alone.output) := by
  obtain ⟨padded, joined, paddedSized, _, behind⟩ := frontSized.append_parts sized
  refine ⟨padded, joined, ?_⟩
  intro modest
  rcases admits.exists_spans with ⟨window, spans⟩
  have wide := spans.wide (by omega)
  have modestAlone : layer.Modest type heads size hidden batch count := by
    rw [← behind]
    exact modest.part paddedSized.shape_eq (Nat.le_refl _)
  have spansAlone := spans.of_le (Nat.le_add_left count pads)
  obtain ⟨alone, aloneRan, aloneMeans⟩ :=
    regular.run_spans spansAlone sized nonempty forall_mem_none
      (fun query below => modestAlone.modestAt below window) false
  obtain ⟨whole, wholeRan, wholeMeans⟩ :=
    regular.run_spans spans paddedSized (by omega) (forall_mem_some leftPads.counts)
      (fun query below => modest.modestAt below window) false
  refine ⟨alone, whole, aloneRan, wholeRan, ?_⟩
  apply (wholeMeans.sized.slice 1 pads count).ext aloneMeans.sized
  intro row rowBelow position positionBelow entry entryBelow
  change position < count at positionBelow
  have later : pads + position < pads + count := Nat.add_lt_add_left positionBelow pads
  have inside : Shape.Contains [batch, count, heads * size] [row, position, entry] :=
    ⟨rowBelow, positionBelow, entryBelow, trivial⟩
  have kept : keptAt (some mask) row (pads + position) = true := by
    rw [leftPads.keptAt_eq rowBelow later]
    exact decide_eq_true (Nat.le_add_right pads position)
  have aloneMean := aloneMeans.mean row position entry rowBelow positionBelow entryBelow
  have wholeMean := wholeMeans.mean row (pads + position) entry rowBelow later entryBelow
  rw [Nat.zero_add] at aloneMean wholeMean
  calc (whole.output.slice 1 pads count).tensor.get [row, position, entry]
    _ = whole.output.tensor.get [row, pads + position, entry] :=
        wholeMeans.sized.get_slice 1 pads count inside
    _ = layer.windowMean type size padded window (some mask) row (pads + position) entry :=
        wholeMean (windowKeys_self wide kept)
    _ = layer.windowMean type size (padded.slice 1 pads count) window none row position entry :=
        (regular.windowMean_leftPads paddedSized.shape_eq leftPads rowBelow positionBelow
          entry).symm
    _ = layer.windowMean type size hidden window none row position entry := by rw [behind]
    _ = alone.output.tensor.get [row, position, entry] := (aloneMean (windowKeys_self wide rfl)).symm

omit [Falloff] in
/-- One position in front of two, for a layer that reaches three positions and for one with a
window of two. -/
theorem left_padding_invisible_three_positions :
    let _ : Falloff := Falloff.linear
    let layer (reach : Reach) : Layer ℚ := constant .float32 1 2 reach 1
    let padded : TypedTensor ℚ := ⟨.float32, Tensor.replicate [1, 3, 2] 1⟩
    let mask : TypedTensor ℚ :=
      ⟨.int64, Tensor.ofFn [1, 3] fun index => if index.getD 1 0 < 1 then 0 else 1⟩
    let everything := layer (.everything 3)
    let windowed := layer (.window (.int 2))
    (∃ alone whole, everything.run { hidden := padded.slice 1 1 2 } = .ok alone ∧
      everything.run { hidden := padded, attentionMask := some mask } = .ok whole ∧
      whole.output.slice 1 1 2 = alone.output) ∧
    ∃ alone whole, windowed.run { hidden := padded.slice 1 1 2 } = .ok alone ∧
      windowed.run { hidden := padded, attentionMask := some mask } = .ok whole ∧
      whole.output.slice 1 1 2 = alone.output := by
  intro falloff layer padded mask everything windowed
  have regular (reach : Reach) : (layer reach).Regular .float32 1 2 :=
    regular_constant rfl reach 1
  have sized : padded.Sized .float32 [1, 3, 1 * 2] := ⟨rfl, rfl⟩
  have joined : (padded.slice 1 0 1).append 1 (padded.slice 1 1 2) = .ok padded := by
    have parts : (padded.slice 1 0 1).append 1 (padded.slice 1 1 2) =
        .ok (padded.slice 1 0 (1 + 2)) := TypedTensor.append_slice 1 2 (by decide) (by decide)
    have extent : padded.tensor.extent 1 = 1 + 2 := rfl
    rwa [TypedTensor.slice_all extent] at parts
  have leftPads : mask.LeftPads 1 1 2 := by
    refine ⟨rfl, ?_⟩
    intro row position rowBelow positionBelow
    interval_cases row
    interval_cases position <;> rfl
  have invisible (reach : Reach) (admits : (layer reach).reach.Admits (1 + 2)) :
      ∃ alone whole, (layer reach).run { hidden := padded.slice 1 1 2 } = .ok alone ∧
        (layer reach).run { hidden := padded, attentionMask := some mask } = .ok whole ∧
        whole.output.slice 1 1 2 = alone.output := by
    obtain ⟨whole, made, same⟩ := left_padding_invisible (regular reach) admits (by decide)
      (sized.slice 1 0 1) (sized.slice 1 1 2) leftPads
    rw [joined] at made
    cases made
    exact same (modest_of_ones (layer reach) rfl)
  constructor
  · exact invisible (.everything 3) (Nat.le_refl 3)
  · exact invisible (.window (.int 2)) ⟨2, rfl, by decide⟩

end Layer

end CausalAttention
