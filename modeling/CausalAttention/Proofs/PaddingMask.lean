import CausalAttention.Proofs.Exact.Windows
import CausalAttention.Proofs.WindowedDense

/-!
Layers with a padding mask. Over exact numbers layers of both kinds answer a position with the mean
over a window: a local layer over its own, a global one over a window as long as the sequence.
-/

set_option autoImplicit false

namespace CausalAttention

open Exact

/-- A reach that lets the positions of a sequence see their windows, and not more. -/
def Reach.Spans (reach : Reach) (sequence window : Nat) : Prop :=
  match reach with
  | .everything limit => sequence ≤ limit ∧ sequence ≤ window
  | .window setting => setting = .int window ∧ 1 ≤ window

namespace Reach

theorem Spans.of_le {reach : Reach} {sequence fewer window : Nat}
    (spans : reach.Spans sequence window) (le : fewer ≤ sequence) : reach.Spans fewer window := by
  cases reach with
  | everything limit => exact ⟨Nat.le_trans le spans.1, Nat.le_trans le spans.2⟩
  | window setting => exact spans

theorem Spans.wide {reach : Reach} {sequence window : Nat} (spans : reach.Spans sequence window)
    (nonempty : 1 ≤ sequence) : 1 ≤ window := by
  cases reach with
  | everything limit => exact Nat.le_trans nonempty spans.2
  | window setting => exact spans.2

theorem Admits.exists_spans {reach : Reach} {sequence : Nat} (admits : reach.Admits sequence) :
    ∃ window, reach.Spans sequence window := by
  cases reach with
  | everything limit => exact ⟨sequence, admits, Nat.le_refl sequence⟩
  | window setting => exact admits

end Reach

variable [Falloff] {batch sequence window row query key : Nat} {mask : Option (TypedTensor ℚ)}

theorem markedAt_of_counts {mask : TypedTensor ℚ} (counts : mask.Counts batch sequence)
    (rowBelow : row < batch) (keyBelow : key < sequence) :
    markedAt mask row key = !isDropped (some mask) row key := by
  rcases counts.whole row key rowBelow keyBelow with ⟨count, entry⟩
  have nonzero : (Arithmetic.isNonzero (count : ℚ) : Bool) = !decide ((count : ℚ) = 0) :=
    decide_not
  have positive : (Arithmetic.isPositive (count : ℚ) : Bool) = !decide ((count : ℚ) = 0) := by
    change decide (0 < (count : ℚ)) = _
    rw [← decide_not]
    apply decide_eq_decide.mpr
    constructor
    · exact fun above => ne_of_gt above
    · exact fun other => lt_of_le_of_ne (Nat.cast_nonneg count) (Ne.symm other)
  unfold markedAt
  simp only [isDropped]
  rw [entry]
  split
  · exact nonzero
  · exact positive

theorem addedTerm_of_counts (counts : ∀ given ∈ mask, given.Counts batch sequence)
    (wide : sequence ≤ window) (rowBelow : row < batch) (queryBelow : query < sequence)
    (keyBelow : key < sequence) :
    Layer.addedTerm mask row query key = windowTerm window mask row query key := by
  have near : ¬key + window ≤ query := by omega
  unfold windowTerm
  rw [if_neg near, zero_add]
  cases mask with
  | none => rfl
  | some given =>
      have marked := markedAt_of_counts (counts given rfl) rowBelow keyBelow
      simp only [Layer.addedTerm]
      rw [termAt_padding (counts given rfl).shape_eq, marked]
      cases isDropped (some given) row key with
      | false => exact Int.cast_zero
      | true => exact rfl

namespace Layer

variable {layer : Layer ℚ} {type : ElementType} {heads size head : Nat} {hidden : TypedTensor ℚ}

theorem Regular.globalScore_padding (regular : layer.Regular type heads size)
    (counts : ∀ given ∈ mask, given.Counts batch sequence) (wide : sequence ≤ window)
    (rowBelow : row < batch) (queryBelow : query < sequence) (keyBelow : key < sequence) :
    layer.globalScore type size hidden mask 0 row query head key =
      layer.globalScore type size hidden (some (windowTerms batch sequence window mask)) 0 row query
        head key := by
  rw [regular.globalScore_eq, regular.denseScore_eq rowBelow queryBelow keyBelow, Nat.zero_add,
    addedTerm_of_counts counts wide rowBelow queryBelow keyBelow]

theorem Regular.globalAnswer_padding (regular : layer.Regular type heads size)
    (counts : ∀ given ∈ mask, given.Counts batch sequence) (wide : sequence ≤ window)
    (modest : ∀ query, query < sequence → layer.ModestAt type heads size hidden batch window query)
    {useCache : Bool} {answer : LayerOutput ℚ}
    (answered : layer.GlobalAnswer type heads size hidden batch 0 sequence
      ⟨hidden, none, mask, none, useCache⟩ answer) :
    layer.WindowAnswer type heads size hidden batch window mask 0 sequence answer := by
  refine ⟨answered.outputSized, ?_⟩
  intro row query entry rowBelow queryBelow entryBelow some
  rw [Nat.zero_add] at some ⊢
  have sameScores : ∀ head, head < heads → ∀ key, key < 0 + sequence →
      layer.globalScore type size hidden mask 0 row query head key =
        layer.globalScore type size hidden (Option.some (windowTerms batch sequence window mask)) 0
          row query head key := by
    intro head _ key keyBelow
    rw [Nat.zero_add] at keyBelow
    exact regular.globalScore_padding counts wide rowBelow queryBelow keyBelow
  calc answer.output.tensor.get [row, query, entry]
    _ = _ := answered.outputGet row query entry rowBelow queryBelow entryBelow
    _ = _ := regular.rowOutput_congr sameScores entry
    _ = _ := dense_row regular counts ((modest query queryBelow).of_le wide) rowBelow queryBelow
        some entry

/-- A run of either kind on all positions answers each of them with the mean over its window. -/
theorem Regular.run_spans (regular : layer.Regular type heads size)
    (spans : layer.reach.Spans sequence window)
    (sized : hidden.Sized type [batch, sequence, heads * size]) (nonempty : 1 ≤ sequence)
    (counts : ∀ given ∈ mask, given.Counts batch sequence)
    (modest : ∀ query, query < sequence → layer.ModestAt type heads size hidden batch window query)
    (useCache : Bool) :
    ∃ answer, layer.run ⟨hidden, none, mask, none, useCache⟩ = .ok answer ∧
      layer.WindowAnswer type heads size hidden batch window mask 0 sequence answer := by
  have padding : ∀ given ∈ mask, given.shape = [batch, sequence] :=
    fun given member => (counts given member).shape_eq
  cases reach : layer.reach with
  | everything limit =>
      rw [reach] at spans
      rcases spans with ⟨fits, wide⟩
      have run : layer.GlobalRun type heads size hidden batch sequence 0 sequence
          ⟨hidden, none, mask, none, useCache⟩ :=
        GlobalRun.whole sized (fun given member => Or.inl (padding given member)) forall_mem_none
          useCache
      have reached : 0 + sequence ≤ limit := by omega
      rcases run.answers regular reached forall_mem_none with ⟨answer, ran, answered⟩
      refine ⟨answer, ?_, regular.globalAnswer_padding counts wide modest answered⟩
      simp only [Layer.run, reach]
      exact ran
  | window setting =>
      rw [reach] at spans
      rcases spans with ⟨rfl, wide⟩
      obtain ⟨answer, ran, answered, _⟩ :=
        regular.run_all reach wide sized nonempty padding modest useCache
      exact ⟨answer, ran, answered⟩

end Layer

end CausalAttention
