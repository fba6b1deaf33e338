import CausalAttention.Proofs.Exact.Average
import CausalAttention.Proofs.Layer.Construction
import CausalAttention.Proofs.Layer.Global
import CausalAttention.Proofs.Layer.Local
import Mathlib.Tactic.IntervalCases

/-!
The rows of a layer over exact numbers. When the products of queries and keys are small, hidden
keys weigh nothing, and an output row is a mean over the visible keys by their positions in the
sequence, whatever the layout in which they were scored.
-/

set_option autoImplicit false

namespace CausalAttention

open Exact

variable [Falloff]

namespace Layer

variable {layer : Layer ℚ} {type : ElementType} {heads size batch sequence window : Nat}
  {states : TypedTensor ℚ}

def pairScore (layer : Layer ℚ) (type : ElementType) (size : Nat) (states : TypedTensor ℚ)
    (row query head key : Nat) : ℚ :=
  Attended.similarity type
    (headRow size head (states.projected layer.parameters.query [row, query]))
    (headRow size head (states.projected layer.parameters.key [row, key]))

/-- Every product of a query with a key of the sequence is at most 4000 in magnitude. -/
def Modest (layer : Layer ℚ) (type : ElementType) (heads size : Nat) (states : TypedTensor ℚ)
    (batch sequence : Nat) : Prop :=
  ∀ row query head key, row < batch → query < sequence → head < heads → key < sequence →
    |layer.pairScore type size states row query head key| ≤ 4000

/-- Every product of one query with a key of its window is at most 4000 in magnitude. -/
def ModestAt (layer : Layer ℚ) (type : ElementType) (heads size : Nat) (states : TypedTensor ℚ)
    (batch window query : Nat) : Prop :=
  ∀ row head key, row < batch → head < heads → key ≤ query → query < key + window →
    |layer.pairScore type size states row query head key| ≤ 4000

theorem Modest.modestAt (modest : layer.Modest type heads size states batch sequence) {query : Nat}
    (below : query < sequence) (window : Nat) :
    layer.ModestAt type heads size states batch window query := by
  intro row head key rowBelow headBelow past _
  exact modest row query head key rowBelow below headBelow (Nat.lt_of_le_of_lt past below)

theorem ModestAt.of_le {wider query : Nat}
    (modest : layer.ModestAt type heads size states batch wider query) (le : window ≤ wider) :
    layer.ModestAt type heads size states batch window query := by
  intro row head key rowBelow headBelow past near
  exact modest row head key rowBelow headBelow past (by omega)

omit [Falloff] in
theorem modest_of_ones :
    let _ : Falloff := Falloff.linear
    ∀ layer : Layer ℚ, layer.parameters = (Parameters.constant .float32 2 1).convert .float32 →
      layer.Modest .float32 1 2 ⟨.float32, Tensor.replicate [1, 3, 2] 1⟩ 1 3 := by
  intro falloff layer ones row query head key rowBelow queryBelow headBelow keyBelow
  have score : layer.pairScore .float32 2 ⟨.float32, Tensor.replicate [1, 3, 2] 1⟩ row query head
      key = 8 := by
    unfold pairScore
    rw [ones]
    interval_cases row
    interval_cases head
    interval_cases query <;> interval_cases key <;> decide +kernel
  rw [score]
  norm_num

def meanOutput (layer : Layer ℚ) (type : ElementType) (size : Nat) (states : TypedTensor ℚ)
    (visible : Finset Nat) (scores : Nat → Nat → ℚ) (row entry : Nat) : ℚ :=
  layer.outputEntry type (fun feature =>
    average visible (scores (feature / size))
      fun key => states.projected layer.parameters.value [row, key] feature) entry

/-- The kept keys in the window of a query. -/
def windowKeys (window : Nat) (kept : Nat → Bool) (query : Nat) : Finset Nat :=
  (Finset.range (query + 1)).filter fun key => query < key + window ∧ kept key = true

def windowMean (layer : Layer ℚ) (type : ElementType) (size : Nat) (states : TypedTensor ℚ)
    (window : Nat) (mask : Option (TypedTensor ℚ)) (row query entry : Nat) : ℚ :=
  layer.meanOutput type size states (windowKeys window (keptAt mask row) query)
    (layer.pairScore type size states row query) row entry

theorem Regular.hiddenScore_eq (regular : layer.Regular type heads size) :
    Attended.hiddenScore layer.maskedBias = -1000000000 := by
  have inside : Shape.Contains (TypedTensor.scalar .float32
      (Arithmetic.ofInteger .float32 hiddenScore : ℚ)).shape [] := trivial
  have entry : layer.maskedBias.tensor.get [] = -1000000000 := by
    rw [regular.maskedBias, TypedTensor.get_convert type _ inside,
      cast_floating _ regular.floating]
    rfl
  have lowest : ((Arithmetic.lowestSingle : Int) : ℚ) ≤ -1000000000 := by
    have whole : Arithmetic.lowestSingle ≤ -1000000000 := by decide
    exact_mod_cast whole
  unfold Attended.hiddenScore
  rw [cast_floating _ rfl, entry]
  exact max_eq_right lowest

theorem rowWeight_of_stands (floating : type.isFloating = true) {slots : Nat}
    {scores : Nat → Nat → ℚ} {head : Nat} {visible : Finset Nat}
    (stands : Stands slots (scores head) visible) {slot : Nat} (below : slot < slots) :
    rowWeight type none slots scores head slot =
      if slot ∈ visible then liveShare visible (scores head) slot else 0 :=
  stands.share_eq floating below

theorem Regular.rowOutput_of_stands (regular : layer.Regular type heads size) {slots : Nat}
    {scores values : Nat → Nat → ℚ} {visible : Finset Nat}
    (stands : ∀ head, head < heads → Stands slots (scores head) visible) (entry : Nat) :
    layer.rowOutput type size none slots scores values entry =
      layer.outputEntry type (fun feature =>
        average visible (scores (feature / size)) fun slot => values slot feature) entry := by
  apply regular.outputEntry_congr
  intro feature below
  exact (stands (feature / size) (head_below below).1).dot_share regular.floating _

theorem Regular.meanOutput_congr (regular : layer.Regular type heads size)
    {visible : Finset Nat} {scores others : Nat → Nat → ℚ} {row : Nat}
    (same : ∀ head, head < heads → ∀ key ∈ visible, scores head key = others head key)
    (entry : Nat) :
    layer.meanOutput type size states visible scores row entry =
      layer.meanOutput type size states visible others row entry := by
  apply regular.outputEntry_congr
  intro feature below
  exact average_congr (same (feature / size) (head_below below).1) (fun _ _ => rfl)

def seenSlots (blocks : Blocks) (window : Nat) (kept : Nat → Bool) (block inner : Nat) :
    Finset Nat :=
  (Finset.range (window + blocks.length)).filter fun slot =>
    blocks.sees window kept block inner slot = true

omit [Falloff] in
theorem mem_windowKeys {kept : Nat → Bool} {query key : Nat} :
    key ∈ windowKeys window kept query ↔
      key ≤ query ∧ query < key + window ∧ kept key = true := by
  unfold windowKeys
  rw [Finset.mem_filter, Finset.mem_range, Nat.lt_succ_iff]

omit [Falloff] in
theorem windowKeys_self {kept : Nat → Bool} {query : Nat} (wide : 1 ≤ window)
    (keeps : kept query = true) : (windowKeys window kept query).Nonempty :=
  ⟨query, mem_windowKeys.mpr ⟨Nat.le_refl query, Nat.lt_add_of_pos_right wide, keeps⟩⟩

variable {blocks : Blocks} {kept : Nat → Bool} {block inner slot : Nat}

omit [Falloff] in
theorem mem_seenSlots (cut : blocks.Cut sequence window) :
    slot ∈ seenSlots blocks window kept block inner ↔
      slot < window + blocks.length ∧ window ≤ block * blocks.length + slot ∧
        block * blocks.length + slot - window ∈
          windowKeys window kept (block * blocks.length + inner) := by
  have lengthPositive := cut.lengthPositive
  unfold seenSlots
  rw [Finset.mem_filter, Finset.mem_range, mem_windowKeys]
  unfold Blocks.sees Blocks.position?
  by_cases front : block * blocks.length + slot < window
  · rw [if_pos front]
    constructor
    · rintro ⟨_, absurd⟩
      contradiction
    · rintro ⟨_, behind, _⟩
      omega
  · rw [if_neg front]
    simp only [Bool.and_eq_true, decide_eq_true_eq]
    constructor
    · rintro ⟨below, ⟨past, keeps⟩, near⟩
      exact ⟨below, Nat.le_of_not_lt front, past, near, keeps⟩
    · rintro ⟨below, _, past, near, keeps⟩
      exact ⟨below, ⟨past, keeps⟩, near⟩

omit [Falloff] in
theorem image_seenSlots (cut : blocks.Cut sequence window) (innerBelow : inner < blocks.length) :
    (seenSlots blocks window kept block inner).image
        (fun slot => block * blocks.length + slot - window) =
      windowKeys window kept (block * blocks.length + inner) := by
  apply Finset.ext
  intro key
  rw [Finset.mem_image]
  constructor
  · rintro ⟨slot, seen, rfl⟩
    exact ((mem_seenSlots cut).mp seen).2.2
  · intro member
    rcases mem_windowKeys.mp member with ⟨past, near, _⟩
    have place : block * blocks.length + (key + window - block * blocks.length) - window = key := by
      omega
    refine ⟨key + window - block * blocks.length, (mem_seenSlots cut).mpr ?_, place⟩
    rw [place]
    exact ⟨by omega, by omega, member⟩

omit [Falloff] in
theorem injOn_seenSlots (cut : blocks.Cut sequence window) :
    Set.InjOn (fun slot => block * blocks.length + slot - window)
      (seenSlots blocks window kept block inner) := by
  intro slot member other otherMember same
  rcases (mem_seenSlots cut).mp (Finset.mem_coe.mp member) with ⟨_, behind, _⟩
  rcases (mem_seenSlots cut).mp (Finset.mem_coe.mp otherMember) with ⟨_, otherBehind, _⟩
  change block * blocks.length + slot - window = block * blocks.length + other - window at same
  omega

theorem Regular.localScore_eq (regular : layer.Regular type heads size)
    (cut : blocks.Cut sequence window) {mask : Option (TypedTensor ℚ)}
    (padding : ∀ given ∈ mask, given.shape = [batch, sequence]) {row head : Nat}
    (slotBelow : slot < window + blocks.length) :
    layer.localScore type size states blocks window mask row block inner head slot =
      if slot ∈ seenSlots blocks window (keptAt mask row) block inner then
        layer.pairScore type size states row (block * blocks.length + inner) head
          (block * blocks.length + slot - window)
      else -1000000000 := by
  have shown : shows blocks window mask row block inner slot =
      blocks.sees window (keptAt mask row) block inner slot := by
    cases mask with
    | none => rfl
    | some given =>
        have rankEq : given.rank = 2 := congrArg List.length (padding given rfl)
        simp only [shows, rankEq]
        rfl
  unfold localScore
  rw [shown, regular.hiddenScore_eq]
  by_cases seen : slot ∈ seenSlots blocks window (keptAt mask row) block inner
  · have sees := (Finset.mem_filter.mp seen).2
    have behind := ((mem_seenSlots cut).mp seen).2.1
    rw [if_pos sees, if_pos seen]
    unfold Blocks.position?
    rw [if_neg (Nat.not_lt.mpr behind)]
    rfl
  · have hidden : ¬blocks.sees window (keptAt mask row) block inner slot = true := by
      intro sees
      exact seen (Finset.mem_filter.mpr ⟨Finset.mem_range.mpr slotBelow, sees⟩)
    rw [if_neg hidden, if_neg seen]

theorem Regular.localScore_stands (regular : layer.Regular type heads size)
    (cut : blocks.Cut sequence window) {mask : Option (TypedTensor ℚ)}
    (padding : ∀ given ∈ mask, given.shape = [batch, sequence])
    (modest : layer.ModestAt type heads size states batch window (block * blocks.length + inner))
    {row head : Nat} (rowBelow : row < batch) (headBelow : head < heads)
    (innerBelow : inner < blocks.length)
    (some : (windowKeys window (keptAt mask row) (block * blocks.length + inner)).Nonempty) :
    Stands (window + blocks.length)
      (layer.localScore type size states blocks window mask row block inner head)
      (seenSlots blocks window (keptAt mask row) block inner) := by
  refine ⟨?_, ?_, ?_⟩
  · intro slot member
    exact ((mem_seenSlots cut).mp member).1
  · rw [← image_seenSlots cut innerBelow] at some
    exact Finset.image_nonempty.mp some
  · intro slot below hidden high highMember
    rcases (mem_seenSlots cut).mp highMember with ⟨highBelow, _, shown⟩
    rcases mem_windowKeys.mp shown with ⟨past, near, _⟩
    -- A hidden slot has the score of hidden keys, far below any product.
    have small := abs_le.mp (modest row head (block * blocks.length + high - window) rowBelow
      headBelow past near)
    rw [regular.localScore_eq cut padding below, if_neg hidden,
      regular.localScore_eq cut padding highBelow, if_pos highMember]
    linarith [small.1]

/-- A query of a block takes the mean over the kept keys of its window. -/
theorem Regular.localOutput_eq (regular : layer.Regular type heads size)
    (cut : blocks.Cut sequence window) {mask : Option (TypedTensor ℚ)}
    (padding : ∀ given ∈ mask, given.shape = [batch, sequence])
    (modest : layer.ModestAt type heads size states batch window (block * blocks.length + inner))
    {row : Nat} (rowBelow : row < batch) (innerBelow : inner < blocks.length)
    (some : (windowKeys window (keptAt mask row) (block * blocks.length + inner)).Nonempty)
    (entry : Nat) :
    layer.rowOutput type size none (window + blocks.length)
        (layer.localScore type size states blocks window mask row block inner)
        (layer.localValue type states blocks window row block) entry =
      layer.windowMean type size states window mask row (block * blocks.length + inner) entry := by
  have stands (head : Nat) (headBelow : head < heads) :=
    regular.localScore_stands cut padding modest rowBelow headBelow innerBelow some
  rw [regular.rowOutput_of_stands stands]
  apply regular.outputEntry_congr
  intro feature below
  rw [← image_seenSlots cut innerBelow]
  apply average_image (injOn_seenSlots cut)
  · intro slot member
    rw [regular.localScore_eq cut padding ((mem_seenSlots cut).mp member).1, if_pos member]
  · intro slot member
    have behind := ((mem_seenSlots cut).mp member).2.1
    unfold localValue Blocks.position?
    rw [if_neg (Nat.not_lt.mpr behind)]
    rfl

theorem Regular.localWeight_eq (regular : layer.Regular type heads size)
    (cut : blocks.Cut sequence window) {mask : Option (TypedTensor ℚ)}
    (padding : ∀ given ∈ mask, given.shape = [batch, sequence])
    (modest : layer.ModestAt type heads size states batch window (block * blocks.length + inner))
    {row head : Nat} (rowBelow : row < batch) (headBelow : head < heads)
    (innerBelow : inner < blocks.length)
    (some : (windowKeys window (keptAt mask row) (block * blocks.length + inner)).Nonempty)
    (slotBelow : slot < window + blocks.length) :
    rowWeight type none (window + blocks.length)
        (layer.localScore type size states blocks window mask row block inner) head slot =
      if slot ∈ seenSlots blocks window (keptAt mask row) block inner then
        liveShare (windowKeys window (keptAt mask row) (block * blocks.length + inner))
          (layer.pairScore type size states row (block * blocks.length + inner) head)
          (block * blocks.length + slot - window)
      else 0 := by
  have stands :=
    regular.localScore_stands cut padding modest rowBelow headBelow innerBelow some
  rw [rowWeight_of_stands regular.floating stands slotBelow]
  by_cases seen : slot ∈ seenSlots blocks window (keptAt mask row) block inner
  · rw [if_pos seen, if_pos seen, ← image_seenSlots cut innerBelow]
    refine liveShare_image (injOn_seenSlots cut) ?_ seen
    intro other member
    rw [regular.localScore_eq cut padding ((mem_seenSlots cut).mp member).1, if_pos member]
  · rw [if_neg seen, if_neg seen]

/-- A run on all positions answers each of them with the mean over its window. -/
theorem Regular.allQueries_output (regular : layer.Regular type heads size)
    (cut : blocks.Cut sequence window) {mask : Option (TypedTensor ℚ)}
    (padding : ∀ given ∈ mask, given.shape = [batch, sequence])
    {row position entry : Nat}
    (modest : layer.ModestAt type heads size states batch window position) {answer : Attended ℚ}
    (answered : layer.LocalAnswer type heads size states batch blocks window mask none
      blocks.allQueries answer) (rowBelow : row < batch) (positionBelow : position < sequence)
    (entryBelow : entry < heads * size)
    (some : (windowKeys window (keptAt mask row) position).Nonempty) :
    answer.output.tensor.get [row, position, entry] =
      layer.windowMean type size states window mask row position entry := by
  have innerBelow := Nat.mod_lt position cut.lengthPositive
  have place : position / blocks.length * blocks.length + position % blocks.length = position :=
    Nat.div_add_mod' position blocks.length
  rw [← place] at modest some
  have mean := regular.localOutput_eq cut padding modest rowBelow innerBelow some entry
  rw [place] at mean
  exact (answered.position_row cut rowBelow positionBelow entryBelow).trans mean

theorem Regular.allQueries_weight (regular : layer.Regular type heads size)
    (cut : blocks.Cut sequence window) {mask : Option (TypedTensor ℚ)}
    (padding : ∀ given ∈ mask, given.shape = [batch, sequence])
    (modest : layer.ModestAt type heads size states batch window (block * blocks.length + inner))
    {answer : Attended ℚ}
    (answered : layer.LocalAnswer type heads size states batch blocks window mask none
      blocks.allQueries answer) {row head : Nat} (rowBelow : row < batch)
    (headBelow : head < heads) (blockBelow : block < blocks.count)
    (innerBelow : inner < blocks.length) (slotBelow : slot < window + blocks.length)
    (some : (windowKeys window (keptAt mask row) (block * blocks.length + inner)).Nonempty) :
    answer.weights.tensor.get [row, block, head, inner, slot] =
      if slot ∈ seenSlots blocks window (keptAt mask row) block inner then
        liveShare (windowKeys window (keptAt mask row) (block * blocks.length + inner))
          (layer.pairScore type size states row (block * blocks.length + inner) head)
          (block * blocks.length + slot - window)
      else 0 := by
  refine (answered.weightsGet row block head inner slot rowBelow blockBelow headBelow innerBelow
    slotBelow).trans ?_
  simp only [Blocks.allQueries, Nat.zero_add]
  exact regular.localWeight_eq cut padding modest rowBelow headBelow innerBelow some slotBelow

theorem Regular.lastQuery_output (regular : layer.Regular type heads size)
    (cut : blocks.Cut sequence window) {mask : Option (TypedTensor ℚ)}
    (padding : ∀ given ∈ mask, given.shape = [batch, sequence])
    (modest : layer.ModestAt type heads size states batch window (sequence - 1))
    {answer : Attended ℚ}
    (answered : layer.LocalAnswer type heads size states batch blocks window mask none
      blocks.lastQuery answer) {row entry : Nat} (rowBelow : row < batch)
    (entryBelow : entry < heads * size)
    (some : (windowKeys window (keptAt mask row) (sequence - 1)).Nonempty) :
    answer.output.tensor.get [row, 0, entry] =
      layer.windowMean type size states window mask row (sequence - 1) entry := by
  have place := cut.lastPosition
  have innerBelow : blocks.length - 1 < blocks.length := Nat.sub_lt cut.lengthPositive Nat.one_pos
  rw [← place] at modest some
  have mean := regular.localOutput_eq cut padding modest rowBelow innerBelow some entry
  rw [place] at mean
  refine (answered.outputGet row 0 entry rowBelow Nat.one_pos entryBelow).trans ?_
  simp only [Blocks.lastQuery, Nat.zero_div, Nat.zero_mod, Nat.add_zero]
  exact mean

/-! ### Global rows -/

def addedTerm (mask : Option (TypedTensor ℚ)) (row query key : Nat) : ℚ :=
  match mask with
  | none => 0
  | some given => termAt given row query key

theorem Regular.globalScore_eq (regular : layer.Regular type heads size)
    (mask : Option (TypedTensor ℚ)) (first row query head key : Nat) :
    layer.globalScore type size states mask first row query head key =
      (if key ≤ first + query then
        layer.pairScore type size states row (first + query) head key
      else -1000000000) + addedTerm mask row query key := by
  unfold globalScore
  rw [regular.hiddenScore_eq]
  cases mask with
  | none => exact (add_zero _).symm
  | some given => rfl

section Answer

variable {mask : Option (TypedTensor ℚ)} {inputStates : TypedTensor ℚ}
  {past : Option (Cache ℚ)} {useCache : Bool} {first count row query head key entry : Nat}
  {visible : Finset Nat} {answer : LayerOutput ℚ}

theorem Regular.globalAnswer_output (regular : layer.Regular type heads size)
    (answered : layer.GlobalAnswer type heads size states batch first count
      ⟨inputStates, past, mask, none, useCache⟩ answer) (rowBelow : row < batch)
    (queryBelow : query < count) (entryBelow : entry < heads * size)
    (stands : ∀ head, head < heads → Stands (first + count)
      (layer.globalScore type size states mask first row query head) visible) :
    answer.output.tensor.get [row, query, entry] =
      layer.meanOutput type size states visible
        (layer.globalScore type size states mask first row query) row entry :=
  (answered.outputGet row query entry rowBelow queryBelow entryBelow).trans
    (regular.rowOutput_of_stands stands entry)

theorem Regular.globalAnswer_weight (regular : layer.Regular type heads size)
    (answered : layer.GlobalAnswer type heads size states batch first count
      ⟨inputStates, past, mask, none, useCache⟩ answer) (rowBelow : row < batch)
    (headBelow : head < heads) (queryBelow : query < count) (keyBelow : key < first + count)
    (stands : Stands (first + count)
      (layer.globalScore type size states mask first row query head) visible) :
    answer.weights.tensor.get [row, head, query, key] =
      if key ∈ visible then
        liveShare visible (layer.globalScore type size states mask first row query head) key
      else 0 :=
  (answered.weightsGet row head query key rowBelow headBelow queryBelow keyBelow).trans
    (rowWeight_of_stands regular.floating stands keyBelow)

end Answer

end Layer

end CausalAttention
