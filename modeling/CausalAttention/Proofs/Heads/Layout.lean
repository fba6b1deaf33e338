import CausalAttention.Proofs.Tensor.Regroup
import CausalAttention.Rearrange

/-!
The two layouts of features: side by side at every position, or by head in front of the positions.
Splitting goes from the first to the second and merging back, without loss in either direction,
with blocks in front of the positions or without them.
-/

set_option autoImplicit false

namespace CausalAttention

namespace Tensor

variable {α : Type} [Inhabited α] {outer : Shape} {positions heads size : Nat}
  {whole split : Tensor α}

/-- The same entries in both layouts. Feature `f` of head `h` is the feature `h * size + f` of the
position. -/
structure IsSplit (outer : Shape) (positions heads size : Nat) (whole split : Tensor α) : Prop where
  wholeShape : whole.shape = outer ++ [positions, heads * size]
  splitShape : split.shape = outer ++ [heads, positions, size]
  get : ∀ place head position feature, Shape.Contains outer place → head < heads →
    position < positions → feature < size →
    split.get (place ++ [head, position, feature]) =
      whole.get (place ++ [position, head * size + feature])

theorem exists_isSplit_of_whole (known : outer.length = 1 ∨ outer.length = 2)
    (sizes : whole.shape = outer ++ [positions, heads * size]) :
    ∃ split, whole.splitHeads heads size = .ok split ∧
      IsSplit outer positions heads size whole split := by
  rcases splitHeads_reads known sizes with ⟨split, made, splitShape, splitGet⟩
  exact ⟨split, made, sizes, splitShape, splitGet⟩

theorem exists_isSplit_of_split (known : outer.length = 1 ∨ outer.length = 2)
    (sizes : split.shape = outer ++ [heads, positions, size]) :
    ∃ whole, split.mergeHeads heads size = .ok whole ∧
      IsSplit outer positions heads size whole split := by
  rcases mergeHeads_reads known sizes with ⟨whole, made, wholeShape, wholeGet⟩
  refine ⟨whole, made, wholeShape, sizes, ?_⟩
  intro place head position feature outside headBelow positionBelow featureBelow
  rcases head_of_feature head featureBelow with ⟨headOf, featureOf⟩
  rw [wholeGet place position _ outside positionBelow (feature_below headBelow featureBelow),
    headOf, featureOf]

theorem IsSplit.split_unique {other : Tensor α}
    (isSplit : IsSplit outer positions heads size whole split)
    (isOther : IsSplit outer positions heads size whole other) : other = split := by
  apply ext_get (isOther.splitShape.trans isSplit.splitShape.symm)
  intro index inside
  rw [isOther.splitShape] at inside
  rcases inside.exists_triple with
    ⟨place, head, position, feature, rfl, outside, headBelow, positionBelow, featureBelow⟩
  exact (isOther.get place head position feature outside headBelow positionBelow featureBelow).trans
    (isSplit.get place head position feature outside headBelow positionBelow featureBelow).symm

theorem IsSplit.whole_unique {other : Tensor α}
    (isSplit : IsSplit outer positions heads size whole split)
    (isOther : IsSplit outer positions heads size other split) : other = whole := by
  apply ext_get (isOther.wholeShape.trans isSplit.wholeShape.symm)
  intro index inside
  rw [isOther.wholeShape] at inside
  rcases inside.exists_pair with
    ⟨place, position, feature, rfl, outside, positionBelow, featureBelow⟩
  rcases head_below featureBelow with ⟨headBelow, innerBelow, joined⟩
  have both := (isOther.get place _ position _ outside headBelow positionBelow innerBelow).symm.trans
    (isSplit.get place _ position _ outside headBelow positionBelow innerBelow)
  rwa [joined] at both

theorem IsSplit.splitHeads_eq (known : outer.length = 1 ∨ outer.length = 2)
    (isSplit : IsSplit outer positions heads size whole split) :
    whole.splitHeads heads size = .ok split := by
  rcases exists_isSplit_of_whole known isSplit.wholeShape with ⟨other, made, isOther⟩
  rw [made, isSplit.split_unique isOther]

theorem IsSplit.mergeHeads_eq (known : outer.length = 1 ∨ outer.length = 2)
    (isSplit : IsSplit outer positions heads size whole split) :
    split.mergeHeads heads size = .ok whole := by
  rcases exists_isSplit_of_split known isSplit.splitShape with ⟨other, made, isOther⟩
  rw [made, isSplit.whole_unique isOther]

end Tensor

namespace TypedTensor

variable {α : Type} {typed result : TypedTensor α}

/-- A machine answers what the operation on tensors of any size answers, as long as the requested
sizes are words and both they and the sizes of the answer are those of a view. -/
theorem regroup_eq_ok_iff {sizes : Except Failure (List Int)}
    {change : Tensor α → Except Failure (Tensor α)} :
    typed.regroup sizes change = .ok result ↔
      ∃ requested, sizes = .ok requested ∧ Memory.requireSizes requested = .ok () ∧
        change typed.tensor = .ok result.tensor ∧ result.elementType = typed.elementType ∧
        Memory.requireView (requested.map Int.toNat) = .ok () ∧
        Memory.requireView result.shape = .ok () := by
  constructor
  · intro made
    rcases exists_of_bind_ok made with ⟨requested, asked, made⟩
    rcases exists_of_bind_ok made with ⟨_, words, made⟩
    rcases exists_of_bind_ok made with ⟨changed, relaid, made⟩
    rcases exists_of_bind_ok made with ⟨_, view, made⟩
    rcases exists_of_bind_ok made with ⟨_, resultView, made⟩
    cases made
    rcases exists_of_map_ok relaid with ⟨tensor, answered, rfl⟩
    exact ⟨requested, asked, words, answered, rfl, view, resultView⟩
  · rintro ⟨requested, asked, words, changed, sameType, view, resultView⟩
    rcases result with ⟨type, tensor⟩
    obtain rfl : type = typed.elementType := sameType
    have relaid : typed.relayout change = .ok ⟨typed.elementType, tensor⟩ := by
      unfold relayout
      rw [changed]
      rfl
    exact (bind_of_ok asked).trans <| (bind_of_ok words).trans <| (bind_of_ok relaid).trans <|
      (bind_of_ok view).trans <| bind_of_ok resultView

/-- Of two changes that undo each other a machine answers the second with the tensor that the first
was asked about. -/
theorem eq_of_regroup_regroup {sizes back : Except Failure (List Int)}
    {change undo : Tensor α → Except Failure (Tensor α)} {between : TypedTensor α}
    (undoes : ∀ middle, change typed.tensor = .ok middle → undo middle = .ok typed.tensor)
    (made : typed.regroup sizes change = .ok between)
    (unmade : between.regroup back undo = .ok result) : result = typed := by
  obtain ⟨_, _, _, changed, betweenType, _⟩ := regroup_eq_ok_iff.mp made
  obtain ⟨_, _, _, undone, resultType, _⟩ := regroup_eq_ok_iff.mp unmade
  rw [undoes _ changed] at undone
  rcases result with ⟨type, tensor⟩
  cases undone
  cases resultType.trans betweenType
  rfl

section Limits

variable [Inhabited α] {outer : Shape} {positions heads size : Nat} {whole split : TypedTensor α}

omit [Inhabited α] in
theorem map_toNat_sizes (sizes : Shape) :
    (sizes.map fun (size : Nat) => (size : Int)).map Int.toNat = sizes := by
  simp [Function.comp_def]

/-- Within its limits a machine splits the features of every tensor into heads. -/
theorem exists_splitHeads (known : outer.length = 1 ∨ outer.length = 2)
    (sizes : whole.shape = outer ++ [positions, heads * size])
    (words : Memory.requireSizes
      ((outer ++ [positions, heads, size]).map fun (size : Nat) => (size : Int)) = .ok ())
    (view : Memory.requireView (outer ++ [positions, heads, size]) = .ok ())
    (splitView : Memory.requireView (outer ++ [heads, positions, size]) = .ok ()) :
    ∃ split : TypedTensor α, whole.splitHeads heads size = .ok split ∧
      split.elementType = whole.elementType ∧
      Tensor.IsSplit outer positions heads size whole.tensor split.tensor := by
  rcases Tensor.exists_isSplit_of_whole known sizes with ⟨split, made, isSplit⟩
  refine ⟨⟨whole.elementType, split⟩, ?_, rfl, isSplit⟩
  refine regroup_eq_ok_iff.mpr ⟨_, Tensor.splitSizes_eq known sizes, words, made, rfl, ?_, ?_⟩
  · rw [map_toNat_sizes]
    exact view
  · exact (congrArg Memory.requireView isSplit.splitShape).trans splitView

/-- Within its limits a machine merges the heads of every tensor. -/
theorem exists_mergeHeads (known : outer.length = 1 ∨ outer.length = 2)
    (sizes : split.shape = outer ++ [heads, positions, size])
    (words : Memory.requireSizes
      ((outer ++ [positions, heads * size]).map fun (size : Nat) => (size : Int)) = .ok ())
    (view : Memory.requireView (outer ++ [positions, heads * size]) = .ok ()) :
    ∃ whole : TypedTensor α, split.mergeHeads heads size = .ok whole ∧
      whole.elementType = split.elementType ∧
      Tensor.IsSplit outer positions heads size whole.tensor split.tensor := by
  rcases Tensor.exists_isSplit_of_split known sizes with ⟨whole, made, isSplit⟩
  refine ⟨⟨split.elementType, whole⟩, ?_, rfl, isSplit⟩
  refine regroup_eq_ok_iff.mpr ⟨_, Tensor.mergeSizes_eq known sizes, words, made, rfl, ?_, ?_⟩
  · rw [map_toNat_sizes]
    exact view
  · exact (congrArg Memory.requireView isSplit.wholeShape).trans view

end Limits

end TypedTensor

namespace Tensor

variable {α : Type} [Inhabited α]

/-- Splitting features into heads and merging heads are inverse to each other on tensors of all
sizes, and a head's features are neighbours in the layout without heads. A machine that answers
answers the same. -/
theorem splitting_inverts_merging {outer : Shape} (known : outer.length = 1 ∨ outer.length = 2)
    (positions heads size : Nat) :
    (∀ whole : Tensor α, whole.shape = outer ++ [positions, heads * size] →
      ∃ split, whole.splitHeads heads size = .ok split ∧
        IsSplit outer positions heads size whole split ∧
        split.mergeHeads heads size = .ok whole) ∧
    (∀ split : Tensor α, split.shape = outer ++ [heads, positions, size] →
      ∃ whole, split.mergeHeads heads size = .ok whole ∧
        IsSplit outer positions heads size whole split ∧
        whole.splitHeads heads size = .ok split) ∧
    (∀ whole split again : TypedTensor α, whole.shape = outer ++ [positions, heads * size] →
      whole.splitHeads heads size = .ok split → split.mergeHeads heads size = .ok again →
      again = whole) ∧
    ∀ split whole again : TypedTensor α, split.shape = outer ++ [heads, positions, size] →
      split.mergeHeads heads size = .ok whole → whole.splitHeads heads size = .ok again →
      again = split := by
  have splitting (whole : Tensor α) (sizes : whole.shape = outer ++ [positions, heads * size]) :
      ∃ split, whole.splitHeads heads size = .ok split ∧
        IsSplit outer positions heads size whole split ∧
        split.mergeHeads heads size = .ok whole := by
    rcases exists_isSplit_of_whole known sizes with ⟨split, made, isSplit⟩
    exact ⟨split, made, isSplit, isSplit.mergeHeads_eq known⟩
  have merging (split : Tensor α) (sizes : split.shape = outer ++ [heads, positions, size]) :
      ∃ whole, split.mergeHeads heads size = .ok whole ∧
        IsSplit outer positions heads size whole split ∧
        whole.splitHeads heads size = .ok split := by
    rcases exists_isSplit_of_split known sizes with ⟨whole, made, isSplit⟩
    exact ⟨whole, made, isSplit, isSplit.splitHeads_eq known⟩
  refine ⟨splitting, merging, ?_, ?_⟩
  · intro whole split again sizes made merged
    refine TypedTensor.eq_of_regroup_regroup ?_ made merged
    intro middle answered
    rcases splitting whole.tensor sizes with ⟨other, otherMade, _, back⟩
    cases answered.symm.trans otherMade
    exact back
  · intro split whole again sizes made splitAgain
    refine TypedTensor.eq_of_regroup_regroup ?_ made splitAgain
    intro middle answered
    rcases merging split.tensor sizes with ⟨other, otherMade, _, back⟩
    cases answered.symm.trans otherMade
    exact back

/-- Two heads of two features at three positions in each of two blocks, where the number of heads
is the number of blocks and the size of a head. -/
theorem splitting_inverts_merging_two_blocks :
    let whole : Tensor Nat := ofFn [1, 2, 3, 4] (Shape.offset [1, 2, 3, 4])
    ([1, 2] : Shape).length = 2 ∧ whole.shape = [1, 2] ++ [3, 2 * 2] ∧
      ∃ split, whole.splitHeads (2 : Nat) (2 : Nat) = .ok split ∧
        split.get [0, 1, 1, 2, 0] = whole.get [0, 1, 2, 2] ∧
        split.mergeHeads (2 : Nat) (2 : Nat) = .ok whole := by
  intro whole
  have known : ([1, 2] : Shape).length = 1 ∨ ([1, 2] : Shape).length = 2 := Or.inr rfl
  have sizes : whole.shape = [1, 2] ++ [3, 2 * 2] := rfl
  obtain ⟨split, made, isSplit, back⟩ := (splitting_inverts_merging known 3 2 2).1 whole sizes
  refine ⟨rfl, sizes, split, made, ?_, back⟩
  exact isSplit.get [0, 1] 1 2 0 (by decide) (by decide) (by decide) (by decide)

end Tensor

end CausalAttention
