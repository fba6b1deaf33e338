import CausalAttention.Proofs.Tensor.Products

/-!
Slices along an axis. A tensor is the join of its slices, and the positions of a slice read the
positions of the tensor from the start of the slice on.
-/

set_option autoImplicit false

namespace CausalAttention

namespace Shape

theorem contains_set {shape : Shape} {index : List Nat} {size coordinate : Nat} (axis : Nat)
    (inside : Contains shape index) (below : coordinate < size) :
    Contains (shape.set axis size) (index.set axis coordinate) := by
  induction shape generalizing index axis with
  | nil =>
      rw [contains_nil_iff.mp inside]
      trivial
  | cons extent shape ih =>
      rcases contains_cons_iff.mp inside with ⟨first, rest, rfl, firstBelow, inner⟩
      cases axis with
      | zero => exact ⟨below, inner⟩
      | succ axis => exact ⟨firstBelow, ih axis inner⟩

theorem Contains.getD_lt {shape : Shape} {index : List Nat} {axis : Nat}
    (inside : Contains shape index) (within : axis < shape.length) :
    index.getD axis 0 < shape.getD axis 0 := by
  induction shape generalizing index axis with
  | nil => simp at within
  | cons extent shape ih =>
      rcases contains_cons_iff.mp inside with ⟨first, rest, rfl, firstBelow, inner⟩
      cases axis with
      | zero => simpa using firstBelow
      | succ axis => simpa using ih inner (Nat.lt_of_succ_lt_succ within)

theorem set_getD_self {β : Type} (entries : List β) (axis : Nat) (fallback : β) :
    entries.set axis (entries.getD axis fallback) = entries := by
  induction entries generalizing axis with
  | nil => rfl
  | cons first rest ih =>
      cases axis with
      | zero => rfl
      | succ axis => simpa using ih axis

theorem getD_set_self {β : Type} {entries : List β} {axis : Nat}
    (within : axis < entries.length) (value fallback : β) :
    (entries.set axis value).getD axis fallback = value := by
  simp [List.getD_eq_getElem?_getD, within]

theorem Contains.getD_set_lt {shape : Shape} {index : List Nat} {axis size : Nat}
    (within : axis < shape.length) (inside : Contains (shape.set axis size) index) :
    index.getD axis 0 < size := by
  have below := inside.getD_lt (by rw [List.length_set]; exact within)
  rwa [getD_set_self within] at below

end Shape

namespace Tensor

variable {α : Type} [Inhabited α] {tensor : Tensor α}

def slice (axis start count : Nat) (tensor : Tensor α) : Tensor α :=
  ofFn (tensor.shape.set axis count) fun index =>
    tensor.get (index.set axis (start + index.getD axis 0))

@[simp] theorem shape_slice (axis start count : Nat) (tensor : Tensor α) :
    (tensor.slice axis start count).shape = tensor.shape.set axis count := rfl

theorem get_slice {axis start count : Nat} {index : List Nat}
    (inside : Shape.Contains (tensor.shape.set axis count) index) :
    (tensor.slice axis start count).get index =
      tensor.get (index.set axis (start + index.getD axis 0)) :=
  get_ofFn inside _

theorem slice_all (axis : Nat) (tensor : Tensor α) :
    tensor.slice axis 0 (tensor.extent axis) = tensor := by
  have sameShape : tensor.shape.set axis (tensor.extent axis) = tensor.shape :=
    Shape.set_getD_self tensor.shape axis 0
  apply ext_get sameShape
  intro index inside
  rw [get_slice inside, Nat.zero_add, Shape.set_getD_self]

theorem slice_slice {axis start count later fewer : Nat} (within : axis < tensor.rank)
    (enough : later + fewer ≤ count) :
    (tensor.slice axis start count).slice axis later fewer =
      tensor.slice axis (start + later) fewer := by
  apply ext_get
  · simp only [shape_slice, List.set_set]
  · intro index inside
    have cut : Shape.Contains (tensor.shape.set axis fewer) index := by
      simpa only [shape_slice, List.set_set] using inside
    have below := Shape.Contains.getD_set_lt within cut
    have long : axis < index.length := by
      rw [cut.length_eq, List.length_set]
      exact within
    have moved : Shape.Contains (tensor.shape.set axis count)
        (index.set axis (later + index.getD axis 0)) := by
      have wider : later + index.getD axis 0 < count := by omega
      simpa only [List.set_set] using Shape.contains_set axis cut wider
    rw [get_slice inside, get_slice moved, get_slice cut, Shape.getD_set_self long, List.set_set,
      Nat.add_assoc]

theorem append_slice (first second : Nat) {axis : Nat} (within : axis < tensor.rank) :
    (tensor.slice axis 0 first).append axis (tensor.slice axis first second) =
      .ok (tensor.slice axis 0 (first + second)) := by
  have frontExtent : (tensor.slice axis 0 first).extent axis = first :=
    Shape.getD_set_self within first 0
  have backExtent : (tensor.slice axis first second).extent axis = second :=
    Shape.getD_set_self within second 0
  have agree : ¬((tensor.slice axis 0 first).rank ≠ (tensor.slice axis first second).rank ∨
      (tensor.slice axis 0 first).shape.set axis 0 ≠
        (tensor.slice axis first second).shape.set axis 0) := by
    simp [rank]
  cases joined : (tensor.slice axis 0 first).append axis (tensor.slice axis first second) with
  | error failure =>
      simp only [append, if_neg agree] at joined
      contradiction
  | ok result =>
      have resultShape : result.shape = tensor.shape.set axis (first + second) := by
        rw [shape_append joined, frontExtent, backExtent, shape_slice, List.set_set]
      congr 1
      apply ext_get resultShape
      intro index inside
      have whole : Shape.Contains (tensor.shape.set axis (first + second)) index := by
        rw [← resultShape]
        exact inside
      have below := Shape.Contains.getD_set_lt within whole
      have long : axis < index.length := by
        rw [whole.length_eq, List.length_set]
        exact within
      rw [get_append joined inside, frontExtent, get_slice whole]
      by_cases early : index.getD axis 0 < first
      · have front : Shape.Contains (tensor.shape.set axis first) index := by
          have cut := Shape.contains_set axis whole early
          rwa [List.set_set, Shape.set_getD_self] at cut
        rw [if_pos early, get_slice front]
      · have later : index.getD axis 0 - first < second := by omega
        have back : Shape.Contains (tensor.shape.set axis second)
            (index.set axis (index.getD axis 0 - first)) := by
          simpa only [List.set_set] using Shape.contains_set axis whole later
        rw [if_neg early, get_slice back, Shape.getD_set_self long, List.set_set]
        congr 2
        omega

theorem append_agree {front back joined : Tensor α} {axis : Nat}
    (made : front.append axis back = .ok joined) :
    front.rank = back.rank ∧ front.shape.set axis 0 = back.shape.set axis 0 := by
  by_cases differ : front.rank ≠ back.rank ∨ front.shape.set axis 0 ≠ back.shape.set axis 0
  · rw [append, if_pos differ] at made
    contradiction
  · rw [not_or] at differ
    exact ⟨Decidable.not_not.mp differ.1, Decidable.not_not.mp differ.2⟩

/-- The last positions along an axis are those that end with the axis. -/
theorem takeLast_reads {shape : Shape} {count extent : Nat} (axis : Nat)
    (sizes : tensor.shape = shape) (enough : count ≤ extent) (along : shape.getD axis 0 = extent) :
    (tensor.takeLast axis count).shape = shape.set axis count ∧
      ∀ index, Shape.Contains (shape.set axis count) index →
        (tensor.takeLast axis count).get index =
          tensor.get (index.set axis (extent - count + index.getD axis 0)) := by
  subst sizes
  have whole : tensor.extent axis = extent := along
  have kept : min count (tensor.extent axis) = count := by
    rw [whole]
    exact Nat.min_eq_left enough
  have shapeEq : (tensor.takeLast axis count).shape = tensor.shape.set axis count := by
    rw [shape_takeLast, kept]
  refine ⟨shapeEq, ?_⟩
  intro index inside
  rw [← shapeEq] at inside
  rw [get_takeLast inside, kept, whole, Nat.add_comm]

end Tensor

namespace TypedTensor

variable {α : Type} [Arithmetic α]

def slice (axis start count : Nat) (typed : TypedTensor α) : TypedTensor α :=
  ⟨typed.elementType, typed.tensor.slice axis start count⟩

@[simp] theorem elementType_slice (axis start count : Nat) (typed : TypedTensor α) :
    (typed.slice axis start count).elementType = typed.elementType := rfl

@[simp] theorem shape_slice (axis start count : Nat) (typed : TypedTensor α) :
    (typed.slice axis start count).shape = typed.shape.set axis count := rfl

theorem append_of_rank {axis : Int} {position : Nat} {front back : TypedTensor α}
    (frontRank : 2 ≤ front.rank) (backRank : 2 ≤ back.rank)
    (counted : (if axis < 0 then axis + front.rank else axis) = position)
    (within : position < front.rank) :
    front.append axis back =
      ((front.convert (front.joinType back)).tensor.append position
        (back.convert (front.joinType back)).tensor).map fun tensor =>
          ⟨front.joinType back, tensor⟩ := by
  have frontRankEq : (front.convert (front.joinType back)).tensor.rank = front.rank :=
    congrArg List.length (shape_convert _ front)
  have backRankEq : (back.convert (front.joinType back)).tensor.rank = back.rank :=
    congrArg List.length (shape_convert _ back)
  have tall {tensor : Tensor α} (enough : 2 ≤ tensor.rank) : tensor.shape ≠ [0] := by
    intro flat
    have short : tensor.rank = 1 := congrArg List.length flat
    omega
  have ranks : ¬(front.rank = 0 ∨ back.rank = 0) := by omega
  have inRange : ¬((position : Int) < 0 ∨ (front.rank : Int) ≤ position) := by omega
  simp only [append, if_neg (tall (frontRankEq.symm ▸ frontRank)),
    if_neg (tall (backRankEq.symm ▸ backRank)), frontRankEq, backRankEq, counted, if_neg ranks,
    inRange, and_false, if_false, Int.toNat_natCast]

theorem append_of_sameType {axis : Int} {position : Nat} {front back : TypedTensor α}
    (sameType : front.elementType = back.elementType) (frontRank : 2 ≤ front.rank)
    (backRank : 2 ≤ back.rank) (counted : (if axis < 0 then axis + front.rank else axis) = position)
    (within : position < front.rank) :
    front.append axis back =
      (front.tensor.append position back.tensor).map fun tensor => ⟨front.elementType, tensor⟩ := by
  have joined : front.joinType back = front.elementType := by
    unfold joinType ElementType.joinRanked
    rw [if_neg (by omega), if_neg (by omega), ← sameType, ElementType.join_self]
  have backSelf : back.convert front.elementType = back := by
    rw [sameType, convert_self]
  rw [append_of_rank frontRank backRank counted within, joined, convert_self, backSelf]

/-- Two tensors are joined along the axis that the number names, unless one of them is of the shape
that adds nothing. -/
theorem append_of_ok {axis : Int} {front back joined : TypedTensor α}
    (made : front.append axis back = .ok joined) (frontTall : front.shape ≠ [0])
    (backTall : back.shape ≠ [0]) :
    ∃ place : Nat, (place : Int) = (if axis < 0 then axis + front.rank else axis) ∧
      (front.convert (front.joinType back)).tensor.append place
        (back.convert (front.joinType back)).tensor = .ok joined.tensor := by
  have frontConverted : (front.convert (front.joinType back)).tensor.shape = front.shape :=
    shape_convert _ front
  have backConverted : (back.convert (front.joinType back)).tensor.shape = back.shape :=
    shape_convert _ back
  have rankEq : (front.convert (front.joinType back)).tensor.rank = front.rank :=
    congrArg List.length frontConverted
  simp only [append, frontConverted, backConverted, if_neg frontTall, if_neg backTall, rankEq]
    at made
  generalize (if axis < 0 then axis + (front.rank : Int) else axis) = position at made ⊢
  split at made
  · contradiction
  · split at made
    · contradiction
    · rename_i outside
      have inside : 0 ≤ position :=
        Int.not_lt.mp fun below => outside ⟨frontTall, Or.inl below⟩
      rcases exists_of_map_ok made with ⟨tensor, appended, rfl⟩
      exact ⟨position.toNat, Int.toNat_of_nonneg inside, appended⟩

theorem append_of_flat {front back : TypedTensor α} (flat : front.shape = [0])
    (tall : 2 ≤ back.rank) :
    front.append (-2) back =
      .ok ⟨front.joinType back, (back.convert (front.joinType back)).tensor⟩ := by
  have frontShape : (front.convert (front.joinType back)).tensor.shape = [0] :=
    (shape_convert _ front).trans flat
  have frontRank : (front.convert (front.joinType back)).tensor.rank = 1 :=
    congrArg List.length frontShape
  have backRank : (back.convert (front.joinType back)).tensor.rank = back.rank :=
    congrArg List.length (shape_convert _ back)
  have someAxes : ¬((front.convert (front.joinType back)).tensor.rank = 0 ∨ back.rank = 0) := by
    omega
  have inRange : ¬(-2 + (back.rank : Int) < 0 ∨ (back.rank : Int) ≤ -2 + back.rank) := by omega
  have counted : (-2 : Int) < 0 := by decide
  simp only [append, frontShape, if_true, backRank, if_neg someAxes, if_pos counted, inRange,
    and_false, if_false]

/-- Positions join a stack of matrices, whose rank a tensor that adds something has too. -/
theorem append_stacked {front back joined : TypedTensor α} {stack : Shape} {count size : Nat}
    (backShape : back.shape = stack ++ [count, size]) (made : front.append (-2) back = .ok joined)
    (frontTall : front.shape ≠ [0]) :
    front.rank = back.rank ∧ joined.elementType = front.joinType back ∧
      (front.convert (front.joinType back)).tensor.append stack.length
        (back.convert (front.joinType back)).tensor = .ok joined.tensor ∧
      joined.shape = stack ++ [front.tensor.extent stack.length + count, size] := by
  have backTall : back.shape ≠ [0] := by
    intro flat
    have lengths := congrArg List.length (backShape.symm.trans flat)
    simp at lengths
  rcases append_of_ok made frontTall backTall with ⟨place, counted, appended⟩
  rcases Tensor.append_agree appended with ⟨ranks, others⟩
  have frontConverted : (front.convert (front.joinType back)).tensor.shape = front.tensor.shape :=
    shape_convert _ front
  have backConverted : (back.convert (front.joinType back)).tensor.shape =
      stack ++ [count, size] := (shape_convert _ back).trans backShape
  have rankEq : front.rank = back.rank := by
    have frontRank := congrArg List.length frontConverted
    have backRank := congrArg List.length (shape_convert (front.joinType back) back)
    exact frontRank.symm.trans (ranks.trans backRank)
  have backRank : back.rank = stack.length + 2 := by
    change back.shape.length = _
    simp [backShape]
  obtain rfl : place = stack.length := by
    rw [if_pos (by decide), rankEq, backRank] at counted
    omega
  refine ⟨rankEq, ?_, appended, ?_⟩
  · rw [append_of_rank (by omega) (by omega) counted.symm (by omega)] at made
    rcases exists_of_map_ok made with ⟨tensor, _, rfl⟩
    rfl
  · rw [frontConverted, backConverted] at others
    have frontExtent : (front.convert (front.joinType back)).tensor.extent stack.length =
        front.tensor.extent stack.length := by
      unfold Tensor.extent
      rw [frontConverted]
    have backExtent : (back.convert (front.joinType back)).tensor.extent stack.length = count := by
      unfold Tensor.extent
      rw [backConverted]
      simp
    calc joined.shape
        = front.tensor.shape.set stack.length (front.tensor.extent stack.length + count) := by
          rw [shape, Tensor.shape_append appended, frontExtent, backExtent, frontConverted]
      _ = (front.tensor.shape.set stack.length 0).set stack.length
            (front.tensor.extent stack.length + count) := (List.set_set ..).symm
      _ = stack ++ [front.tensor.extent stack.length + count, size] := by
          rw [others]
          simp

def takeLast (axis count : Nat) (typed : TypedTensor α) : TypedTensor α :=
  ⟨typed.elementType, typed.tensor.takeLast axis count⟩

theorem append_slice (first second : Nat) {axis : Nat} {typed : TypedTensor α}
    (tall : 2 ≤ typed.rank) (within : axis < typed.rank) :
    (typed.slice axis 0 first).append axis (typed.slice axis first second) =
      .ok (typed.slice axis 0 (first + second)) := by
  have frontRank : (typed.slice axis 0 first).rank = typed.rank := List.length_set
  have backRank : (typed.slice axis first second).rank = typed.rank := List.length_set
  have counted : (if (axis : Int) < 0 then (axis : Int) + (typed.slice axis 0 first).rank
      else (axis : Int)) = axis := if_neg (by omega)
  have sameType : (typed.slice axis 0 first).elementType =
      (typed.slice axis first second).elementType := rfl
  rw [append_of_sameType sameType (by omega) (by omega) counted (by omega)]
  change ((typed.tensor.slice axis 0 first).append axis (typed.tensor.slice axis first second)).map
    _ = _
  rw [Tensor.append_slice first second within]
  rfl

theorem slice_all {typed : TypedTensor α} {axis count : Nat}
    (extent : typed.tensor.extent axis = count) : typed.slice axis 0 count = typed := by
  subst extent
  unfold slice
  rw [Tensor.slice_all]

theorem slice_slice {typed : TypedTensor α} {axis start count later fewer : Nat}
    (within : axis < typed.rank) (enough : later + fewer ≤ count) :
    (typed.slice axis start count).slice axis later fewer =
      typed.slice axis (start + later) fewer := by
  unfold slice
  congr 1
  exact Tensor.slice_slice within enough

theorem projected_slice {states matrix : TypedTensor α} {batch positions features : Nat}
    {start count row position : Nat} (sizes : states.shape = [batch, positions, features])
    (rowBelow : row < batch) (positionBelow : position < count)
    (enough : start + count ≤ positions) (feature : Nat) :
    (states.slice 1 start count).projected matrix [row, position] feature =
      states.projected matrix [row, start + position] feature := by
  have sliceSizes : (states.slice 1 start count).tensor.shape = [batch, count] ++ [features] := by
    change states.shape.set 1 count = _
    rw [sizes]
    rfl
  have stateSizes : states.tensor.shape = [batch, positions] ++ [features] := sizes
  have rowInside : Shape.Contains [batch, count] [row, position] :=
    ⟨rowBelow, positionBelow, trivial⟩
  have stateInside : Shape.Contains [batch, positions] [row, start + position] :=
    ⟨rowBelow, by omega, trivial⟩
  unfold projected
  rw [Tensor.rows_reads sliceSizes rowInside, Tensor.rows_reads stateSizes stateInside,
    elementType_slice]
  congr 1
  apply List.map_congr_left
  intro entry member
  have inside : Shape.Contains (states.slice 1 start count).tensor.shape
      ([row, position] ++ [entry]) := by
    rw [sliceSizes]
    exact rowInside.concat (List.mem_range.mp member)
  exact Tensor.get_slice inside

end TypedTensor

end CausalAttention
