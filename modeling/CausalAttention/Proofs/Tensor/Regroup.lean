import CausalAttention.Proofs.Tensor.Index
import CausalAttention.Rearrange

/-!
What regrouping reads: heads that are split and merged, sequences that are cut into blocks, and
windows that look back from the blocks. Each operation succeeds on tensors whose sizes fit, and
its entries are given by those of the tensor that it was applied to.
-/

set_option autoImplicit false

namespace CausalAttention

section Features

variable {heads size head feature : Nat}

theorem head_below (below : feature < heads * size) :
    feature / size < heads ∧ feature % size < size ∧
      feature / size * size + feature % size = feature := by
  have sizePositive : 0 < size := by
    rcases Nat.eq_zero_or_pos size with none | some
    · simp [none] at below
    · exact some
  refine ⟨(Nat.div_lt_iff_lt_mul sizePositive).mpr below, Nat.mod_lt _ sizePositive, ?_⟩
  rw [Nat.mul_comm]
  exact Nat.div_add_mod feature size

theorem feature_below (headBelow : head < heads) (featureBelow : feature < size) :
    head * size + feature < heads * size := by
  have nextHead : (head + 1) * size ≤ heads * size := Nat.mul_le_mul_right size headBelow
  rw [Nat.succ_mul] at nextHead
  omega

theorem head_of_feature (head : Nat) (featureBelow : feature < size) :
    (head * size + feature) / size = head ∧ (head * size + feature) % size = feature := by
  have sizePositive : 0 < size := Nat.lt_of_le_of_lt (Nat.zero_le feature) featureBelow
  rw [Nat.add_comm]
  constructor
  · rw [Nat.add_mul_div_right _ _ sizePositive, Nat.div_eq_of_lt featureBelow, Nat.zero_add]
  · rw [Nat.add_mul_mod_self_right, Nat.mod_eq_of_lt featureBelow]

end Features

namespace Shape

theorem infer?_sizes (total : Nat) (shape : Shape) :
    infer? total (shape.map fun (size : Nat) => (size : Int)) = some shape := by
  have noneBelow : (shape.map fun (size : Nat) => (size : Int)).any (· < -1) = false := by
    rw [List.any_eq_false]
    intro size member
    rcases List.mem_map.mp member with ⟨given, _, rfl⟩
    rw [decide_eq_true_iff]
    omega
  have noneOpen : (shape.map fun (size : Nat) => (size : Int)).count (-1) = 0 := by
    rw [List.count_eq_zero]
    intro member
    rcases List.mem_map.mp member with ⟨given, _, same⟩
    omega
  simp [infer?, noneBelow, noneOpen, Function.comp_def]

end Shape

namespace Tensor

variable {α : Type} [Inhabited α] {tensor : Tensor α}

theorem reshape_reads {shape : Shape} (fits : Shape.volume tensor.shape = Shape.volume shape) :
    ∃ result, tensor.reshape (shape.map fun (size : Nat) => (size : Int)) = .ok result ∧
      result.shape = shape ∧
      ∀ index source, Shape.offset shape index = Shape.offset tensor.shape source →
        result.get index = tensor.get source := by
  refine ⟨⟨shape, tensor.entries, tensor.size_entries.trans fits⟩, ?_, rfl, ?_⟩
  · simp only [reshape, Shape.infer?_sizes, dif_pos fits]
  · intro index source same
    simp only [get, same]

omit [Inhabited α] in
theorem shape_of_reshape {shape : Shape} {result : Tensor α}
    (made : tensor.reshape (shape.map fun (size : Nat) => (size : Int)) = .ok result) :
    result.shape = shape := by
  have inferred := infer?_of_reshape made
  rw [Shape.infer?_sizes] at inferred
  exact (Option.some.inj inferred).symm

omit [Inhabited α] in
theorem reshape_self (tensor : Tensor α) :
    tensor.reshape (tensor.shape.map fun (size : Nat) => (size : Int)) = .ok tensor := by
  simp only [reshape, Shape.infer?_sizes, dif_pos]

omit [Inhabited α] in
theorem requireRank_of_rank {lower upper : Nat}
    (known : tensor.rank = lower ∨ tensor.rank = upper) :
    tensor.requireRank lower upper = .ok () := by
  unfold requireRank
  rw [if_neg]
  rcases known with same | same
  · exact fun other => other.1 same
  · exact fun other => other.2 same

omit [Inhabited α] in
theorem requireRank_eq_ok {lower upper : Nat} (required : tensor.requireRank lower upper = .ok ()) :
    tensor.rank = lower ∨ tensor.rank = upper := by
  unfold requireRank at required
  split at required
  · contradiction
  · omega

omit [Inhabited α] in
theorem splitSizes_eq {outer : Shape} {positions heads size : Nat}
    (known : outer.length = 1 ∨ outer.length = 2)
    (sizes : tensor.shape = outer ++ [positions, heads * size]) :
    tensor.splitSizes heads size =
      .ok ((outer ++ [positions, heads, size]).map fun (size : Nat) => (size : Int)) := by
  have rankEq : tensor.rank = outer.length + 2 := by simp [rank, sizes]
  have ranked : tensor.requireRank 3 4 = .ok () := by
    apply requireRank_of_rank
    omega
  have lastExtent : tensor.extent (tensor.rank - 1) = heads * size := by
    simp [extent, rankEq, sizes]
  have frontSizes : tensor.shape.dropLast = outer ++ [positions] := by
    simp [sizes, List.dropLast_append_of_ne_nil]
  simp [splitSizes, ranked, lastExtent, frontSizes, bind, Except.bind, pure, Except.pure]

omit [Inhabited α] in
theorem mergeSizes_eq {outer : Shape} {positions heads size : Nat}
    (known : outer.length = 1 ∨ outer.length = 2)
    (sizes : tensor.shape = outer ++ [heads, positions, size]) :
    tensor.mergeSizes heads size =
      .ok ((outer ++ [positions, heads * size]).map fun (size : Nat) => (size : Int)) := by
  have rankEq : tensor.rank = outer.length + 3 := by simp [rank, sizes]
  have ranked : tensor.requireRank 4 5 = .ok () := by
    apply requireRank_of_rank
    omega
  have swapped : Shape.swapAt (tensor.rank - 3) tensor.shape =
      outer ++ [positions, heads, size] := by
    rw [rankEq, Nat.add_sub_cancel, sizes, Shape.swapAt_append]
  have frontSizes : (outer ++ [positions, heads, size]).take (tensor.rank - 2) =
      outer ++ [positions] := by
    have frontLength : outer.length + 3 - 2 = outer.length + 1 := by omega
    rw [rankEq, frontLength]
    simp [List.take_append, List.take_of_length_le]
  simp [mergeSizes, ranked, swapped, frontSizes, bind, Except.bind, pure, Except.pure]

/-- Feature `f` of head `h` is the feature `h * size + f` of the position. -/
theorem splitHeads_reads {outer : Shape} {positions heads size : Nat}
    (known : outer.length = 1 ∨ outer.length = 2)
    (sizes : tensor.shape = outer ++ [positions, heads * size]) :
    ∃ result, tensor.splitHeads heads size = .ok result ∧
      result.shape = outer ++ [heads, positions, size] ∧
      ∀ place head position feature, Shape.Contains outer place → head < heads →
        position < positions → feature < size →
        result.get (place ++ [head, position, feature]) =
          tensor.get (place ++ [position, head * size + feature]) := by
  have rankEq : tensor.rank = outer.length + 2 := by simp [rank, sizes]
  have volumes : Shape.volume tensor.shape =
      Shape.volume (outer ++ [positions, heads, size]) := by
    simp [sizes, Shape.volume_append, Shape.volume]
  rcases reshape_reads volumes with ⟨grouped, reshaped, groupedShape, groupedGet⟩
  have swapped : Shape.swapAt (tensor.rank - 2) grouped.shape =
      outer ++ [heads, positions, size] := by
    rw [rankEq, Nat.add_sub_cancel, groupedShape, Shape.swapAt_append]
  refine ⟨grouped.swapAxes (tensor.rank - 2), ?_, swapped, ?_⟩
  · simp only [splitHeads, splitSizes_eq known sizes, reshaped, bind, Except.bind, pure,
      Except.pure]
  · intro place head position feature outside headBelow positionBelow featureBelow
    have inside : Shape.Contains (outer ++ [heads, positions, size])
        (place ++ [head, position, feature]) :=
      outside.append ⟨headBelow, positionBelow, featureBelow, trivial⟩
    have turned : Shape.swapAt (tensor.rank - 2) (place ++ [head, position, feature]) =
        place ++ [position, head, feature] := by
      rw [rankEq, Nat.add_sub_cancel, ← outside.length_eq, Shape.swapAt_append]
    rw [get_swapAxes (by rw [swapped]; exact inside), turned]
    apply groupedGet
    rw [sizes, Shape.offset_append outside, Shape.offset_append outside]
    simp only [Shape.volume, Shape.offset, Nat.mul_one, Nat.add_zero]

/-- The feature at a place belongs to the head that the head size divides it into. -/
theorem mergeHeads_reads {outer : Shape} {positions heads size : Nat}
    (known : outer.length = 1 ∨ outer.length = 2)
    (sizes : tensor.shape = outer ++ [heads, positions, size]) :
    ∃ result, tensor.mergeHeads heads size = .ok result ∧
      result.shape = outer ++ [positions, heads * size] ∧
      ∀ place position feature, Shape.Contains outer place → position < positions →
        feature < heads * size →
        result.get (place ++ [position, feature]) =
          tensor.get (place ++ [feature / size, position, feature % size]) := by
  have rankEq : tensor.rank = outer.length + 3 := by simp [rank, sizes]
  have swapped : Shape.swapAt (tensor.rank - 3) tensor.shape =
      outer ++ [positions, heads, size] := by
    rw [rankEq, Nat.add_sub_cancel, sizes, Shape.swapAt_append]
  have volumes : Shape.volume (tensor.swapAxes (tensor.rank - 3)).shape =
      Shape.volume (outer ++ [positions, heads * size]) := by
    simp [swapped, Shape.volume_append, Shape.volume]
  rcases reshape_reads volumes with ⟨merged, reshaped, mergedShape, mergedGet⟩
  refine ⟨merged, ?_, mergedShape, ?_⟩
  · simp only [mergeHeads, mergeSizes_eq known sizes, reshaped, bind, Except.bind]
  · intro place position feature outside positionBelow featureBelow
    rcases head_below featureBelow with ⟨headBelow, innerBelow, whole⟩
    have inside : Shape.Contains (outer ++ [positions, heads, size])
        (place ++ [position, feature / size, feature % size]) :=
      outside.append ⟨positionBelow, headBelow, innerBelow, trivial⟩
    have turned : Shape.swapAt (tensor.rank - 3)
        (place ++ [position, feature / size, feature % size]) =
        place ++ [feature / size, position, feature % size] := by
      rw [rankEq, Nat.add_sub_cancel, ← outside.length_eq, Shape.swapAt_append]
    rw [mergedGet _ (place ++ [position, feature / size, feature % size]),
      get_swapAxes (by rw [swapped]; exact inside), turned]
    simp only [shape_swapAxes, swapped, Shape.offset_append outside, Shape.volume, Shape.offset,
      Nat.mul_one, Nat.add_zero]
    omega

/-- Row `r` of block `i` is the position `i * length + r`. -/
theorem splitSequence_reads {batch count length : Nat}
    (sizes : tensor.shape = [batch, count * length]) :
    ∃ result, tensor.splitSequence count length none = .ok result ∧
      result.shape = [batch, count, length] ∧
      ∀ row block inner, row < batch → block < count → inner < length →
        result.get [row, block, inner] = tensor.get [row, block * length + inner] := by
  have volumes : Shape.volume tensor.shape = Shape.volume [batch, count, length] := by
    simp [sizes, Shape.volume]
  rcases reshape_reads volumes with ⟨result, reshaped, resultShape, resultGet⟩
  refine ⟨result, ?_, resultShape, ?_⟩
  · simp only [splitSequence, sequenceSizes, sizes, bind, Except.bind]
    exact reshaped
  · intro row block inner _ _ _
    apply resultGet
    simp only [sizes, Shape.volume, Shape.offset, Nat.mul_one, Nat.add_zero]

theorem splitSequence_features_reads {batch count length width : Nat}
    (sizes : tensor.shape = [batch, count * length, width]) :
    ∃ result, tensor.splitSequence count length (some width) = .ok result ∧
      result.shape = [batch, count, length, width] ∧
      ∀ row block inner feature,
        result.get [row, block, inner, feature] =
          tensor.get [row, block * length + inner, feature] := by
  have volumes : Shape.volume tensor.shape = Shape.volume [batch, count, length, width] := by
    simp [sizes, Shape.volume, Nat.mul_assoc]
  rcases reshape_reads volumes with ⟨result, reshaped, resultShape, resultGet⟩
  refine ⟨result, ?_, resultShape, ?_⟩
  · simp only [splitSequence, sequenceSizes, sizes, bind, Except.bind, Option.getD_some]
    exact reshaped
  · intro row block inner feature
    apply resultGet
    simp only [sizes, Shape.volume, Shape.offset, Nat.mul_one, Nat.add_zero, Nat.add_mul,
      Nat.mul_assoc, Nat.add_assoc]

end Tensor

/-! ### Windows that look back -/

namespace Blocks

/-- The position that a slot of the window of a block shows, none in front of the sequence. -/
def position? (length window block slot : Nat) : Option Nat :=
  if block * length + slot < window then none else some (block * length + slot - window)

end Blocks

namespace Tensor

variable {α : Type} [Inhabited α] {tensor : Tensor α}

def getOr (tensor : Tensor α) (filler : α) (row : Nat) (position? : Option Nat)
    (rest : List Nat) : α :=
  match position? with
  | none => filler
  | some position => tensor.get (row :: position :: rest)

theorem lead_reads {batch positions : Nat} {rest : Shape} (window : Nat) (filler : α)
    (known : rest.length ≤ 1) (sizes : tensor.shape = batch :: positions :: rest) :
    ∃ result, tensor.lead window filler = .ok result ∧
      result.shape = batch :: (positions + window) :: rest ∧
      ∀ row position place, row < batch → position < positions + window →
        Shape.Contains rest place →
        result.get (row :: position :: place) =
          if position < window then filler
          else tensor.get (row :: (position - window) :: place) := by
  have ranked : tensor.requireRank 2 3 = .ok () := by
    apply requireRank_of_rank
    simp only [rank, sizes, List.length_cons]
    omega
  have paddedShape : tensor.shape.set 1 (tensor.extent 1 + (window : Int)).toNat =
      batch :: (positions + window) :: rest := by
    have extentEq : tensor.extent 1 = positions := by simp [extent, sizes]
    rw [extentEq, sizes]
    simp only [List.set_cons_succ, List.set_cons_zero]
    congr 2
  cases padded : tensor.padFront 1 window filler with
  | error failure =>
      unfold padFront at padded
      simp only at padded
      split at padded
      · omega
      · contradiction
  | ok result =>
      have resultShape := (shape_padFront padded).trans paddedShape
      refine ⟨result, ?_, resultShape, ?_⟩
      · simp only [lead, ranked, bind, Except.bind]
        exact padded
      · intro row position place rowBelow positionBelow inside
        rw [get_padFront padded (by rw [resultShape]; exact ⟨rowBelow, positionBelow, inside⟩)]
        simp only [List.getD_cons_succ, List.getD_cons_zero, List.set_cons_succ,
          List.set_cons_zero]
        by_cases front : position < window
        · rw [if_pos (by omega), if_pos front]
        · rw [if_neg (by omega), if_neg front]
          congr 3
          omega

/-- Windows that start at a positive distance from each other are refused only to a sequence that
is shorter than this distance. -/
theorem lookBack_of_short {batch positions length : Nat} {rest : Shape} (window : Nat) (filler : α)
    (slotsFirst : Bool) (known : rest.length ≤ 1) (short : positions < length)
    (sizes : tensor.shape = batch :: positions :: rest) :
    tensor.lookBack length window filler slotsFirst = .error .windowDoesNotFit := by
  rcases lead_reads window filler known sizes with ⟨padded, leads, paddedShape, _⟩
  have paddedExtent : padded.extent 1 = positions + window := by simp [extent, paddedShape]
  have refused : padded.windows 1 ((window : Int) + (length : Int)) (length : Int) =
      .error .windowDoesNotFit := by
    unfold windows
    rw [paddedExtent, if_pos (by omega)]
  simp only [lookBack, leads, blockWindows, refused, bind, Except.bind]

/-- Slot `j` of window `i` shows the position `i * length + j - window`, when it is one. Positions
behind the last whole block are in no window. -/
theorem lookBack_whole_reads {batch positions length : Nat} {rest : Shape} (window : Nat)
    (filler : α) (known : rest.length ≤ 1) (lengthPositive : 0 < length)
    (enough : length ≤ positions) (sizes : tensor.shape = batch :: positions :: rest) :
    ∃ result, tensor.lookBack length window filler false = .ok result ∧
      result.shape = batch :: (positions / length) :: (rest ++ [window + length]) ∧
      ∀ row block place slot, row < batch → block < positions / length →
        Shape.Contains rest place → slot < window + length →
        result.get (row :: block :: (place ++ [slot])) =
          tensor.getOr filler row (Blocks.position? length window block slot) place := by
  rcases lead_reads window filler known sizes with ⟨padded, leads, paddedShape, paddedGet⟩
  have paddedExtent : padded.extent 1 = positions + window := by simp [extent, paddedShape]
  have windowCount : (padded.extent 1 - ((window : Int) + (length : Int)).toNat) /
      (length : Int).toNat + 1 = positions / length := by
    have spanEq : ((window : Int) + (length : Int)).toNat = window + length := by omega
    rw [paddedExtent, spanEq, Int.toNat_natCast, Nat.add_comm positions,
      Nat.add_sub_add_left, ← Nat.add_div_right _ lengthPositive, Nat.sub_add_cancel enough]
  cases spread : padded.windows 1 ((window : Int) + (length : Int)) (length : Int) with
  | error failure =>
      unfold windows at spread
      split at spread
      · rename_i refused
        rw [paddedExtent] at refused
        omega
      · contradiction
  | ok result =>
      have resultShape :
          result.shape = batch :: (positions / length) :: (rest ++ [window + length]) := by
        rw [shape_windows spread, windowCount, paddedShape]
        simp only [List.set_cons_succ, List.set_cons_zero, List.cons_append]
        congr 4
      refine ⟨result, ?_, resultShape, ?_⟩
      · simp only [lookBack, leads, blockWindows, spread, bind, Except.bind, pure, Except.pure]
        rfl
      · intro row block place slot rowBelow blockBelow inside slotBelow
        have within : Shape.Contains (batch :: (positions / length) :: (rest ++ [window + length]))
            (row :: block :: (place ++ [slot])) :=
          ⟨rowBelow, blockBelow, inside.append ⟨slotBelow, trivial⟩⟩
        have paddedRank : padded.rank = place.length + 2 := by
          simp [rank, paddedShape, inside.length_eq]
        have blockEnd : block * length + length ≤ positions := by
          rw [← Nat.succ_mul]
          exact Nat.le_trans (Nat.mul_le_mul_right length blockBelow)
            (Nat.div_mul_le_self positions length)
        rw [get_windows spread (by rw [resultShape]; exact within), paddedRank]
        have kept : (row :: block :: (place ++ [slot])).take (place.length + 2) =
            row :: block :: place := by
          simp
        have shown : (row :: block :: (place ++ [slot])).getD (place.length + 2) 0 = slot := by
          simp
        rw [kept, shown]
        simp only [List.getD_cons_succ, List.getD_cons_zero, List.set_cons_succ,
          List.set_cons_zero, Int.toNat_natCast]
        rw [paddedGet row _ place rowBelow (by omega) inside]
        unfold getOr Blocks.position?
        split <;> rfl

theorem lookBack_reads {batch count length : Nat} {rest : Shape} (window : Nat) (filler : α)
    (known : rest.length ≤ 1) (positive : 0 < count) (lengthPositive : 0 < length)
    (sizes : tensor.shape = batch :: (count * length) :: rest) :
    ∃ result, tensor.lookBack length window filler false = .ok result ∧
      result.shape = batch :: count :: (rest ++ [window + length]) ∧
      ∀ row block place slot, row < batch → block < count → Shape.Contains rest place →
        slot < window + length →
        result.get (row :: block :: (place ++ [slot])) =
          tensor.getOr filler row (Blocks.position? length window block slot) place := by
  have reads := lookBack_whole_reads window filler known lengthPositive
    (Nat.le_mul_of_pos_left length positive) sizes
  rwa [Nat.mul_div_cancel count lengthPositive] at reads

theorem lookBack_turned {length window : Int} {filler : α} {spread : Tensor α}
    (looked : tensor.lookBack length window filler false = .ok spread) :
    tensor.lookBack length window filler true = spread.transpose := by
  rcases exists_of_bind_ok looked with ⟨padded, leads, windowed⟩
  rcases exists_of_bind_ok windowed with ⟨result, cut, same⟩
  cases same
  simp only [lookBack, leads, blockWindows, cut, bind, Except.bind, if_true]

theorem lookBack_features_reads {batch count length width : Nat} (window : Nat) (filler : α)
    (positive : 0 < count) (lengthPositive : 0 < length)
    (sizes : tensor.shape = [batch, count * length, width]) :
    ∃ result, tensor.lookBack length window filler true = .ok result ∧
      result.shape = [batch, count, window + length, width] ∧
      ∀ row block slot feature, row < batch → block < count → slot < window + length →
        feature < width →
        result.get [row, block, slot, feature] =
          tensor.getOr filler row (Blocks.position? length window block slot) [feature] := by
  obtain ⟨spread, looked, spreadShape, spreadGet⟩ :=
    lookBack_reads window filler (by simp) positive lengthPositive sizes
  have turned : spread.transpose = .ok (spread.swapAxes 2) := by
    have spreadRank : spread.rank = 4 := by simp [rank, spreadShape]
    rw [transpose_of_rank (by omega), spreadRank]
  refine ⟨spread.swapAxes 2, (lookBack_turned looked).trans turned,
    by rw [shape_swapAxes, spreadShape]; rfl, ?_⟩
  intro row block slot feature rowBelow blockBelow slotBelow featureBelow
  rw [get_swapAxes (by
    rw [spreadShape]
    exact ⟨rowBelow, blockBelow, slotBelow, featureBelow, trivial⟩)]
  exact spreadGet row block [feature] slot rowBelow blockBelow ⟨featureBelow, trivial⟩ slotBelow

end Tensor

end CausalAttention
