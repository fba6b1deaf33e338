import CausalAttention.Proofs.Tensor.Slice
import CausalAttention.Rearrange

/-!
Rows of a batch. A batch runs along the first axis, and a row of it is a batch of its own with one
member. An operation that leaves the first axis in place takes the rows of its operand to the rows
of its result.
-/

set_option autoImplicit false

namespace CausalAttention

namespace Shape

theorem length_swapAt {β : Type} (axis : Nat) (entries : List β) :
    (swapAt axis entries).length = entries.length := by
  induction axis generalizing entries with
  | zero =>
      match entries with
      | [] => rfl
      | [_] => rfl
      | _ :: _ :: _ => rfl
  | succ axis ih =>
      cases entries with
      | nil => rfl
      | cons first rest => exact congrArg (· + 1) (ih rest)

theorem infer?_cons {batch total : Nat} (positive : 0 < batch) {sizes : List Int} {shape : Shape}
    (inferred : infer? (batch * total) ((batch : Int) :: sizes) = some shape) :
    ∃ rest, rest.length = sizes.length ∧ shape = batch :: rest ∧
      infer? (1 * total) (1 :: sizes) = some (1 :: rest) := by
  have batchKept : ¬(batch : Int) = -1 := by omega
  have batchAbove : ¬(batch : Int) < -1 := by omega
  have known : volume ((((batch : Int) :: sizes).filter (· ≠ -1)).map Int.toNat) =
      batch * volume ((sizes.filter (· ≠ -1)).map Int.toNat) := by
    rw [List.filter_cons_of_pos (by simp [batchKept]), List.map_cons, Int.toNat_natCast]
    rfl
  have knownOne : volume ((((1 : Int) :: sizes).filter (· ≠ -1)).map Int.toNat) =
      1 * volume ((sizes.filter (· ≠ -1)).map Int.toNat) := rfl
  have counted : ((batch : Int) :: sizes).count (-1) = sizes.count (-1) :=
    List.count_cons_of_ne (fun same => batchKept same)
  have countedOne : ((1 : Int) :: sizes).count (-1) = sizes.count (-1) :=
    List.count_cons_of_ne (by decide)
  have bounded : ((batch : Int) :: sizes).any (· < -1) = sizes.any (· < -1) := by
    rw [List.any_cons, decide_eq_false batchAbove, Bool.false_or]
  have boundedOne : ((1 : Int) :: sizes).any (· < -1) = sizes.any (· < -1) := rfl
  simp only [infer?, known, knownOne, counted, countedOne, bounded, boundedOne] at inferred ⊢
  generalize volume ((sizes.filter (· ≠ -1)).map Int.toNat) = rest at inferred ⊢
  split at inferred
  · contradiction
  · rename_i above
    rw [if_neg above]
    split at inferred
    · cases inferred
      exact ⟨sizes.map Int.toNat, List.length_map _, rfl, rfl⟩
    · split at inferred
      · contradiction
      · rename_i nonzero
        cases inferred
        have restNonzero : ¬1 * rest = 0 := by
          intro none
          apply nonzero
          rw [Nat.one_mul] at none
          rw [none, Nat.mul_zero]
        have shared : batch * total / (batch * rest) = 1 * total / (1 * rest) := by
          rw [Nat.mul_div_mul_left _ _ positive, Nat.one_mul, Nat.one_mul]
        refine ⟨sizes.map fun size => if size = -1 then 1 * total / (1 * rest) else size.toNat,
          List.length_map _, ?_, ?_⟩
        · rw [List.map_cons, if_neg batchKept, Int.toNat_natCast, shared]
        · rw [if_neg restNonzero, List.map_cons]
          rfl
    · contradiction

theorem exists_concat {shape : Shape} {count : Nat} (length : shape.length = count + 1) :
    ∃ front last, front.length = count ∧ shape = front ++ [last] := by
  have some : shape ≠ [] := by
    rintro rfl
    contradiction
  refine ⟨shape.dropLast, shape.getLast some, ?_, (List.dropLast_concat_getLast some).symm⟩
  rw [List.length_dropLast, length, Nat.add_sub_cancel]

theorem Contains.of_set {shape : Shape} {index : List Nat} {axis size coordinate : Nat}
    (inside : Contains (shape.set axis size) index) (below : coordinate < shape.getD axis 0) :
    Contains shape (index.set axis coordinate) := by
  have placed := contains_set axis inside below
  rwa [List.set_set, set_getD_self] at placed

end Shape

namespace Tensor

variable {α β : Type} [Inhabited α] [Inhabited β] {batch row count : Nat}

/-- One tensor is the row of another, which has a batch along its first axis and `count` more
axes. -/
def IsRow (batch row count : Nat) (part whole : Tensor α) : Prop :=
  ∃ rest : Shape, rest.length = count ∧ whole.shape = batch :: rest ∧ part.shape = 1 :: rest ∧
    ∀ index, Shape.Contains rest index → part.get (0 :: index) = whole.get (row :: index)

section

variable {part whole result : Tensor α}

omit [Inhabited α] in
theorem extent_succ {rest : Shape} {size : Nat} (sizes : whole.shape = size :: rest) (axis : Nat) :
    whole.extent (axis + 1) = rest.getD axis 0 := by
  unfold extent
  rw [sizes, List.getD_cons_succ]

theorem isRow_slice {rest : Shape} (row : Nat) (sizes : whole.shape = batch :: rest) :
    IsRow batch row rest.length (whole.slice 0 row 1) whole := by
  have partShape : (whole.slice 0 row 1).shape = 1 :: rest := by
    rw [shape_slice, sizes]
    rfl
  refine ⟨rest, rfl, sizes, partShape, ?_⟩
  intro index inside
  have within : Shape.Contains (whole.slice 0 row 1).shape (0 :: index) := by
    rw [partShape]
    exact ⟨Nat.one_pos, inside⟩
  exact get_slice within

theorem IsRow.eq_slice (isRow : IsRow batch row count part whole) :
    part = whole.slice 0 row 1 := by
  rcases isRow with ⟨rest, _, wholeShape, partShape, same⟩
  rcases isRow_slice row wholeShape with ⟨others, _, again, sliceShape, sliceSame⟩
  obtain rfl : rest = others := (List.cons.inj (wholeShape.symm.trans again)).2
  apply ext_get (partShape.trans sliceShape.symm)
  intro index inside
  rw [partShape] at inside
  rcases Shape.contains_cons_iff.mp inside with ⟨first, tail, rfl, below, inner⟩
  obtain rfl : first = 0 := Nat.lt_one_iff.mp below
  rw [same tail inner, sliceSame tail inner]

theorem IsRow.rank_part (isRow : IsRow batch row count part whole) : part.rank = count + 1 := by
  rcases isRow with ⟨rest, rfl, _, partShape, _⟩
  exact congrArg List.length partShape

theorem IsRow.rank_whole (isRow : IsRow batch row count part whole) : whole.rank = count + 1 := by
  rcases isRow with ⟨rest, rfl, wholeShape, _, _⟩
  exact congrArg List.length wholeShape

theorem IsRow.rank_eq (isRow : IsRow batch row count part whole) : part.rank = whole.rank :=
  isRow.rank_part.trans isRow.rank_whole.symm

theorem IsRow.extent_eq (isRow : IsRow batch row count part whole) (axis : Nat) :
    part.extent (axis + 1) = whole.extent (axis + 1) := by
  rcases isRow with ⟨rest, _, wholeShape, partShape, _⟩
  rw [extent_succ partShape, extent_succ wholeShape]

theorem IsRow.volume_iff (isRow : IsRow batch row count part whole) (below : row < batch) :
    Shape.volume part.shape = 0 ↔ Shape.volume whole.shape = 0 := by
  rcases isRow with ⟨rest, _, wholeShape, partShape, _⟩
  rw [wholeShape, partShape]
  simp only [Shape.volume, Nat.one_mul, Nat.mul_eq_zero]
  omega

theorem isRow_ofFn {rest : Shape} {entry whole : List Nat → α} (length : rest.length = count)
    (below : row < batch)
    (same : ∀ index, Shape.Contains rest index → entry (0 :: index) = whole (row :: index)) :
    IsRow batch row count (ofFn (1 :: rest) entry) (ofFn (batch :: rest) whole) := by
  refine ⟨rest, length, rfl, rfl, ?_⟩
  intro index inside
  have partInside : Shape.Contains (1 :: rest) (0 :: index) := ⟨Nat.one_pos, inside⟩
  have wholeInside : Shape.Contains (batch :: rest) (row :: index) := ⟨below, inside⟩
  rw [get_ofFn partInside, get_ofFn wholeInside, same index inside]

theorem IsRow.map (isRow : IsRow batch row count part whole) (below : row < batch)
    (image : α → β) : IsRow batch row count (part.map image) (whole.map image) := by
  rcases isRow with ⟨rest, length, wholeShape, partShape, same⟩
  refine ⟨rest, length, wholeShape, partShape, ?_⟩
  intro index inside
  have partInside : Shape.Contains part.shape (0 :: index) := by
    rw [partShape]
    exact ⟨Nat.one_pos, inside⟩
  have wholeInside : Shape.Contains whole.shape (row :: index) := by
    rw [wholeShape]
    exact ⟨below, inside⟩
  rw [get_map _ _ partInside, get_map _ _ wholeInside, same index inside]

omit [Inhabited α] in
theorem volume_of_reshape {sizes : List Int} (made : whole.reshape sizes = .ok result) :
    Shape.volume whole.shape = Shape.volume result.shape := by
  unfold Tensor.reshape at made
  split at made
  · contradiction
  · split at made
    · cases made
      assumption
    · contradiction

omit [Inhabited α] in
theorem exists_reshape {sizes : List Int} {shape : Shape}
    (inferred : Shape.infer? (Shape.volume whole.shape) sizes = some shape)
    (fits : Shape.volume whole.shape = Shape.volume shape) :
    ∃ result, whole.reshape sizes = .ok result ∧ result.shape = shape := by
  refine ⟨⟨shape, whole.entries, whole.size_entries.trans fits⟩, ?_, rfl⟩
  simp only [Tensor.reshape, inferred, dif_pos fits]

theorem IsRow.reshape (isRow : IsRow batch row count part whole) (below : row < batch)
    {sizes : List Int} (made : whole.reshape ((batch : Int) :: sizes) = .ok result) :
    ∃ small, part.reshape (1 :: sizes) = .ok small ∧
      IsRow batch row sizes.length small result := by
  rcases isRow with ⟨rest, _, wholeShape, partShape, same⟩
  have positive : 0 < batch := Nat.lt_of_le_of_lt (Nat.zero_le row) below
  have wholeVolume : Shape.volume whole.shape = batch * Shape.volume rest := by
    rw [wholeShape]
    rfl
  have partVolume : Shape.volume part.shape = 1 * Shape.volume rest := by
    rw [partShape]
    rfl
  have inferred := infer?_of_reshape made
  rw [wholeVolume] at inferred
  rcases Shape.infer?_cons positive inferred with ⟨others, othersLength, resultShape, partInferred⟩
  have fits : Shape.volume rest = Shape.volume others := by
    have agree := volume_of_reshape made
    rw [wholeVolume, resultShape] at agree
    exact Nat.eq_of_mul_eq_mul_left positive agree
  rw [← partVolume] at partInferred
  have partFits : Shape.volume part.shape = Shape.volume (1 :: others) := by
    rw [partVolume, fits]
    rfl
  rcases exists_reshape partInferred partFits with ⟨small, smallMade, smallShape⟩
  refine ⟨small, smallMade, others, othersLength, resultShape, smallShape, ?_⟩
  intro index inside
  have partInside : Shape.Contains small.shape (0 :: index) := by
    rw [smallShape]
    exact ⟨Nat.one_pos, inside⟩
  have wholeInside : Shape.Contains result.shape (row :: index) := by
    rw [resultShape]
    exact ⟨below, inside⟩
  have bound : Shape.offset others index < Shape.volume rest := by
    rw [fits]
    exact Shape.offset_lt_volume inside
  have place (first : Nat) : Shape.indexAt (batch :: rest)
      (first * Shape.volume others + Shape.offset others index) =
        first :: Shape.indexAt rest (Shape.offset others index) := by
    have rowOf : (first * Shape.volume rest + Shape.offset others index) / Shape.volume rest =
        first := by
      rw [Nat.mul_comm, Nat.mul_add_div (by omega), Nat.div_eq_of_lt bound, Nat.add_zero]
    have restOf : (first * Shape.volume rest + Shape.offset others index) % Shape.volume rest =
        Shape.offset others index := by
      rw [Nat.mul_comm, Nat.mul_add_mod, Nat.mod_eq_of_lt bound]
    rw [← fits]
    simp only [Shape.indexAt, rowOf, restOf]
  rw [get_reshape smallMade partInside, get_reshape made wholeInside, smallShape, resultShape,
    partShape, wholeShape]
  change part.get (Shape.indexAt (batch :: rest)
      (0 * Shape.volume others + Shape.offset others index)) =
    whole.get (Shape.indexAt (batch :: rest)
      (row * Shape.volume others + Shape.offset others index))
  rw [place, place]
  exact same _ (Shape.contains_indexAt bound)

theorem IsRow.swapAxes (isRow : IsRow batch row count part whole) (below : row < batch)
    (axis : Nat) :
    IsRow batch row count (part.swapAxes (axis + 1)) (whole.swapAxes (axis + 1)) := by
  rcases isRow with ⟨rest, length, wholeShape, partShape, same⟩
  unfold Tensor.swapAxes
  rw [wholeShape, partShape]
  apply isRow_ofFn ((Shape.length_swapAt axis rest).trans length) below
  intro index inside
  have turned := Shape.contains_swapAt axis inside
  rw [Shape.swapAt_swapAt] at turned
  exact same _ turned

theorem IsRow.transpose (isRow : IsRow batch row (count + 2) part whole) (below : row < batch) :
    ∃ small turned, part.transpose = .ok small ∧ whole.transpose = .ok turned ∧
      IsRow batch row (count + 2) small turned := by
  have partRank := isRow.rank_part
  have wholeRank := isRow.rank_whole
  refine ⟨_, _, transpose_of_rank (by omega), transpose_of_rank (by omega), ?_⟩
  have axisEq : count + 2 + 1 - 2 = count + 1 := by omega
  rw [partRank, wholeRank, axisEq]
  exact isRow.swapAxes below count

theorem IsRow.padFront (isRow : IsRow batch row count part whole) (below : row < batch)
    {axis : Nat} (within : axis < count) {amount : Int} {filler : α}
    (made : whole.padFront (axis + 1) amount filler = .ok result) :
    ∃ small, part.padFront (axis + 1) amount filler = .ok small ∧
      IsRow batch row count small result := by
  have extents := isRow.extent_eq axis
  rcases isRow with ⟨rest, rfl, wholeShape, partShape, same⟩
  have extentEq := extent_succ wholeShape axis
  unfold Tensor.padFront at made ⊢
  rw [extents]
  simp only at made ⊢
  split at made
  · contradiction
  · rename_i enough
    cases made
    rw [if_neg enough, wholeShape, partShape]
    refine ⟨_, rfl, ?_⟩
    apply isRow_ofFn List.length_set below
    intro index inside
    simp only [List.getD_cons_succ, List.set_cons_succ]
    split
    · rfl
    · rename_i behind
      have position := Shape.Contains.getD_set_lt within inside
      exact same _ (inside.of_set (by omega))

theorem IsRow.windows (isRow : IsRow batch row count part whole) (below : row < batch)
    {axis : Nat} (within : axis < count) {size step : Int}
    (made : whole.windows (axis + 1) size step = .ok result) :
    ∃ small, part.windows (axis + 1) size step = .ok small ∧
      IsRow batch row (count + 1) small result := by
  have extents := isRow.extent_eq axis
  have ranks := isRow.rank_eq
  have wholeRank := isRow.rank_whole
  rcases isRow with ⟨rest, rfl, wholeShape, partShape, same⟩
  have extentEq := extent_succ wholeShape axis
  unfold Tensor.windows at made ⊢
  rw [extents]
  simp only at made ⊢
  split at made
  · contradiction
  · rename_i fits
    cases made
    rw [if_neg fits, wholeShape, partShape, ranks, wholeRank]
    refine ⟨_, rfl, ?_⟩
    have counted : (rest.set axis ((whole.extent (axis + 1) - size.toNat) / step.toNat + 1) ++
        [size.toNat]).length = rest.length + 1 := by simp
    apply isRow_ofFn counted below
    intro index inside
    rcases inside.exists_concat with ⟨place, slot, rfl, outside, slotBelow⟩
    have placeLength : place.length = rest.length := by
      rw [outside.length_eq, List.length_set]
    have reached : (place ++ [slot]).getD axis 0 = place.getD axis 0 := by
      have early : axis < place.length := by omega
      simp [List.getD_eq_getElem?_getD, List.getElem?_append_left early]
    have slotAt : (place ++ [slot]).getD rest.length 0 = slot := by simp [← placeLength]
    have kept : (place ++ [slot]).take rest.length = place := by simp [← placeLength]
    simp only [List.getD_cons_succ, List.take_succ_cons, List.set_cons_succ, reached, slotAt, kept]
    have started := Shape.Contains.getD_set_lt within outside
    have steps : place.getD axis 0 * step.toNat ≤ whole.extent (axis + 1) - size.toNat :=
      Nat.le_trans (Nat.mul_le_mul_right _ (Nat.lt_succ_iff.mp started)) (Nat.div_mul_le_self _ _)
    exact same _ (outside.of_set (by omega))

theorem IsRow.append {front frontPart back backPart : Tensor α}
    (frontRow : IsRow batch row count frontPart front)
    (backRow : IsRow batch row count backPart back) (below : row < batch) {axis : Nat}
    (within : axis < count) (made : front.append (axis + 1) back = .ok result) :
    ∃ small, frontPart.append (axis + 1) backPart = .ok small ∧
      IsRow batch row count small result := by
  have frontExtents := frontRow.extent_eq axis
  have backExtents := backRow.extent_eq axis
  have agree := (append_agree made).2
  rcases frontRow with ⟨rest, rfl, frontShape, frontPartShape, frontSame⟩
  rcases backRow with ⟨others, othersLength, backShape, backPartShape, backSame⟩
  have frontExtent := extent_succ frontShape axis
  have backExtent := extent_succ backShape axis
  have shapesAgree : rest.set axis 0 = others.set axis 0 := by
    rw [frontShape, backShape] at agree
    exact (List.cons.inj agree).2
  have ranks : frontPart.rank = backPart.rank := by
    simp only [rank, frontPartShape, backPartShape, List.length_cons, othersLength]
  have partAgree : frontPart.shape.set (axis + 1) 0 = backPart.shape.set (axis + 1) 0 := by
    rw [frontPartShape, backPartShape]
    exact congrArg (List.cons 1) shapesAgree
  unfold Tensor.append at made ⊢
  split at made
  · contradiction
  · cases made
    rw [if_neg (not_or.mpr ⟨not_not_intro ranks, not_not_intro partAgree⟩), frontExtents,
      backExtents, frontShape, frontPartShape]
    refine ⟨_, rfl, ?_⟩
    apply isRow_ofFn List.length_set below
    intro index inside
    simp only [List.getD_cons_succ, List.set_cons_succ]
    have position := Shape.Contains.getD_set_lt within inside
    split
    · rename_i early
      have kept : Shape.Contains rest (index.set axis (index.getD axis 0)) :=
        inside.of_set (by omega)
      rw [Shape.set_getD_self] at kept
      exact frontSame _ kept
    · rename_i late
      have moved := congrArg (fun shape : Shape => shape.set axis
        (front.extent (axis + 1) + back.extent (axis + 1))) shapesAgree
      simp only [List.set_set] at moved
      rw [moved] at inside
      exact backSame _ (inside.of_set (by omega))

theorem IsRow.takeLast (isRow : IsRow batch row count part whole) (below : row < batch)
    (axis : Nat) (within : axis < count) (kept : Nat) :
    IsRow batch row count (part.takeLast (axis + 1) kept) (whole.takeLast (axis + 1) kept) := by
  have extents := isRow.extent_eq axis
  rcases isRow with ⟨rest, rfl, wholeShape, partShape, same⟩
  have extentEq := extent_succ wholeShape axis
  unfold Tensor.takeLast
  rw [extents, wholeShape, partShape]
  apply isRow_ofFn List.length_set below
  intro index inside
  have position := Shape.Contains.getD_set_lt within inside
  exact same _ (inside.of_set (by simp only [List.getD_cons_succ]; omega))

theorem IsRow.insertAxis (isRow : IsRow batch row count part whole) (below : row < batch) :
    IsRow batch row (count + 1) (part.insertAxis 1) (whole.insertAxis 1) := by
  rcases isRow with ⟨rest, rfl, wholeShape, partShape, same⟩
  unfold Tensor.insertAxis
  rw [wholeShape, partShape]
  have counted : (1 :: rest).length = rest.length + 1 := rfl
  apply isRow_ofFn counted below
  intro index inside
  rcases Shape.contains_cons_iff.mp inside with ⟨first, tail, rfl, _, inner⟩
  exact same tail inner

theorem IsRow.rows (isRow : IsRow batch row (count + 1) part whole) (below : row < batch) :
    IsRow batch row count part.rows whole.rows := by
  rcases isRow with ⟨rest, length, wholeShape, partShape, same⟩
  rcases Shape.exists_concat length with ⟨stack, features, rfl, rfl⟩
  have wholeFront : whole.rows.shape = batch :: stack := by
    rw [shape_rows, wholeShape, ← List.cons_append, List.dropLast_concat]
  have partFront : part.rows.shape = 1 :: stack := by
    rw [shape_rows, partShape, ← List.cons_append, List.dropLast_concat]
  refine ⟨stack, rfl, wholeFront, partFront, ?_⟩
  intro place inside
  have partInside : Shape.Contains (1 :: stack) (0 :: place) := ⟨Nat.one_pos, inside⟩
  have wholeInside : Shape.Contains (batch :: stack) (row :: place) := ⟨below, inside⟩
  rw [rows_reads partShape partInside, rows_reads wholeShape wholeInside]
  apply List.map_congr_left
  intro feature member
  exact same _ (inside.concat (List.mem_range.mp member))

theorem IsRow.mapRows (isRow : IsRow batch row (count + 1) part whole) (below : row < batch)
    (image : List α → List α) :
    IsRow batch row (count + 1) (part.mapRows image) (whole.mapRows image) := by
  rcases isRow.rows below with ⟨stack, _, wholeFront, _, rowsSame⟩
  rcases isRow with ⟨rest, length, wholeShape, partShape, _⟩
  rcases Shape.exists_concat length with ⟨others, features, _, rfl⟩
  have stackEq : others = stack := by
    rw [shape_rows, wholeShape, ← List.cons_append, List.dropLast_concat] at wholeFront
    exact (List.cons.inj wholeFront).2
  subst stackEq
  refine ⟨_, length, wholeShape, partShape, ?_⟩
  intro index inside
  have partInside : Shape.Contains part.shape (0 :: index) := by
    rw [partShape]
    exact ⟨Nat.one_pos, inside⟩
  have wholeInside : Shape.Contains whole.shape (row :: index) := by
    rw [wholeShape]
    exact ⟨below, inside⟩
  rcases inside.exists_concat with ⟨place, slot, rfl, outside, _⟩
  have front (first : Nat) : (first :: (place ++ [slot])).dropLast = first :: place := by
    rw [← List.cons_append, List.dropLast_concat]
  have back (first : Nat) : (first :: (place ++ [slot])).getLastD 0 = slot := by
    rw [← List.cons_append, List.getLastD_concat]
  rw [get_mapRows partInside, get_mapRows wholeInside, front, front, back, back,
    rowsSame place outside]

end

end Tensor

end CausalAttention
