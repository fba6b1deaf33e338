import CausalAttention.Proofs.Batch.Rows

/-!
Rows of a batch under operations with two operands. The other operand is a batch as well, or the
same for all rows: it then ends before the axis of the batch, or repeats along it.
-/

set_option autoImplicit false

namespace CausalAttention

namespace Shape

theorem joinSize?_comm (left right : Nat) : joinSize? left right = joinSize? right left := by
  unfold joinSize?
  by_cases same : left = right
  · rw [if_pos same, if_pos same.symm, same]
  · rw [if_neg same, if_neg (Ne.symm same)]
    by_cases single : left = 1
    · by_cases other : right = 1
      · omega
      · rw [if_pos single, if_neg other, if_pos single]
    · rw [if_neg single]
      by_cases other : right = 1
      · rw [if_pos other, if_pos other]
      · rw [if_neg other, if_neg other, if_neg single]

theorem joinReversed?_comm (left right : List Nat) :
    joinReversed? left right = joinReversed? right left := by
  induction left generalizing right with
  | nil => cases right <;> rfl
  | cons size rest ih =>
      cases right with
      | nil => rfl
      | cons other others => simp only [joinReversed?, joinSize?_comm size other, ih others]

theorem join?_comm (left right : Shape) : join? left right = join? right left := by
  unfold join?
  rw [joinReversed?_comm]

theorem joinReversed?_outer {inner other joined : List Nat} {size : Nat}
    (short : other.length ≤ inner.length)
    (made : joinReversed? (inner ++ [size]) other = some joined) :
    ∃ rest, rest.length = inner.length ∧ joined = rest ++ [size] ∧
      ∀ outer, joinReversed? (inner ++ [outer]) other = some (rest ++ [outer]) := by
  induction inner generalizing other joined with
  | nil =>
      obtain rfl := List.length_eq_zero_iff.mp (Nat.le_zero.mp short)
      cases made
      exact ⟨[], rfl, rfl, fun _ => rfl⟩
  | cons first inner ih =>
      cases other with
      | nil =>
          cases made
          exact ⟨first :: inner, rfl, rfl, fun _ => rfl⟩
      | cons second others =>
          simp only [List.cons_append, joinReversed?] at made ⊢
          split at made
          · rename_i both rest sizeJoined restJoined
            cases made
            rcases ih (Nat.le_of_succ_le_succ short) restJoined with ⟨tail, length, rfl, again⟩
            refine ⟨both :: tail, congrArg (· + 1) length, rfl, ?_⟩
            intro outer
            simp only [sizeJoined, again outer, List.cons_append]
          · contradiction

theorem joinReversed?_both {inner others joined : List Nat} {left right : Nat}
    (same : inner.length = others.length)
    (made : joinReversed? (inner ++ [left]) (others ++ [right]) = some joined) :
    ∃ rest size, rest.length = inner.length ∧ joined = rest ++ [size] ∧
      joinSize? left right = some size ∧
      ∀ first second both, joinSize? first second = some both →
        joinReversed? (inner ++ [first]) (others ++ [second]) = some (rest ++ [both]) := by
  induction inner generalizing others joined with
  | nil =>
      obtain rfl := List.length_eq_zero_iff.mp same.symm
      simp only [List.nil_append, joinReversed?] at made ⊢
      split at made
      · rename_i size rest sizeJoined restJoined
        cases made
        cases restJoined
        refine ⟨[], size, rfl, rfl, sizeJoined, ?_⟩
        intro first second both joined
        rw [joined]
        rfl
      · contradiction
  | cons size inner ih =>
      cases others with
      | nil => contradiction
      | cons other others =>
          simp only [List.cons_append, joinReversed?] at made ⊢
          split at made
          · rename_i both rest sizeJoined restJoined
            cases made
            rcases ih (Nat.succ.inj same) restJoined with ⟨tail, outer, length, rfl, outerJoined,
              again⟩
            refine ⟨both :: tail, outer, congrArg (· + 1) length, rfl, outerJoined, ?_⟩
            intro first second outer' joined
            simp only [sizeJoined, again first second outer' joined, List.cons_append]
          · contradiction

/-- Shapes of an operand in a run over a batch and in a run over one of its rows: a batch and its
row, or one shape that is the same for all rows. -/
def Alongside (batch count : Nat) (part whole : Shape) : Prop :=
  (∃ rest, rest.length = count ∧ whole = batch :: rest ∧ part = 1 :: rest) ∨
    part = whole ∧ (whole.length ≤ count ∨ ∃ rest, rest.length = count ∧ whole = 1 :: rest)

theorem join?_alongside {batch : Nat} {rest part whole shape : Shape}
    (alongside : Alongside batch rest.length part whole)
    (joined : join? (batch :: rest) whole = some shape) :
    ∃ others, others.length = rest.length ∧ shape = batch :: others ∧
      join? (1 :: rest) part = some (1 :: others) := by
  rcases Option.map_eq_some_iff.mp joined with ⟨reversed, made, rfl⟩
  rw [List.reverse_cons] at made
  unfold join?
  rw [List.reverse_cons]
  have batched {other : Shape} {size : Nat} (length : other.length = rest.length)
      (made : joinReversed? (rest.reverse ++ [batch]) (size :: other).reverse = some reversed)
      (known : size = batch ∨ size = 1) :
      ∃ others, others.length = rest.length ∧ reversed.reverse = batch :: others ∧
        (joinReversed? (rest.reverse ++ [1]) (1 :: other).reverse).map List.reverse =
          some (1 :: others) := by
    rw [List.reverse_cons] at made ⊢
    have lengths : rest.reverse.length = other.reverse.length := by
      rw [List.length_reverse, List.length_reverse, length]
    rcases joinReversed?_both lengths made with ⟨inner, outer, innerLength, rfl, outerJoined, again⟩
    have outerEq : outer = batch := by
      rw [joinSize?_iff] at outerJoined
      omega
    refine ⟨inner.reverse, ?_, ?_, ?_⟩
    · rw [List.length_reverse, innerLength, List.length_reverse]
    · rw [outerEq, List.reverse_append]
      rfl
    · rw [again 1 1 1 rfl, Option.map_some, List.reverse_append]
      rfl
  rcases alongside with ⟨other, length, rfl, rfl⟩ | ⟨rfl, short | ⟨other, length, rfl⟩⟩
  · exact batched length made (Or.inl rfl)
  · have shorter : part.reverse.length ≤ rest.reverse.length := by
      rwa [List.length_reverse, List.length_reverse]
    rcases joinReversed?_outer shorter made with ⟨inner, innerLength, rfl, again⟩
    refine ⟨inner.reverse, ?_, ?_, ?_⟩
    · rw [List.length_reverse, innerLength, List.length_reverse]
    · rw [List.reverse_append]
      rfl
    · rw [again 1, Option.map_some, List.reverse_append]
      rfl
  · exact batched length made (Or.inr rfl)

theorem project_cons {rest : Shape} {index : List Nat} (size coordinate : Nat)
    (length : index.length = rest.length) :
    project (size :: rest) (coordinate :: index) =
      (if size = 1 then 0 else coordinate) :: project rest index := by
  unfold project
  rw [List.length_cons, List.length_cons, length, Nat.sub_self, Nat.sub_self, List.drop_zero,
    List.drop_zero, List.zipWith_cons_cons]

end Shape

namespace Tensor

variable {α β γ : Type} [Inhabited α] [Inhabited β] [Inhabited γ] {batch row count : Nat}

structure Alongside (batch row count : Nat) (part whole : Tensor α) : Prop where
  shapes : Shape.Alongside batch count part.shape whole.shape
  same : ∀ index, index.length = count →
    Shape.Contains whole.shape (Shape.project whole.shape (row :: index)) →
    part.getJoined (0 :: index) = whole.getJoined (row :: index)

theorem IsRow.alongside {part whole : Tensor α} (isRow : IsRow batch row count part whole)
    (below : row < batch) : Alongside batch row count part whole := by
  rcases isRow with ⟨rest, length, wholeShape, partShape, same⟩
  refine ⟨Or.inl ⟨rest, length, wholeShape, partShape⟩, ?_⟩
  intro index indexLength inside
  have lengths : index.length = rest.length := indexLength.trans length.symm
  rw [wholeShape, Shape.project_cons _ _ lengths, Shape.project_coordinate below] at inside
  unfold getJoined
  rw [wholeShape, partShape, Shape.project_cons _ _ lengths, Shape.project_cons _ _ lengths,
    Shape.project_coordinate below, if_pos rfl]
  exact same _ inside.2

theorem alongside_short {tensor : Tensor α} (short : tensor.rank ≤ count) :
    Alongside batch row count tensor tensor := by
  refine ⟨Or.inr ⟨rfl, Or.inl short⟩, ?_⟩
  intro index length _
  have enough : tensor.shape.length ≤ index.length := by
    rw [length]
    exact short
  have front (first : Nat) : Shape.project tensor.shape (first :: index) =
      Shape.project tensor.shape index := Shape.project_append enough [first]
  unfold getJoined
  rw [front, front]

theorem alongside_single {tensor : Tensor α} {rest : Shape} (sizes : tensor.shape = 1 :: rest)
    (length : rest.length = count) : Alongside batch row count tensor tensor := by
  refine ⟨Or.inr ⟨rfl, Or.inr ⟨rest, length, sizes⟩⟩, ?_⟩
  intro index indexLength _
  have lengths : index.length = rest.length := indexLength.trans length.symm
  unfold getJoined
  rw [sizes, Shape.project_cons _ _ lengths, Shape.project_cons _ _ lengths, if_pos rfl, if_pos rfl]

theorem IsRow.combine {left leftPart : Tensor α} {right rightPart : Tensor β} {result : Tensor γ}
    (leftRow : IsRow batch row count leftPart left)
    (rightAlong : Alongside batch row count rightPart right) (below : row < batch)
    {operation : α → β → γ} (made : left.combine operation right = .ok result) :
    ∃ small, leftPart.combine operation rightPart = .ok small ∧
      IsRow batch row count small result := by
  have leftAlong := leftRow.alongside below
  have joined := shape_combine made
  have within := Shape.repeats_of_join? joined
  rcases leftRow with ⟨rest, rfl, leftShape, leftPartShape, _⟩
  rw [leftShape] at joined
  rcases Shape.join?_alongside rightAlong.shapes joined with
    ⟨others, othersLength, resultShape, partJoined⟩
  rw [← leftPartShape] at partJoined
  rcases combine_joined_reads operation partJoined with ⟨small, smallMade, smallShape, smallGet⟩
  refine ⟨small, smallMade, others, othersLength, resultShape, smallShape, ?_⟩
  intro index inside
  have indexLength : index.length = rest.length := inside.length_eq.trans othersLength
  have resultInside : Shape.Contains result.shape (row :: index) := by
    rw [resultShape]
    exact ⟨below, inside⟩
  have smallInside : Shape.Contains (1 :: others) (0 :: index) := ⟨Nat.one_pos, inside⟩
  rw [smallGet _ smallInside, get_combine made resultInside,
    leftAlong.same index indexLength (within.1.contains_project resultInside),
    rightAlong.same index indexLength (within.2.contains_project resultInside)]

omit [Inhabited γ] in
theorem combine_swap (operation : α → β → γ) (left : Tensor α) (right : Tensor β) :
    left.combine operation right =
      right.combine (fun second first => operation first second) left := by
  unfold combine
  rw [Shape.join?_comm]

theorem IsRow.choose {mask maskPart : Tensor Bool} {kept keptPart replacement replacementPart :
    Tensor α} {result : Tensor α} (maskAlong : Alongside batch row count maskPart mask)
    (keptRow : IsRow batch row count keptPart kept)
    (replacementAlong : Alongside batch row count replacementPart replacement)
    (below : row < batch) (made : mask.choose kept replacement = .ok result) :
    ∃ small, maskPart.choose keptPart replacementPart = .ok small ∧
      IsRow batch row count small result := by
  rcases exists_of_bind_ok made with ⟨visible, shown, filled⟩
  rw [combine_swap] at shown
  rcases keptRow.combine maskAlong below shown with ⟨visiblePart, partShown, visibleRow⟩
  rcases visibleRow.combine replacementAlong below filled with ⟨small, partFilled, smallRow⟩
  rw [← combine_swap] at partShown
  refine ⟨small, ?_, smallRow⟩
  simp only [Tensor.choose, partShown, bind, Except.bind]
  exact partFilled

end Tensor

namespace TypedTensor

variable {α : Type} [Arithmetic α] {batch row count : Nat}

theorem matrices_of_isRow {part whole : Tensor α}
    (isRow : Tensor.IsRow batch row (count + 2) part whole) :
    ∃ stack height width, stack.length = count ∧
      whole.shape = (batch :: stack) ++ [height, width] ∧
      part.shape = (1 :: stack) ++ [height, width] := by
  rcases isRow with ⟨rest, length, wholeShape, partShape, _⟩
  rcases Shape.exists_concat length with ⟨front, width, frontLength, rfl⟩
  rcases Shape.exists_concat frontLength with ⟨stack, height, stackLength, rfl⟩
  refine ⟨stack, height, width, stackLength, ?_, ?_⟩
  · rw [wholeShape, List.append_assoc]
    rfl
  · rw [partShape, List.append_assoc]
    rfl

theorem stackedProduct_row {left leftPart right rightPart result : Tensor α}
    (leftRow : Tensor.IsRow batch row (count + 2) leftPart left)
    (rightRow : Tensor.IsRow batch row (count + 2) rightPart right) (below : row < batch)
    {elementType : ElementType} (made : stackedProduct elementType left right = .ok result) :
    ∃ small, stackedProduct elementType leftPart rightPart = .ok small ∧
      Tensor.IsRow batch row (count + 2) small result := by
  have leftAlong := leftRow.alongside below
  have rightAlong := rightRow.alongside below
  rcases matrices_of_isRow leftRow with
    ⟨leftStack, height, inner, leftLength, leftSizes, leftPartSizes⟩
  rcases matrices_of_isRow rightRow with
    ⟨rightStack, other, width, rightLength, rightSizes, rightPartSizes⟩
  rcases stackedProduct_sizes leftSizes rightSizes made with ⟨rfl, stack, joined, _⟩
  have stackAlong :
      Shape.Alongside batch leftStack.length (1 :: rightStack) (batch :: rightStack) :=
    Or.inl ⟨rightStack, rightLength.trans leftLength.symm, rfl, rfl⟩
  rcases Shape.join?_alongside stackAlong joined with ⟨both, bothLength, rfl, partJoined⟩
  obtain ⟨again, againMade, resultShape, resultGet⟩ :=
    stackedProduct_reads elementType leftSizes rightSizes joined
  obtain rfl : again = result := Except.ok.inj (againMade.symm.trans made)
  obtain ⟨small, smallMade, smallShape, smallGet⟩ :=
    stackedProduct_reads elementType leftPartSizes rightPartSizes partJoined
  refine ⟨small, smallMade, both ++ [height, width], ?_, resultShape, smallShape, ?_⟩
  · rw [List.length_append, bothLength, leftLength]
    rfl
  · intro index inside
    rcases inside.exists_pair with ⟨place, line, column, rfl, outside, lineBelow, columnBelow⟩
    have wholeInside : Shape.Contains (batch :: both) (row :: place) := ⟨below, outside⟩
    have partInside : Shape.Contains (1 :: both) (0 :: place) := ⟨Nat.one_pos, outside⟩
    have indexLength (first second : Nat) : (place ++ [first, second]).length = count + 2 := by
      rw [List.length_append, outside.length_eq, bothLength, leftLength]
      rfl
    rcases Shape.repeats_of_join? joined with ⟨leftRepeats, rightRepeats⟩
    have lines : ((List.range inner).map fun step =>
        leftPart.getJoined ((0 :: place) ++ [line, step])) =
        (List.range inner).map fun step => left.getJoined ((row :: place) ++ [line, step]) := by
      apply List.map_congr_left
      intro step member
      apply leftAlong.same _ (indexLength line step)
      rw [leftSizes]
      exact (leftRepeats.append _).contains_project
        (wholeInside.pair lineBelow (List.mem_range.mp member))
    have columns : ((List.range inner).map fun step =>
        rightPart.getJoined ((0 :: place) ++ [step, column])) =
        (List.range inner).map fun step => right.getJoined ((row :: place) ++ [step, column]) := by
      apply List.map_congr_left
      intro step member
      apply rightAlong.same _ (indexLength step column)
      rw [rightSizes]
      exact (rightRepeats.append _).contains_project
        (wholeInside.pair (List.mem_range.mp member) columnBelow)
    have smallRead := smallGet (0 :: place) line column partInside lineBelow columnBelow
    have resultRead := resultGet (row :: place) line column wholeInside lineBelow columnBelow
    rw [lines, columns] at smallRead
    exact smallRead.trans resultRead.symm

end TypedTensor

end CausalAttention
