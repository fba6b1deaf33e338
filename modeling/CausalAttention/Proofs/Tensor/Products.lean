import CausalAttention.Proofs.Tensor.Regroup
import CausalAttention.Tensor.Typed

/-!
What the operations that compute with entries read: conversions, linear maps, matrix products
over a common stack, and entrywise operations with a tensor that is repeated along axes.
-/

set_option autoImplicit false

namespace CausalAttention

namespace Arithmetic

variable {α : Type} [Arithmetic α]

def cast (source target : ElementType) (value : α) : α :=
  if source = target then value else convert target value

end Arithmetic

namespace Tensor

variable {α β γ : Type} [Inhabited α] [Inhabited β] {tensor : Tensor α}

omit [Inhabited β] in
theorem rows_reads {stack : Shape} {features : Nat} {place : List Nat}
    (sizes : tensor.shape = stack ++ [features]) (inside : Shape.Contains stack place) :
    tensor.rows.get place =
      (List.range features).map fun feature => tensor.get (place ++ [feature]) := by
  have front : tensor.shape.dropLast = stack := by rw [sizes, List.dropLast_concat]
  have last : tensor.shape.getLastD 1 = features := by simp [sizes]
  rw [get_rows (by rw [front]; exact inside), last]

omit [Inhabited β] in
theorem transpose_reads {stack : Shape} {height width : Nat}
    (sizes : tensor.shape = stack ++ [height, width]) :
    ∃ turned, tensor.transpose = .ok turned ∧ turned.shape = stack ++ [width, height] ∧
      ∀ place row column, Shape.Contains stack place → row < height → column < width →
        turned.get (place ++ [column, row]) = tensor.get (place ++ [row, column]) := by
  have rankEq : tensor.rank = stack.length + 2 := by simp [rank, sizes]
  have swapped : Shape.swapAt stack.length tensor.shape = stack ++ [width, height] := by
    rw [sizes, Shape.swapAt_append]
  refine ⟨tensor.swapAxes stack.length, ?_, swapped, ?_⟩
  · rw [transpose_of_rank (by omega), rankEq, Nat.add_sub_cancel]
  · intro place row column inside rowBelow columnBelow
    have within : Shape.Contains (stack ++ [width, height]) (place ++ [column, row]) :=
      inside.pair columnBelow rowBelow
    rw [get_swapAxes (by rw [swapped]; exact within), ← inside.length_eq, Shape.swapAt_append]

theorem combine_joined_reads [Inhabited γ] (operation : α → β → γ) {left : Tensor α}
    {right : Tensor β} {shape : Shape} (joined : Shape.join? left.shape right.shape = some shape) :
    ∃ result, left.combine operation right = .ok result ∧ result.shape = shape ∧
      ∀ index, Shape.Contains shape index →
        result.get index = operation (left.getJoined index) (right.getJoined index) := by
  refine ⟨ofFn shape fun index => operation (left.getJoined index) (right.getJoined index),
    ?_, rfl, fun index inside => get_ofFn inside _⟩
  unfold combine
  rw [joined]

theorem combine_reads [Inhabited γ] (operation : α → β → γ) {left : Tensor α} {right : Tensor β}
    (repeats : Shape.Repeats right.shape left.shape) :
    ∃ result, left.combine operation right = .ok result ∧ result.shape = left.shape ∧
      ∀ index, Shape.Contains left.shape index →
        result.get index = operation (left.get index) (right.getJoined index) := by
  obtain ⟨result, combined, resultShape, resultGet⟩ :=
    combine_joined_reads operation repeats.join?.2
  refine ⟨result, combined, resultShape, ?_⟩
  intro index inside
  rw [resultGet index inside, getJoined_self inside]

theorem combine_left_reads [Inhabited γ] (operation : α → β → γ) {left : Tensor α}
    {right : Tensor β} (repeats : Shape.Repeats left.shape right.shape) :
    ∃ result, left.combine operation right = .ok result ∧ result.shape = right.shape ∧
      ∀ index, Shape.Contains right.shape index →
        result.get index = operation (left.getJoined index) (right.get index) := by
  obtain ⟨result, combined, resultShape, resultGet⟩ :=
    combine_joined_reads operation repeats.join?.1
  refine ⟨result, combined, resultShape, ?_⟩
  intro index inside
  rw [resultGet index inside, getJoined_self inside]

omit [Inhabited β] in
theorem choose_reads {mask : Tensor Bool} {kept replacement : Tensor α}
    (masked : Shape.Repeats mask.shape kept.shape)
    (replaced : Shape.Repeats replacement.shape kept.shape) :
    ∃ result, mask.choose kept replacement = .ok result ∧ result.shape = kept.shape ∧
      ∀ index, Shape.Contains kept.shape index →
        result.get index =
          if mask.getJoined index then kept.get index else replacement.getJoined index := by
  obtain ⟨visible, shown, visibleShape, visibleGet⟩ := combine_left_reads
    (fun (flag : Bool) (value : α) => if flag then some value else none) masked
  rw [← visibleShape] at replaced
  obtain ⟨result, filled, resultShape, resultGet⟩ := combine_reads
    (fun (value? : Option α) (other : α) => value?.getD other) replaced
  refine ⟨result, ?_, resultShape.trans visibleShape, ?_⟩
  · simp only [choose, shown, bind, Except.bind]
    exact filled
  · intro index inside
    rw [resultGet index (by rw [visibleShape]; exact inside), visibleGet index inside]
    split <;> rfl

end Tensor

namespace TypedTensor

variable {α : Type} [Arithmetic α]

omit [Arithmetic α] in
theorem relayout_of_ok {change : Tensor α → Except Failure (Tensor α)} {typed : TypedTensor α}
    {result : Tensor α} (changed : change typed.tensor = .ok result) :
    typed.relayout change = .ok ⟨typed.elementType, result⟩ := by
  simp only [relayout, changed, Except.map]

omit [Arithmetic α] in
theorem elementType_of_relayout {change : Tensor α → Except Failure (Tensor α)}
    {typed result : TypedTensor α} (made : typed.relayout change = .ok result) :
    result.elementType = typed.elementType := by
  rcases exists_of_map_ok made with ⟨tensor, _, rfl⟩
  rfl

@[simp] theorem elementType_convert (elementType : ElementType) (typed : TypedTensor α) :
    (typed.convert elementType).elementType = elementType := by
  unfold convert
  split
  · assumption
  · rfl

theorem get_convert (elementType : ElementType) (typed : TypedTensor α) {index : List Nat}
    (inside : Shape.Contains typed.shape index) :
    (typed.convert elementType).tensor.get index =
      Arithmetic.cast typed.elementType elementType (typed.tensor.get index) := by
  unfold convert Arithmetic.cast
  split
  · rfl
  · exact Tensor.get_map _ _ inside

theorem getJoined_convert (elementType : ElementType) (typed : TypedTensor α) {large : Shape}
    {index : List Nat} (repeats : Shape.Repeats typed.shape large)
    (inside : Shape.Contains large index) :
    (typed.convert elementType).tensor.getJoined index =
      Arithmetic.cast typed.elementType elementType (typed.tensor.getJoined index) := by
  have sameShape : (typed.convert elementType).tensor.shape = typed.tensor.shape :=
    shape_convert elementType typed
  unfold Tensor.getJoined
  rw [sameShape]
  exact get_convert elementType typed (repeats.contains_project inside)

/-- The product of the row at a place with a row of a matrix. -/
def projected (input matrix : TypedTensor α) (place : List Nat) (feature : Nat) : α :=
  Arithmetic.dot input.elementType (input.tensor.rows.get place) (matrix.tensor.rows.get [feature])

theorem elementType_of_mapRowPairs {operation : List α → List α → Nat → α}
    {input matrix result : TypedTensor α} (made : input.mapRowPairs operation matrix = .ok result) :
    input.elementType = matrix.elementType := by
  by_cases same : input.elementType = matrix.elementType
  · exact same
  · rw [mapRowPairs, if_pos same] at made
    contradiction

theorem mapRowPairs_reads (operation : List α → List α → Nat → α) {input matrix : TypedTensor α}
    {stack : Shape} {features outputs : Nat} (sameType : input.elementType = matrix.elementType)
    (inputSizes : input.shape = stack ++ [features])
    (matrixSizes : matrix.shape = [outputs, features]) :
    ∃ result, input.mapRowPairs operation matrix = .ok result ∧
      result.elementType = input.elementType ∧ result.shape = stack ++ [outputs] ∧
      ∀ place output, Shape.Contains stack place → output < outputs →
        result.tensor.get (place ++ [output]) =
          operation (input.tensor.rows.get place) (matrix.tensor.rows.get [output]) output := by
  have ranked : ¬(input.rank = 0 ∨ input.shape.getLast? ≠ matrix.shape.getLast?) := by
    have inputRank : input.rank = stack.length + 1 := by
      change input.shape.length = _
      simp [inputSizes]
    simp [inputRank, inputSizes, matrixSizes]
  have inputStack : input.tensor.shape.dropLast = stack := by
    change input.shape.dropLast = stack
    rw [inputSizes, List.dropLast_concat]
  have matrixStack : matrix.tensor.shape.dropLast = [outputs] := by
    change matrix.shape.dropLast = [outputs]
    rw [matrixSizes]
    rfl
  have made : input.mapRowPairs operation matrix =
      .ok ⟨input.elementType, Tensor.ofFn (input.tensor.rows.shape ++ matrix.tensor.rows.shape)
        fun index => operation (input.tensor.rows.get (index.take input.tensor.rows.rank))
          (matrix.tensor.rows.get (index.drop input.tensor.rows.rank))
          (index.getD input.tensor.rows.rank 0)⟩ := by
    simp only [mapRowPairs, if_neg (not_not_intro sameType), if_neg ranked]
  refine ⟨_, made, rfl, ?_, ?_⟩
  · change input.tensor.shape.dropLast ++ matrix.tensor.shape.dropLast = stack ++ [outputs]
    rw [inputStack, matrixStack]
  · intro place output inside below
    have rowsRank : input.tensor.rows.rank = place.length := by
      rw [inside.length_eq, ← inputStack]
      rfl
    have within : Shape.Contains (input.tensor.rows.shape ++ matrix.tensor.rows.shape)
        (place ++ [output]) := by
      rw [Tensor.shape_rows, Tensor.shape_rows, inputStack, matrixStack]
      exact inside.concat below
    rw [Tensor.get_ofFn within, rowsRank]
    simp

theorem linear_reads {input matrix : TypedTensor α} {stack : Shape} {features outputs : Nat}
    (sameType : input.elementType = matrix.elementType)
    (inputSizes : input.shape = stack ++ [features])
    (matrixSizes : matrix.shape = [outputs, features]) :
    ∃ result, input.linear matrix = .ok result ∧
      result.elementType = input.elementType ∧ result.shape = stack ++ [outputs] ∧
      ∀ place output, Shape.Contains stack place → output < outputs →
        result.tensor.get (place ++ [output]) = input.projected matrix place output :=
  mapRowPairs_reads _ sameType inputSizes matrixSizes

/-! ### Matrix products -/

section Sizes

variable {left right : Tensor α} {leftStack rightStack : Shape} {height inner other width : Nat}

theorem stackedProduct_eq (elementType : ElementType)
    (leftSizes : left.shape = leftStack ++ [height, inner]) {turned : Tensor α}
    (transposed : right.transpose = .ok turned)
    (turnedSizes : turned.shape = rightStack ++ [width, other]) :
    stackedProduct elementType left right =
      if inner ≠ other then .error .sizesDisagree
      else
        match Shape.join? leftStack rightStack with
        | none => .error .sizesDisagree
        | some stack =>
            .ok (Tensor.ofFn (stack ++ [height, width]) fun index =>
              Arithmetic.dot elementType
                (left.rows.getJoined (index.take stack.length ++ [index.getD stack.length 0]))
                (turned.rows.getJoined
                  (index.take stack.length ++ [index.getD (stack.length + 1) 0]))) := by
  have leftRank : left.rank = leftStack.length + 2 := by simp [Tensor.rank, leftSizes]
  have turnedRank : turned.rank = rightStack.length + 2 := by simp [Tensor.rank, turnedSizes]
  have lastSizes : left.shape.getLast? ≠ turned.shape.getLast? ↔ inner ≠ other := by
    simp [leftSizes, turnedSizes]
  have leftOuter : left.shape.take (left.rank - 2) = leftStack := by simp [leftRank, leftSizes]
  have rightOuter : turned.shape.take (turned.rank - 2) = rightStack := by
    simp [turnedRank, turnedSizes]
  have heightEq : left.extent (left.rank - 2) = height := by
    simp [Tensor.extent, leftRank, leftSizes]
  have widthEq : turned.extent (turned.rank - 2) = width := by
    simp [Tensor.extent, turnedRank, turnedSizes]
  cases joined : Shape.join? leftStack rightStack with
  | none =>
      simp only [stackedProduct, transposed, bind, Except.bind, lastSizes, leftOuter, rightOuter,
        joined]
  | some stack =>
      simp only [stackedProduct, transposed, bind, Except.bind, lastSizes, leftOuter, rightOuter,
        joined, heightEq, widthEq]

theorem stackedProduct_sizes {elementType : ElementType} {result : Tensor α}
    (leftSizes : left.shape = leftStack ++ [height, inner])
    (rightSizes : right.shape = rightStack ++ [other, width])
    (made : stackedProduct elementType left right = .ok result) :
    inner = other ∧ ∃ stack, Shape.join? leftStack rightStack = some stack ∧
      result.shape = stack ++ [height, width] := by
  rcases Tensor.transpose_reads rightSizes with ⟨turned, transposed, turnedSizes, _⟩
  rw [stackedProduct_eq elementType leftSizes transposed turnedSizes] at made
  split at made
  · contradiction
  · rename_i agree
    split at made
    · contradiction
    · rename_i stack joined
      cases made
      exact ⟨Decidable.not_not.mp agree, stack, joined, rfl⟩

end Sizes

theorem rows_getJoined {tensor : Tensor α} {stack : Shape} {height features : Nat}
    {large : Shape} {place : List Nat} {row : Nat}
    (sizes : tensor.shape = stack ++ [height, features]) (repeats : Shape.Repeats stack large)
    (inside : Shape.Contains large place) (below : row < height) :
    tensor.rows.getJoined (place ++ [row]) =
      (List.range features).map fun feature => tensor.getJoined (place ++ [row, feature]) := by
  have enough : stack.length ≤ place.length := by
    rw [inside.length_eq]
    exact repeats.length_le
  have stacked : tensor.shape = (stack ++ [height]) ++ [features] := by simp [sizes]
  have rowsShape : tensor.rows.shape = stack ++ [height] := by
    rw [Tensor.shape_rows, stacked, List.dropLast_concat]
  have rowInside : Shape.Contains [height] [row] := ⟨below, trivial⟩
  have placed : Shape.Contains (stack ++ [height]) (Shape.project stack place ++ [row]) :=
    (repeats.contains_project inside).concat below
  unfold Tensor.getJoined
  rw [rowsShape, Shape.project_append_inside enough rowInside, Tensor.rows_reads stacked placed]
  apply List.map_congr_left
  intro feature member
  have pairInside : Shape.Contains [height, features] [row, feature] :=
    ⟨below, List.mem_range.mp member, trivial⟩
  rw [sizes, Shape.project_append_inside enough pairInside, List.append_assoc]
  rfl

theorem stackedProduct_reads (elementType : ElementType) {left right : Tensor α}
    {leftStack rightStack stack : Shape} {height inner width : Nat}
    (leftSizes : left.shape = leftStack ++ [height, inner])
    (rightSizes : right.shape = rightStack ++ [inner, width])
    (joined : Shape.join? leftStack rightStack = some stack) :
    ∃ result, stackedProduct elementType left right = .ok result ∧
      result.shape = stack ++ [height, width] ∧
      ∀ place row column, Shape.Contains stack place → row < height → column < width →
        result.get (place ++ [row, column]) =
          Arithmetic.dot elementType
            ((List.range inner).map fun step => left.getJoined (place ++ [row, step]))
            ((List.range inner).map fun step => right.getJoined (place ++ [step, column])) := by
  rcases Tensor.transpose_reads rightSizes with ⟨turned, transposed, turnedSizes, turnedGet⟩
  rcases Shape.repeats_of_join? joined with ⟨leftRepeats, rightRepeats⟩
  have made := stackedProduct_eq elementType leftSizes transposed turnedSizes
  rw [if_neg (not_not_intro rfl), joined] at made
  refine ⟨_, made, rfl, ?_⟩
  intro place row column inside rowBelow columnBelow
  have placeLength := inside.length_eq
  have taken : (place ++ [row, column]).take stack.length = place := by simp [← placeLength]
  have rowAt : (place ++ [row, column]).getD stack.length 0 = row := by simp [← placeLength]
  have columnAt : (place ++ [row, column]).getD (stack.length + 1) 0 = column := by
    simp [← placeLength]
  have enough : rightStack.length ≤ place.length := by
    rw [placeLength]
    exact rightRepeats.length_le
  rw [Tensor.get_ofFn (inside.pair rowBelow columnBelow), taken, rowAt, columnAt,
    rows_getJoined leftSizes leftRepeats inside rowBelow,
    rows_getJoined turnedSizes rightRepeats inside columnBelow]
  congr 1
  apply List.map_congr_left
  intro step member
  have stepBelow := List.mem_range.mp member
  have turnedInside : Shape.Contains [width, inner] [column, step] :=
    ⟨columnBelow, stepBelow, trivial⟩
  have rightInside : Shape.Contains [inner, width] [step, column] :=
    ⟨stepBelow, columnBelow, trivial⟩
  unfold Tensor.getJoined
  rw [turnedSizes, rightSizes, Shape.project_append_inside enough turnedInside,
    Shape.project_append_inside enough rightInside,
    turnedGet _ step column (rightRepeats.contains_project inside) stepBelow columnBelow]

omit [Arithmetic α] in
theorem rank_of_matrices {typed : TypedTensor α} {stack : Shape} {height width : Nat}
    (sizes : typed.shape = stack ++ [height, width]) : 2 ≤ typed.rank := by
  change 2 ≤ typed.shape.length
  simp [sizes]

theorem product_eq {left right : TypedTensor α} (leftTall : 2 ≤ left.rank)
    (rightTall : 2 ≤ right.rank) (sameType : left.elementType = right.elementType) :
    left.product right = do
      let full ← stackedProduct left.elementType left.tensor right.tensor
      if left.elementType = .bool && multiplies left.tensor right.tensor full then
        .error .unsupportedElementType
      return ⟨left.elementType, full⟩ := by
  have ranks : ¬(left.rank = 0 ∨ right.rank = 0) := by omega
  have leftMatrix : left.rank ≠ 1 := by omega
  have rightMatrix : right.rank ≠ 1 := by omega
  simp only [product, if_neg ranks, if_neg (not_not_intro sameType), if_neg leftMatrix,
    if_neg rightMatrix, Tensor.reshape_self]
  rfl

theorem product_joined_reads {left right : TypedTensor α} {leftStack rightStack stack : Shape}
    {height inner width : Nat} (sameType : left.elementType = right.elementType)
    (numeric : left.elementType ≠ .bool) (leftSizes : left.shape = leftStack ++ [height, inner])
    (rightSizes : right.shape = rightStack ++ [inner, width])
    (joined : Shape.join? leftStack rightStack = some stack) :
    ∃ result, left.product right = .ok result ∧ result.elementType = left.elementType ∧
      result.shape = stack ++ [height, width] ∧
      ∀ place row column, Shape.Contains stack place → row < height → column < width →
        result.tensor.get (place ++ [row, column]) =
          Arithmetic.dot left.elementType
            ((List.range inner).map fun step => left.tensor.getJoined (place ++ [row, step]))
            ((List.range inner).map fun step =>
              right.tensor.getJoined (place ++ [step, column])) := by
  have leftTall := rank_of_matrices leftSizes
  have rightTall := rank_of_matrices rightSizes
  obtain ⟨full, multiplied, fullShape, fullGet⟩ :=
    stackedProduct_reads left.elementType leftSizes rightSizes joined
  refine ⟨⟨left.elementType, full⟩, ?_, rfl, fullShape, fullGet⟩
  rw [product_eq leftTall rightTall sameType, multiplied]
  simp only [decide_eq_false numeric, Bool.false_and, bind, Except.bind, pure, Except.pure]
  rfl

theorem product_reads {left right : TypedTensor α} {stack : Shape} {height inner width : Nat}
    (sameType : left.elementType = right.elementType) (numeric : left.elementType ≠ .bool)
    (leftSizes : left.shape = stack ++ [height, inner])
    (rightSizes : right.shape = stack ++ [inner, width]) :
    ∃ result, left.product right = .ok result ∧ result.elementType = left.elementType ∧
      result.shape = stack ++ [height, width] ∧
      ∀ place row column, Shape.Contains stack place → row < height → column < width →
        result.tensor.get (place ++ [row, column]) =
          Arithmetic.dot left.elementType
            ((List.range inner).map fun step => left.tensor.get (place ++ [row, step]))
            ((List.range inner).map fun step => right.tensor.get (place ++ [step, column])) := by
  obtain ⟨result, multiplied, resultType, resultShape, resultGet⟩ :=
    product_joined_reads sameType numeric leftSizes rightSizes (Shape.join?_self stack)
  refine ⟨result, multiplied, resultType, resultShape, ?_⟩
  intro place row column inside rowBelow columnBelow
  rw [resultGet place row column inside rowBelow columnBelow]
  congr 1
  · apply List.map_congr_left
    intro step member
    apply Tensor.getJoined_self
    change Shape.Contains left.shape _
    rw [leftSizes]
    exact inside.pair rowBelow (List.mem_range.mp member)
  · apply List.map_congr_left
    intro step member
    apply Tensor.getJoined_self
    change Shape.Contains right.shape _
    rw [rightSizes]
    exact inside.pair (List.mem_range.mp member) columnBelow

section ProductSizes

variable {left right : TypedTensor α} {leftStack rightStack : Shape}
  {height inner other width : Nat}

theorem product_sizes (leftSizes : left.shape = leftStack ++ [height, inner])
    (rightSizes : right.shape = rightStack ++ [other, width]) {result : TypedTensor α}
    (sameType : left.elementType = right.elementType) (made : left.product right = .ok result) :
    inner = other ∧ result.elementType = left.elementType ∧
      ∃ stack, Shape.join? leftStack rightStack = some stack ∧
        result.shape = stack ++ [height, width] := by
  have leftTall := rank_of_matrices leftSizes
  have rightTall := rank_of_matrices rightSizes
  rw [product_eq leftTall rightTall sameType] at made
  rcases exists_of_bind_ok made with ⟨full, multiplied, made⟩
  rcases stackedProduct_sizes leftSizes rightSizes multiplied with ⟨agree, joined⟩
  simp only [bind, Except.bind, pure, Except.pure] at made
  split at made
  · contradiction
  · cases made
    exact ⟨agree, rfl, joined⟩

theorem exists_product (leftSizes : left.shape = leftStack ++ [height, inner])
    (rightSizes : right.shape = rightStack ++ [inner, width])
    (sameType : left.elementType = right.elementType) (numeric : left.elementType ≠ .bool)
    {stack : Shape} (joined : Shape.join? leftStack rightStack = some stack) :
    ∃ result, left.product right = .ok result ∧ result.elementType = left.elementType ∧
      result.shape = stack ++ [height, width] := by
  obtain ⟨result, multiplied, resultType, resultShape, _⟩ :=
    product_joined_reads sameType numeric leftSizes rightSizes joined
  exact ⟨result, multiplied, resultType, resultShape⟩

end ProductSizes

end TypedTensor

end CausalAttention
