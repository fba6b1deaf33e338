import CausalAttention.Attend
import CausalAttention.Proofs.Tensor.Slice

/-!
What attention answers with, entry by entry: the score of every key, the weights of a row of
scores, and the values that a row of weights mixes. Nothing is assumed of the scalar operations.
-/

set_option autoImplicit false

namespace CausalAttention

namespace ElementType

theorem joinRanked_self (type : ElementType) (leftRank rightRank : Nat) :
    type.joinRanked leftRank type rightRank = type := by
  unfold joinRanked
  rw [join_self]
  split
  · rfl
  · split <;> rfl

theorem joinRanked_of_axes (left right : ElementType) {leftRank rightRank : Nat}
    (leftAxes : leftRank ≠ 0) (rightAxes : rightRank ≠ 0) :
    left.joinRanked leftRank right rightRank = left.join right := by
  unfold joinRanked
  rw [if_neg (fun other => rightAxes other.2.1), if_neg (fun other => leftAxes other.1)]

theorem isFloating_joinRanked {left : ElementType} (floating : left.isFloating = true)
    (right : ElementType) {leftRank : Nat} (axes : leftRank ≠ 0) (rightRank : Nat) :
    (left.joinRanked leftRank right rightRank).isFloating = true := by
  have joined : (left.join right).isFloating = true := by
    revert floating
    cases left <;> cases right <;> decide
  unfold joinRanked
  split
  · exact floating
  · rw [if_neg fun none => axes none.1]
    exact joined

end ElementType

variable {α : Type} [Arithmetic α]

namespace TypedTensor

/-- An entry of one type times a factor of another. A single factor is not narrowed when a wider
type accumulates for the product. -/
def factorEntry (type : ElementType) (factors : TypedTensor α) (entry factor : α) : α :=
  let elementType := type.join factors.elementType
  let wide := elementType.accumulator
  if wide ≠ elementType ∧ Shape.volume factors.shape = 1 then
    Arithmetic.convert elementType
      (Arithmetic.multiply wide (Arithmetic.convert wide (Arithmetic.cast type elementType entry))
        (Arithmetic.cast factors.elementType wide factor))
  else
    Arithmetic.multiply elementType (Arithmetic.cast type elementType entry)
      (Arithmetic.cast factors.elementType elementType factor)

theorem add_eq {left right : TypedTensor α} (sameType : left.elementType = right.elementType) :
    left.add right =
      (left.tensor.combine (Arithmetic.add left.elementType) right.tensor).map fun tensor =>
        ⟨left.elementType, tensor⟩ := by
  have joined : left.joinType right = left.elementType := by
    unfold joinType
    rw [← sameType, ElementType.joinRanked_self]
  have leftSelf : (left.convert left.elementType).tensor = left.tensor := by rw [convert_self]
  have rightSelf : (right.convert left.elementType).tensor = right.tensor := by
    rw [sameType, convert_self]
  simp only [add, combine, joined, leftSelf, rightSelf]

theorem add_reads {left right : TypedTensor α} (sameType : left.elementType = right.elementType)
    (repeats : Shape.Repeats right.shape left.shape) :
    ∃ result, left.add right = .ok result ∧ result.elementType = left.elementType ∧
      result.shape = left.shape ∧
      ∀ index, Shape.Contains left.shape index →
        result.tensor.get index =
          Arithmetic.add left.elementType (left.tensor.get index)
            (right.tensor.getJoined index) := by
  obtain ⟨result, combined, resultShape, resultGet⟩ := Tensor.combine_reads
    (Arithmetic.add left.elementType)
    repeats
  refine ⟨⟨left.elementType, result⟩, ?_, rfl, resultShape, resultGet⟩
  simp only [add_eq sameType, combined, Except.map]

theorem combine_reads (operation : ElementType → α → α → α) {left right : TypedTensor α}
    (repeats : Shape.Repeats right.shape left.shape) :
    ∃ result, left.combine operation right = .ok result ∧
      result.elementType = left.joinType right ∧ result.shape = left.shape ∧
      ∀ index, Shape.Contains left.shape index →
        result.tensor.get index =
          operation (left.joinType right)
            (Arithmetic.cast left.elementType (left.joinType right) (left.tensor.get index))
            (Arithmetic.cast right.elementType (left.joinType right)
              (right.tensor.getJoined index)) := by
  have leftShape : (left.convert (left.joinType right)).tensor.shape = left.tensor.shape :=
    shape_convert _ left
  have rightShape : (right.convert (left.joinType right)).tensor.shape = right.tensor.shape :=
    shape_convert _ right
  have spread : Shape.Repeats (right.convert (left.joinType right)).tensor.shape
      (left.convert (left.joinType right)).tensor.shape := by
    rw [leftShape, rightShape]
    exact repeats
  obtain ⟨result, combined, resultShape, resultGet⟩ :=
    Tensor.combine_reads (operation (left.joinType right)) spread
  refine ⟨⟨left.joinType right, result⟩, ?_, rfl, resultShape.trans leftShape, ?_⟩
  · simp only [combine, combined, Except.map]
  · intro index inside
    rw [resultGet index (by rw [leftShape]; exact inside), get_convert _ _ inside,
      getJoined_convert _ _ repeats inside]

theorem multiply_reads {left factors : TypedTensor α} (leftAxes : left.rank ≠ 0)
    (factorAxes : factors.rank ≠ 0) (repeats : Shape.Repeats factors.shape left.shape) :
    ∃ result, left.multiply factors = .ok result ∧
      result.elementType = left.elementType.join factors.elementType ∧
      result.shape = left.shape ∧
      ∀ index, Shape.Contains left.shape index →
        result.tensor.get index =
          factorEntry left.elementType factors (left.tensor.get index)
            (factors.tensor.getJoined index) := by
  have joined : left.joinType factors = left.elementType.join factors.elementType :=
    ElementType.joinRanked_of_axes _ _ leftAxes factorAxes
  by_cases single : (left.joinType factors).accumulator ≠ left.joinType factors ∧
      Shape.volume factors.shape = 1
  · have leftShape : (left.convert (left.joinType factors)).tensor.shape = left.tensor.shape :=
      shape_convert _ left
    have factorsShape : (factors.convert (left.joinType factors).accumulator).tensor.shape =
        factors.tensor.shape := shape_convert _ factors
    have spread : Shape.Repeats
        (factors.convert (left.joinType factors).accumulator).tensor.shape
        (left.convert (left.joinType factors)).tensor.shape := by
      rw [leftShape, factorsShape]
      exact repeats
    obtain ⟨result, combined, resultShape, resultGet⟩ := Tensor.combine_reads
      (fun entry factor => Arithmetic.convert (left.joinType factors)
        (Arithmetic.multiply (left.joinType factors).accumulator
          (Arithmetic.convert (left.joinType factors).accumulator entry) factor)) spread
    refine ⟨⟨left.joinType factors, result⟩, ?_, joined, resultShape.trans leftShape, ?_⟩
    · simp only [multiply, if_pos single, scale, combined, Except.map]
    · intro index inside
      rw [resultGet index (by rw [leftShape]; exact inside), get_convert _ _ inside,
        getJoined_convert _ _ repeats inside]
      rw [joined] at single ⊢
      simp only [factorEntry, if_pos single]
  · obtain ⟨result, combined, resultType, resultShape, resultGet⟩ :=
      combine_reads Arithmetic.multiply repeats
    refine ⟨result, ?_, resultType.trans joined, resultShape, ?_⟩
    · simp only [multiply, if_neg single, combined]
    · intro index inside
      rw [resultGet index inside]
      rw [joined] at single ⊢
      simp only [factorEntry, if_neg single]

theorem softmax_reads {typed : TypedTensor α} {stack : Shape} {height width : Nat}
    (sizes : typed.shape = stack ++ [height, width]) {place : List Nat} {row column : Nat}
    (inside : Shape.Contains stack place) (rowBelow : row < height) (columnBelow : column < width) :
    typed.softmax.tensor.get (place ++ [row, column]) =
      (Arithmetic.softmax typed.elementType
        ((List.range width).map fun slot => typed.tensor.get (place ++ [row, slot]))).getD
          column default := by
  have rowSizes : typed.tensor.shape = (stack ++ [height]) ++ [width] := by
    change typed.shape = _
    rw [sizes, List.append_assoc]
    rfl
  have split : place ++ [row, column] = (place ++ [row]) ++ [column] := by simp
  have within : Shape.Contains typed.tensor.shape (place ++ [row, column]) := by
    change Shape.Contains typed.shape _
    rw [sizes]
    exact inside.pair rowBelow columnBelow
  have last : (place ++ [row, column]).getLastD 0 = column := by simp
  unfold softmax
  rw [Tensor.get_mapRows within, last, split, List.dropLast_concat,
    Tensor.rows_reads rowSizes (inside.concat rowBelow)]
  simp only [List.append_assoc, List.cons_append, List.nil_append]

end TypedTensor

namespace Attended

def similarity (type : ElementType) (query key : List α) : α :=
  Arithmetic.dot .float32 (query.map (Arithmetic.cast type .float32))
    (key.map (Arithmetic.cast type .float32))

def hiddenScore (maskedBias : TypedTensor α) : α :=
  Arithmetic.atLeast (Arithmetic.ofInteger .float32 Arithmetic.lowestSingle)
    (Arithmetic.cast maskedBias.elementType .float32 (maskedBias.tensor.get []))

def plus (additive : Option (TypedTensor α)) (index : List Nat) (score : α) : α :=
  match additive with
  | none => score
  | some terms => Arithmetic.add .float32 score (terms.tensor.getJoined index)

def times (type : ElementType) (headMask : Option (TypedTensor α)) (index : List Nat)
    (weight : α) : α :=
  match headMask with
  | none => weight
  | some factors => TypedTensor.factorEntry type factors weight (factors.tensor.getJoined index)

def score (query key : TypedTensor α) (visible : Tensor Bool) (maskedBias : TypedTensor α)
    (additive : Option (TypedTensor α)) (size : Nat) (place : List Nat) (row slot : Nat) : α :=
  plus additive (place ++ [row, slot])
    (if visible.getJoined (place ++ [row, slot]) then
      similarity query.elementType
        ((List.range size).map fun feature => query.tensor.get (place ++ [row, feature]))
        ((List.range size).map fun feature => key.tensor.get (place ++ [slot, feature]))
    else hiddenScore maskedBias)

def share (type : ElementType) (scores : List α) (slot : Nat) : α :=
  Arithmetic.cast .float32 type ((Arithmetic.softmax .float32 scores).getD slot default)

/-- Operands of attention whose types and sizes go together. -/
structure Fits (query key value : TypedTensor α) (visible : Tensor Bool)
    (maskedBias : TypedTensor α) (additive headMask : Option (TypedTensor α))
    (type : ElementType) (stack : Shape) (queries keys size : Nat) : Prop where
  numeric : type ≠ .bool
  queryType : query.elementType = type
  keyType : key.elementType = type
  valueType : value.elementType = type
  queryShape : query.shape = stack ++ [queries, size]
  keyShape : key.shape = stack ++ [keys, size]
  valueShape : value.shape = stack ++ [keys, size]
  visibleShape : Shape.Repeats visible.shape (stack ++ [queries, keys])
  biasShape : maskedBias.shape = []
  additiveType : ∀ terms ∈ additive, terms.elementType = .float32
  additiveShape : ∀ terms ∈ additive, Shape.Repeats terms.shape (stack ++ [queries, keys])
  headMaskAxes : ∀ factors ∈ headMask, factors.rank ≠ 0
  headMaskShape : ∀ factors ∈ headMask, Shape.Repeats factors.shape (stack ++ [queries, keys])

/-- An answer whose weights are given by a function, and whose output mixes values by them. -/
structure Mixes (attended : Attended α) (type : ElementType) (stack : Shape)
    (queries keys size : Nat) (weight value : List Nat → Nat → Nat → α) : Prop where
  weightsType : attended.weights.elementType = type
  weightsShape : attended.weights.shape = stack ++ [queries, keys]
  outputType : attended.output.elementType = type
  outputShape : attended.output.shape = stack ++ [queries, size]
  weightsGet : ∀ place row slot, Shape.Contains stack place → row < queries → slot < keys →
    attended.weights.tensor.get (place ++ [row, slot]) = weight place row slot
  outputGet : ∀ place row feature, Shape.Contains stack place → row < queries → feature < size →
    attended.output.tensor.get (place ++ [row, feature]) =
      Arithmetic.dot type ((List.range keys).map (weight place row))
        ((List.range keys).map fun slot => value place slot feature)

variable {query key value : TypedTensor α} {visible : Tensor Bool} {maskedBias : TypedTensor α}
  {additive headMask : Option (TypedTensor α)} {type : ElementType} {stack : Shape}
  {queries keys size : Nat}

theorem bias_reads {maskedBias : TypedTensor α} (biasShape : maskedBias.shape = []) :
    ((maskedBias.convert .float32).tensor.map
        (Arithmetic.atLeast (Arithmetic.ofInteger .float32 Arithmetic.lowestSingle))).shape = [] ∧
      ∀ index, ((maskedBias.convert .float32).tensor.map
        (Arithmetic.atLeast (Arithmetic.ofInteger .float32 Arithmetic.lowestSingle))).getJoined
          index = hiddenScore maskedBias := by
  have converted : (maskedBias.convert .float32).shape = [] :=
    (TypedTensor.shape_convert _ maskedBias).trans biasShape
  refine ⟨converted, ?_⟩
  intro index
  have empty : Shape.Contains maskedBias.shape [] := by
    rw [biasShape]
    trivial
  have emptyConverted : Shape.Contains (maskedBias.convert .float32).shape [] := by
    rw [converted]
    trivial
  have project : Shape.project (maskedBias.convert .float32).shape index = [] := by
    rw [converted, Shape.project_nil]
  unfold Tensor.getJoined
  rw [Tensor.shape_map]
  change ((maskedBias.convert .float32).tensor.map _).get
    (Shape.project (maskedBias.convert .float32).shape index) = _
  rw [project, Tensor.get_map _ _ emptyConverted, TypedTensor.get_convert _ _ empty]
  rfl

theorem keyColumns_reads {key : TypedTensor α} {keyStack stack : Shape} {keys size : Nat}
    (keyShape : key.shape = keyStack ++ [keys, size]) (repeats : Shape.Repeats keyStack stack) :
    ∃ columns, (key.convert .float32).relayout Tensor.transpose = .ok ⟨.float32, columns⟩ ∧
      columns.shape = keyStack ++ [size, keys] ∧
      ∀ place slot step, Shape.Contains stack place → slot < keys → step < size →
        columns.getJoined (place ++ [step, slot]) =
          Arithmetic.cast key.elementType .float32 (key.tensor.getJoined (place ++ [slot, step])) := by
  have converted : (key.convert .float32).tensor.shape = keyStack ++ [keys, size] :=
    (TypedTensor.shape_convert _ key).trans keyShape
  rcases Tensor.transpose_reads converted with ⟨columns, turned, columnsShape, columnsGet⟩
  have relaid : (key.convert .float32).relayout Tensor.transpose = .ok ⟨.float32, columns⟩ := by
    rw [TypedTensor.relayout_of_ok turned, TypedTensor.elementType_convert]
  refine ⟨columns, relaid, columnsShape, ?_⟩
  intro place slot step inside slotBelow stepBelow
  have enough : keyStack.length ≤ place.length := by
    rw [inside.length_eq]
    exact repeats.length_le
  have placed := repeats.contains_project inside
  have turnedInside : Shape.Contains [size, keys] [step, slot] := ⟨stepBelow, slotBelow, trivial⟩
  have keyInside : Shape.Contains [keys, size] [slot, step] := ⟨slotBelow, stepBelow, trivial⟩
  have keyWithin : Shape.Contains key.shape (Shape.project keyStack place ++ [slot, step]) := by
    rw [keyShape]
    exact placed.pair slotBelow stepBelow
  have keyTensor : key.tensor.shape = keyStack ++ [keys, size] := keyShape
  unfold Tensor.getJoined
  rw [columnsShape, keyTensor, Shape.project_append_inside enough turnedInside,
    Shape.project_append_inside enough keyInside,
    columnsGet _ slot step placed slotBelow stepBelow, TypedTensor.get_convert _ _ keyWithin]

theorem similarities_reads {query key : TypedTensor α} {queryStack keyStack stack : Shape}
    {queries keys size : Nat} (queryShape : query.shape = queryStack ++ [queries, size])
    (keyShape : key.shape = keyStack ++ [keys, size])
    (joined : Shape.join? queryStack keyStack = some stack) :
    ∃ columns scores, (key.convert .float32).relayout Tensor.transpose = .ok columns ∧
      (query.convert .float32).product columns = .ok scores ∧
      scores.shape = stack ++ [queries, keys] ∧
      ∀ place row slot, Shape.Contains stack place → row < queries → slot < keys →
        scores.tensor.get (place ++ [row, slot]) =
          Arithmetic.dot .float32
            ((List.range size).map fun step => Arithmetic.cast query.elementType .float32
              (query.tensor.getJoined (place ++ [row, step])))
            ((List.range size).map fun step => Arithmetic.cast key.elementType .float32
              (key.tensor.getJoined (place ++ [slot, step]))) := by
  rcases Shape.repeats_of_join? joined with ⟨queryRepeats, keyRepeats⟩
  rcases keyColumns_reads keyShape keyRepeats with ⟨columns, relaid, columnsShape, columnsGet⟩
  have queryConverted : (query.convert .float32).shape = queryStack ++ [queries, size] :=
    (TypedTensor.shape_convert _ query).trans queryShape
  have sameType : (query.convert .float32).elementType =
      (⟨.float32, columns⟩ : TypedTensor α).elementType := TypedTensor.elementType_convert _ query
  have numeric : (query.convert .float32).elementType ≠ .bool := by
    rw [TypedTensor.elementType_convert]
    exact ElementType.noConfusion
  obtain ⟨scores, multiplied, scoresType, scoresShape, scoresGet⟩ :=
    TypedTensor.product_joined_reads sameType numeric queryConverted columnsShape joined
  refine ⟨⟨.float32, columns⟩, scores, relaid, multiplied, scoresShape, ?_⟩
  intro place row slot inside rowBelow slotBelow
  have queryRow : ((List.range size).map fun step =>
      (query.convert .float32).tensor.getJoined (place ++ [row, step])) =
      (List.range size).map fun step => Arithmetic.cast query.elementType .float32
        (query.tensor.getJoined (place ++ [row, step])) := by
    apply List.map_congr_left
    intro step member
    have repeats : Shape.Repeats query.shape (stack ++ [queries, size]) := by
      rw [queryShape]
      exact queryRepeats.append _
    exact TypedTensor.getJoined_convert _ _ repeats
      (inside.pair rowBelow (List.mem_range.mp member))
  have keyRow : ((List.range size).map fun step => columns.getJoined (place ++ [step, slot])) =
      (List.range size).map fun step => Arithmetic.cast key.elementType .float32
        (key.tensor.getJoined (place ++ [slot, step])) :=
    List.map_congr_left fun step member =>
      columnsGet place slot step inside slotBelow (List.mem_range.mp member)
  rw [scoresGet place row slot inside rowBelow slotBelow, TypedTensor.elementType_convert, queryRow,
    keyRow]

/-- Scores over the common stack of queries and keys, whatever the types of these. -/
theorem maskedScores_joined_reads {query key : TypedTensor α} {visible : Tensor Bool}
    {maskedBias : TypedTensor α} {queryStack keyStack stack : Shape} {queries keys size : Nat}
    (queryShape : query.shape = queryStack ++ [queries, size])
    (keyShape : key.shape = keyStack ++ [keys, size])
    (joined : Shape.join? queryStack keyStack = some stack)
    (visibleShape : Shape.Repeats visible.shape (stack ++ [queries, keys]))
    (biasShape : maskedBias.shape = []) :
    ∃ scores, maskedScores query key visible maskedBias = .ok scores ∧
      scores.elementType = .float32 ∧ scores.shape = stack ++ [queries, keys] ∧
      ∀ place row slot, Shape.Contains stack place → row < queries → slot < keys →
        scores.tensor.get (place ++ [row, slot]) =
          if visible.getJoined (place ++ [row, slot]) then
            Arithmetic.dot .float32
              ((List.range size).map fun step => Arithmetic.cast query.elementType .float32
                (query.tensor.getJoined (place ++ [row, step])))
              ((List.range size).map fun step => Arithmetic.cast key.elementType .float32
                (key.tensor.getJoined (place ++ [slot, step])))
          else hiddenScore maskedBias := by
  obtain ⟨columns, scores, relaid, multiplied, scoresShape, scoresGet⟩ :=
    similarities_reads queryShape keyShape joined
  rcases bias_reads biasShape with ⟨biasConverted, biasGet⟩
  have visibleRepeats : Shape.Repeats visible.shape scores.tensor.shape := by
    change Shape.Repeats visible.shape scores.shape
    rw [scoresShape]
    exact visibleShape
  obtain ⟨chosen, chose, chosenShape, chosenGet⟩ := Tensor.choose_reads visibleRepeats
    (by rw [biasConverted]; exact Shape.repeats_nil _)
  refine ⟨⟨.float32, chosen⟩, ?_, rfl, chosenShape.trans scoresShape, ?_⟩
  · simp only [maskedScores, relaid, multiplied, bind, Except.bind, pure, Except.pure]
    exact congrArg (Except.map (TypedTensor.mk .float32)) chose
  · intro place row slot inside rowBelow slotBelow
    have within : Shape.Contains scores.shape (place ++ [row, slot]) := by
      rw [scoresShape]
      exact inside.pair rowBelow slotBelow
    rw [chosenGet _ within, scoresGet place row slot inside rowBelow slotBelow, biasGet]

theorem maskedScores_reads
    (fits : Fits query key value visible maskedBias additive headMask type stack queries keys
      size) :
    ∃ scores, maskedScores query key visible maskedBias = .ok scores ∧
      scores.elementType = .float32 ∧ scores.shape = stack ++ [queries, keys] ∧
      ∀ place row slot, Shape.Contains stack place → row < queries → slot < keys →
        scores.tensor.get (place ++ [row, slot]) =
          score query key visible maskedBias none size place row slot := by
  obtain ⟨scores, made, scoresType, scoresShape, scoresGet⟩ := maskedScores_joined_reads
    fits.queryShape fits.keyShape (Shape.join?_self stack) fits.visibleShape fits.biasShape
  refine ⟨scores, made, scoresType, scoresShape, ?_⟩
  intro place row slot inside rowBelow slotBelow
  have queryRow : ((List.range size).map fun step => Arithmetic.cast query.elementType .float32
      (query.tensor.getJoined (place ++ [row, step]))) =
      ((List.range size).map fun step => query.tensor.get (place ++ [row, step])).map
        (Arithmetic.cast query.elementType .float32) := by
    rw [List.map_map]
    apply List.map_congr_left
    intro step member
    have within : Shape.Contains query.tensor.shape (place ++ [row, step]) := by
      change Shape.Contains query.shape _
      rw [fits.queryShape]
      exact inside.pair rowBelow (List.mem_range.mp member)
    rw [Tensor.getJoined_self within]
    rfl
  have keyRow : ((List.range size).map fun step => Arithmetic.cast key.elementType .float32
      (key.tensor.getJoined (place ++ [slot, step]))) =
      ((List.range size).map fun step => key.tensor.get (place ++ [slot, step])).map
        (Arithmetic.cast query.elementType .float32) := by
    rw [List.map_map]
    apply List.map_congr_left
    intro step member
    have within : Shape.Contains key.tensor.shape (place ++ [slot, step]) := by
      change Shape.Contains key.shape _
      rw [fits.keyShape]
      exact inside.pair slotBelow (List.mem_range.mp member)
    rw [Tensor.getJoined_self within, fits.keyType, fits.queryType]
    rfl
  rw [scoresGet place row slot inside rowBelow slotBelow, queryRow, keyRow]
  rfl

theorem addedScores_reads
    (fits : Fits query key value visible maskedBias additive headMask type stack queries keys
      size) :
    ∃ masked scores, maskedScores query key visible maskedBias = .ok masked ∧
      additive.elim (.ok masked) masked.add = .ok scores ∧
      scores.elementType = .float32 ∧ scores.shape = stack ++ [queries, keys] ∧
      ∀ place row slot, Shape.Contains stack place → row < queries → slot < keys →
        scores.tensor.get (place ++ [row, slot]) =
          score query key visible maskedBias additive size place row slot := by
  rcases maskedScores_reads fits with ⟨masked, made, maskedType, maskedShape, maskedGet⟩
  cases additive with
  | none => exact ⟨masked, masked, made, rfl, maskedType, maskedShape, maskedGet⟩
  | some terms =>
      have sameType : masked.elementType = terms.elementType := by
        rw [maskedType, fits.additiveType terms rfl]
      have repeats : Shape.Repeats terms.shape masked.shape := by
        rw [maskedShape]
        exact fits.additiveShape terms rfl
      obtain ⟨scores, added, scoresType, scoresShape, scoresGet⟩ :=
        TypedTensor.add_reads sameType repeats
      refine ⟨masked, scores, made, added, scoresType.trans maskedType,
        scoresShape.trans maskedShape, ?_⟩
      intro place row slot inside rowBelow slotBelow
      have within : Shape.Contains masked.shape (place ++ [row, slot]) := by
        rw [maskedShape]
        exact inside.pair rowBelow slotBelow
      rw [scoresGet _ within, maskedGet place row slot inside rowBelow slotBelow, maskedType]
      rfl

theorem normalised_reads {scores : TypedTensor α} {row? : List Nat → Nat → Nat → α}
    (scoresType : scores.elementType = .float32)
    (scoresShape : scores.shape = stack ++ [queries, keys])
    (scoresGet : ∀ place row slot, Shape.Contains stack place → row < queries → slot < keys →
      scores.tensor.get (place ++ [row, slot]) = row? place row slot)
    {place : List Nat} {row slot : Nat} (inside : Shape.Contains stack place)
    (rowBelow : row < queries) (slotBelow : slot < keys) :
    (scores.softmax.convert type).tensor.get (place ++ [row, slot]) =
      share type ((List.range keys).map (row? place row)) slot := by
  have within : Shape.Contains scores.softmax.shape (place ++ [row, slot]) := by
    rw [TypedTensor.shape_softmax, scoresShape]
    exact inside.pair rowBelow slotBelow
  have rowEq : ((List.range keys).map fun other => scores.tensor.get (place ++ [row, other])) =
      (List.range keys).map (row? place row) := by
    apply List.map_congr_left
    intro other member
    exact scoresGet place row other inside rowBelow (List.mem_range.mp member)
  rw [TypedTensor.get_convert _ _ within,
    TypedTensor.softmax_reads scoresShape inside rowBelow slotBelow, rowEq]
  change Arithmetic.cast scores.elementType type _ = _
  rw [scoresType]
  rfl

/-- The weight of a slot: its share of the row of scores, times the factor of the head mask. -/
def weight (query key : TypedTensor α) (visible : Tensor Bool) (maskedBias : TypedTensor α)
    (additive headMask : Option (TypedTensor α)) (keys size : Nat) (place : List Nat)
    (row slot : Nat) : α :=
  times query.elementType headMask (place ++ [row, slot])
    (share query.elementType
      ((List.range keys).map (score query key visible maskedBias additive size place row)) slot)

theorem weights_reads {normalised : TypedTensor α} (normalisedType : normalised.elementType = type)
    (normalisedShape : normalised.shape = stack ++ [queries, keys])
    (axes : ∀ factors ∈ headMask, factors.rank ≠ 0)
    (repeats : ∀ factors ∈ headMask, Shape.Repeats factors.shape (stack ++ [queries, keys])) :
    ∃ weights, headMask.elim (.ok normalised) normalised.multiply = .ok weights ∧
      weights.elementType = (headMask.elim type fun factors => type.join factors.elementType) ∧
      weights.shape = stack ++ [queries, keys] ∧
      ∀ index, Shape.Contains (stack ++ [queries, keys]) index →
        weights.tensor.get index = times type headMask index (normalised.tensor.get index) := by
  cases headMask with
  | none => exact ⟨normalised, rfl, normalisedType, normalisedShape, fun _ _ => rfl⟩
  | some factors =>
      have normalisedAxes : normalised.rank ≠ 0 := by
        change normalised.shape.length ≠ 0
        simp [normalisedShape]
      have spread : Shape.Repeats factors.shape normalised.shape := by
        rw [normalisedShape]
        exact repeats factors rfl
      obtain ⟨weights, multiplied, weightsType, weightsShape, weightsGet⟩ :=
        TypedTensor.multiply_reads normalisedAxes (axes factors rfl) spread
      rw [normalisedType] at weightsType weightsGet
      rw [normalisedShape] at weightsShape weightsGet
      exact ⟨weights, multiplied, weightsType, weightsShape, weightsGet⟩

theorem ofMasked_eq (query key value : TypedTensor α) (visible : Tensor Bool)
    (maskedBias : TypedTensor α) (dropout : Dropout α) (additive headMask : Option (TypedTensor α)) :
    ofMasked query key value visible maskedBias dropout additive headMask = (do
      let masked ← maskedScores query key visible maskedBias
      let scores ← additive.elim (.ok masked) masked.add
      let retained ← dropout.apply (scores.softmax.convert value.elementType)
      let weights ← headMask.elim (.ok retained) retained.multiply
      let output ← weights.product value
      return ⟨output, weights⟩) := by
  cases additive with
  | none => cases headMask <;> rfl
  | some terms => cases headMask <;> rfl

/-- Attention without a head mask answers when its scores are made and mix the values. -/
theorem ofMasked_ok_iff {additive : Option (TypedTensor α)} {attended : Attended α} :
    ofMasked query key value visible maskedBias .keepAll additive none = .ok attended ↔
      ∃ masked scores, maskedScores query key visible maskedBias = .ok masked ∧
        additive.elim (.ok masked) masked.add = .ok scores ∧
        attended.weights = scores.softmax.convert value.elementType ∧
        attended.weights.product value = .ok attended.output := by
  rw [ofMasked_eq]
  constructor
  · intro made
    rcases exists_of_bind_ok made with ⟨masked, maskedMade, made⟩
    rcases exists_of_bind_ok made with ⟨scores, scoresMade, made⟩
    rcases exists_of_bind_ok made with ⟨retained, kept, made⟩
    rcases exists_of_bind_ok made with ⟨weights, weighed, made⟩
    rcases exists_of_bind_ok made with ⟨output, mixed, made⟩
    cases kept
    cases weighed
    cases made
    exact ⟨masked, scores, maskedMade, scoresMade, rfl, mixed⟩
  · rintro ⟨masked, scores, maskedMade, scoresMade, weights, mixed⟩
    rcases attended with ⟨output, weights⟩
    subst weights
    simp only [maskedMade, scoresMade, mixed, Dropout.apply_keepAll, Option.elim_none, bind,
      Except.bind, pure, Except.pure]

/-- Attention answers when the head mask does not widen the type of the values. -/
theorem ofMasked_mixes
    (fits : Fits query key value visible maskedBias additive headMask type stack queries keys size)
    (narrow : ∀ factors ∈ headMask, type.join factors.elementType = type) :
    ∃ attended, ofMasked query key value visible maskedBias .keepAll additive headMask =
        .ok attended ∧
      attended.Mixes type stack queries keys size
        (weight query key visible maskedBias additive headMask keys size)
        (fun place slot feature => value.tensor.get (place ++ [slot, feature])) := by
  obtain ⟨masked, scores, made, added, scoresType, scoresShape, scoresGet⟩ :=
    addedScores_reads fits
  have normalisedShape : (scores.softmax.convert type).shape = stack ++ [queries, keys] := by
    rw [TypedTensor.shape_convert, TypedTensor.shape_softmax, scoresShape]
  obtain ⟨weights, weighed, weightsType, weightsShape, weightsGet⟩ :=
    weights_reads (TypedTensor.elementType_convert type scores.softmax) normalisedShape
      fits.headMaskAxes fits.headMaskShape
  have weightsTypeEq : weights.elementType = type := by
    rw [weightsType]
    cases headMask with
    | none => rfl
    | some factors => exact narrow factors rfl
  have weightsNumeric : weights.elementType ≠ .bool := by
    rw [weightsTypeEq]
    exact fits.numeric
  obtain ⟨output, mixed, outputType, outputShape, outputGet⟩ :=
    TypedTensor.product_reads (weightsTypeEq.trans fits.valueType.symm) weightsNumeric
      weightsShape fits.valueShape
  have weightEq (place : List Nat) (row slot : Nat) (inside : Shape.Contains stack place)
      (rowBelow : row < queries) (slotBelow : slot < keys) :
      weights.tensor.get (place ++ [row, slot]) =
        weight query key visible maskedBias additive headMask keys size place row slot := by
    rw [weightsGet _ (inside.pair rowBelow slotBelow),
      normalised_reads scoresType scoresShape scoresGet inside rowBelow slotBelow]
    unfold weight
    rw [fits.queryType]
  refine ⟨⟨output, weights⟩, ?_, ⟨weightsTypeEq, weightsShape, outputType.trans weightsTypeEq,
    outputShape, weightEq, ?_⟩⟩
  · simp only [ofMasked_eq, made, added, fits.valueType, Dropout.apply_keepAll, weighed, mixed,
      bind, Except.bind, pure, Except.pure]
  · intro place row feature inside rowBelow featureBelow
    change output.tensor.get _ = _
    rw [outputGet place row feature inside rowBelow featureBelow, weightsTypeEq]
    congr 1
    apply List.map_congr_left
    intro slot member
    exact weightEq place row slot inside rowBelow (List.mem_range.mp member)

theorem ofMasked_of_wider
    (fits : Fits query key value visible maskedBias additive headMask type stack queries keys size)
    {factors : TypedTensor α} (given : headMask = some factors)
    (wider : type.join factors.elementType ≠ type) :
    ofMasked query key value visible maskedBias .keepAll additive headMask =
      .error .elementTypesDisagree := by
  obtain ⟨masked, scores, made, added, scoresType, scoresShape, scoresGet⟩ :=
    addedScores_reads fits
  have normalisedShape : (scores.softmax.convert type).shape = stack ++ [queries, keys] := by
    rw [TypedTensor.shape_convert, TypedTensor.shape_softmax, scoresShape]
  obtain ⟨weights, weighed, weightsType, weightsShape, _⟩ :=
    weights_reads (TypedTensor.elementType_convert type scores.softmax) normalisedShape
      fits.headMaskAxes fits.headMaskShape
  have weightsAxes : weights.rank ≠ 0 := by
    change weights.shape.length ≠ 0
    simp [weightsShape]
  have valueAxes : value.rank ≠ 0 := by
    change value.shape.length ≠ 0
    simp [fits.valueShape]
  have typesDisagree : weights.elementType ≠ value.elementType := by
    rw [weightsType, given, fits.valueType]
    exact wider
  have refused : weights.product value = .error .elementTypesDisagree := by
    unfold TypedTensor.product
    rw [if_neg (by omega), if_pos typesDisagree]
  simp only [ofMasked_eq, made, added, fits.valueType, Dropout.apply_keepAll, weighed, refused,
    bind, Except.bind]

end Attended

end CausalAttention
