import CausalAttention.Proofs.Batch.Attention

/-!
Two runs that agree at one head. A relation between the entries of two tensors at the indices of
this head is kept by every operation that keeps the heads apart, and the second run succeeds where
the first one does.
-/

set_option autoImplicit false

namespace CausalAttention

namespace Shape

variable {heads head : Nat}

/-- An index of a tensor with heads in front of its last two axes, at one of the heads. All indices
are at a single head, which can be repeated. -/
def AtHead (heads head : Nat) (index : List Nat) : Prop :=
  heads = 1 ∨ ∃ place row column, index = place ++ [head, row, column]

/-- A shape with an axis for the heads in front of its last two axes, and with axes in front of it.
A single head can be repeated along it. -/
def HasHeads (heads : Nat) (shape : Shape) : Prop :=
  ∃ front many rows columns, shape = front ++ [many, rows, columns] ∧ front ≠ [] ∧
    (heads = 1 ∨ many = heads)

theorem AtHead.resize {place : List Nat} {row column : Nat}
    (atHead : AtHead heads head (place ++ [row, column])) (other another : Nat) :
    AtHead heads head (place ++ [other, another]) := by
  rcases atHead with single | ⟨front, first, second, same⟩
  · exact Or.inl single
  · have grouped : place ++ [row, column] = (front ++ [head]) ++ [first, second] := by
      rw [same, List.append_assoc]
      rfl
    obtain ⟨rfl, _⟩ := List.append_inj' grouped rfl
    refine Or.inr ⟨front, other, another, ?_⟩
    rw [List.append_assoc]
    rfl

theorem HasHeads.exists_matrices {shape : Shape} (hasHeads : HasHeads heads shape) :
    ∃ stack height width, shape = stack ++ [height, width] ∧
      ∀ rows columns, HasHeads heads (stack ++ [rows, columns]) := by
  rcases hasHeads with ⟨front, many, height, width, rfl, stacked, known⟩
  refine ⟨front ++ [many], height, width, ?_, ?_⟩
  · rw [List.append_assoc]
    rfl
  · intro rows columns
    refine ⟨front, many, rows, columns, ?_, stacked, known⟩
    rw [List.append_assoc]
    rfl

theorem hasHeads_of_append {front : Shape} {rows columns : Nat} (stacked : front ≠ []) :
    HasHeads heads (front ++ [heads, rows, columns]) :=
  ⟨front, heads, rows, columns, rfl, stacked, Or.inr rfl⟩

theorem HasHeads.of_repeats {small large : Shape} (hasHeads : HasHeads heads small)
    (repeats : Repeats small large) : HasHeads heads large := by
  rcases hasHeads with ⟨front, many, rows, columns, rfl, stacked, known⟩
  rcases repeats with ⟨outer, back, rfl, stretches⟩
  rcases stretches_append_iff.mp stretches with ⟨inner, last, rfl, frontAxes, axes⟩
  match last, axes with
  | [others, height, width], axes =>
      refine ⟨outer ++ inner, others, height, width, (List.append_assoc _ _ _).symm, ?_, ?_⟩
      · intro flat
        have innerFlat : inner.length = 0 := congrArg List.length (List.append_eq_nil_iff.mp flat).2
        exact stacked (List.length_eq_zero_iff.mp (frontAxes.length_eq.trans innerFlat))
      · have stretched := axes.1
        omega

theorem AtHead.project {small large : Shape} {index : List Nat}
    (atHead : AtHead heads head index) (hasHeads : HasHeads heads small)
    (repeats : Repeats small large) (inside : Contains large index) :
    AtHead heads head (Shape.project small index) := by
  rcases atHead with single | ⟨place, row, column, rfl⟩
  · exact Or.inl single
  · by_cases single : heads = 1
    · exact Or.inl single
    · rcases hasHeads with ⟨front, many, rows, columns, rfl, _, known⟩
      obtain rfl : many = heads := known.resolve_left single
      have lengths := repeats.length_le
      rw [← inside.length_eq] at lengths
      simp only [List.length_append, List.length_cons, List.length_nil] at lengths
      have read : Shape.project [many, rows, columns] [head, row, column] =
          [head, if rows = 1 then 0 else row, if columns = 1 then 0 else column] := by
        simp [Shape.project, single]
      have enough : front.length ≤ place.length := by omega
      have counted : [head, row, column].length = [many, rows, columns].length := rfl
      rw [project_append_append enough counted, read]
      exact Or.inr ⟨_, _, _, rfl⟩

end Shape

namespace Tensor

variable {α β γ : Type} [Inhabited α] [Inhabited β] [Inhabited γ] {heads head : Nat}

structure Related (marked : List Nat → Prop) (rel : α → α → Prop) (left right : Tensor α) :
    Prop where
  shape : right.shape = left.shape
  entries : ∀ index, Shape.Contains left.shape index → marked index →
    rel (left.get index) (right.get index)

theorem related_self (marked : List Nat → Prop) (tensor : Tensor α) :
    Related marked Eq tensor tensor :=
  ⟨rfl, fun _ _ _ => rfl⟩

variable {rel : α → α → Prop} {left right : Tensor α}

theorem Related.getJoined {large : Shape} {index : List Nat}
    (related : Related (Shape.AtHead heads head) rel left right)
    (hasHeads : Shape.HasHeads heads left.shape) (repeats : Shape.Repeats left.shape large)
    (inside : Shape.Contains large index) (atHead : Shape.AtHead heads head index) :
    rel (left.getJoined index) (right.getJoined index) := by
  unfold Tensor.getJoined
  rw [related.shape]
  exact related.entries _ (repeats.contains_project inside)
    (atHead.project hasHeads repeats inside)

theorem Related.combine {operation another : α → β → γ} {related' : γ → γ → Prop}
    {other different : Tensor β} {result : Tensor γ}
    (related : Related (Shape.AtHead heads head) rel left right)
    (hasHeads : Shape.HasHeads heads left.shape) (sizes : different.shape = other.shape)
    (made : left.combine operation other = .ok result)
    (kept : ∀ index, Shape.Contains result.shape index → Shape.AtHead heads head index →
      ∀ first second, rel first second →
        related' (operation first (other.getJoined index))
          (another second (different.getJoined index))) :
    ∃ small, right.combine another different = .ok small ∧
      Related (Shape.AtHead heads head) related' result small ∧
      Shape.HasHeads heads result.shape := by
  have joined := shape_combine made
  have repeats := (Shape.repeats_of_join? joined).1
  have again : Shape.join? right.shape different.shape = some result.shape := by
    rw [related.shape, sizes]
    exact joined
  rcases combine_joined_reads another again with ⟨small, smallMade, smallShape, smallGet⟩
  refine ⟨small, smallMade, ⟨smallShape, ?_⟩, hasHeads.of_repeats repeats⟩
  intro index inside atHead
  rw [get_combine made inside, smallGet index inside]
  exact kept index inside atHead _ _ (related.getJoined hasHeads repeats inside atHead)

theorem Related.combine_shared {operation : α → β → γ} {other : Tensor β} {result : Tensor γ}
    (related : Related (Shape.AtHead heads head) Eq left right)
    (hasHeads : Shape.HasHeads heads left.shape)
    (made : left.combine operation other = .ok result) :
    ∃ small, right.combine operation other = .ok small ∧
      Related (Shape.AtHead heads head) Eq result small ∧ Shape.HasHeads heads result.shape := by
  refine related.combine hasHeads rfl made ?_
  rintro index _ _ first _ rfl
  rfl

theorem Related.choose {mask : Tensor Bool} {replacement result : Tensor α}
    (related : Related (Shape.AtHead heads head) Eq left right)
    (hasHeads : Shape.HasHeads heads left.shape)
    (made : mask.choose left replacement = .ok result) :
    ∃ small, mask.choose right replacement = .ok small ∧
      Related (Shape.AtHead heads head) Eq result small ∧ Shape.HasHeads heads result.shape := by
  rcases exists_of_bind_ok made with ⟨visible, shown, filled⟩
  rw [combine_swap] at shown
  rcases related.combine_shared hasHeads shown with
    ⟨visibleOther, otherShown, visibleRelated, visibleHeads⟩
  rcases visibleRelated.combine_shared visibleHeads filled with
    ⟨small, otherFilled, smallRelated, smallHeads⟩
  rw [← combine_swap] at otherShown
  refine ⟨small, ?_, smallRelated, smallHeads⟩
  simp only [Tensor.choose, otherShown, bind, Except.bind]
  exact otherFilled

theorem Related.transpose {turned : Tensor α}
    (related : Related (Shape.AtHead heads head) rel left right)
    (hasHeads : Shape.HasHeads heads left.shape) (made : left.transpose = .ok turned) :
    ∃ small, right.transpose = .ok small ∧
      Related (Shape.AtHead heads head) rel turned small ∧ Shape.HasHeads heads turned.shape := by
  rcases hasHeads.exists_matrices with ⟨stack, height, width, sizes, resized⟩
  rcases transpose_reads sizes with ⟨again, againMade, turnedShape, turnedGet⟩
  obtain rfl : again = turned := Except.ok.inj (againMade.symm.trans made)
  rcases transpose_reads (related.shape.trans sizes) with
    ⟨small, smallMade, smallShape, smallGet⟩
  refine ⟨small, smallMade, ⟨smallShape.trans turnedShape.symm, ?_⟩, ?_⟩
  · intro index inside atHead
    rw [turnedShape] at inside
    rcases inside.exists_pair with ⟨place, column, row, rfl, outside, columnBelow, rowBelow⟩
    rw [turnedGet place row column outside rowBelow columnBelow,
      smallGet place row column outside rowBelow columnBelow]
    refine related.entries _ ?_ (atHead.resize row column)
    rw [sizes]
    exact outside.pair rowBelow columnBelow
  · rw [turnedShape]
    exact resized width height

end Tensor

namespace TypedTensor

variable {α : Type} [Arithmetic α] {heads head : Nat} {marked : List Nat → Prop}
  {rel : α → α → Prop} {left right result : TypedTensor α}

structure Related (marked : List Nat → Prop) (rel : α → α → Prop) (left right : TypedTensor α) :
    Prop where
  elementType : right.elementType = left.elementType
  tensor : Tensor.Related marked rel left.tensor right.tensor

theorem related_self (marked : List Nat → Prop) (typed : TypedTensor α) :
    Related marked Eq typed typed :=
  ⟨rfl, Tensor.related_self marked typed.tensor⟩

theorem Related.shape (related : Related marked rel left right) : right.shape = left.shape :=
  related.tensor.shape

theorem Related.rank (related : Related marked rel left right) : right.rank = left.rank :=
  congrArg List.length related.shape

theorem Related.convert (related : Related marked Eq left right) (type : ElementType) :
    Related marked Eq (left.convert type) (right.convert type) := by
  have leftShape : (left.convert type).tensor.shape = left.tensor.shape := shape_convert type left
  have rightShape : (right.convert type).tensor.shape = right.tensor.shape :=
    shape_convert type right
  refine ⟨?_, ?_, ?_⟩
  · rw [elementType_convert, elementType_convert]
  · rw [leftShape, rightShape, related.tensor.shape]
  · intro index inside at'
    rw [leftShape] at inside
    have within : Shape.Contains right.shape index := by
      rw [related.shape]
      exact inside
    rw [get_convert type left inside, get_convert type right within, related.elementType,
      related.tensor.entries index inside at']

theorem Related.joinType (related : Related marked rel left right) (other : TypedTensor α) :
    right.joinType other = left.joinType other := by
  unfold TypedTensor.joinType
  rw [related.elementType, related.rank]

theorem Related.combine_shared {operation : ElementType → α → α → α} {other : TypedTensor α}
    (related : Related (Shape.AtHead heads head) Eq left right)
    (hasHeads : Shape.HasHeads heads left.shape)
    (made : left.combine operation other = .ok result) :
    ∃ small, right.combine operation other = .ok small ∧
      Related (Shape.AtHead heads head) Eq result small ∧ Shape.HasHeads heads result.shape := by
  rcases exists_of_map_ok made with ⟨tensor, combined, rfl⟩
  have converted := related.convert (left.joinType other)
  have convertedHeads : Shape.HasHeads heads (left.convert (left.joinType other)).shape := by
    rw [shape_convert]
    exact hasHeads
  rcases converted.tensor.combine_shared convertedHeads combined with
    ⟨small, otherCombined, smallRelated, smallHeads⟩
  refine ⟨⟨left.joinType other, small⟩, ?_, ⟨rfl, smallRelated⟩, smallHeads⟩
  simp only [TypedTensor.combine, related.joinType, otherCombined, Except.map]

theorem Related.softmax (related : Related (Shape.AtHead heads head) Eq left right)
    (hasHeads : Shape.HasHeads heads left.shape) :
    Related (Shape.AtHead heads head) Eq left.softmax right.softmax := by
  rcases hasHeads.exists_matrices with ⟨stack, height, width, sizes, _⟩
  refine ⟨related.elementType, related.tensor.shape, ?_⟩
  intro index inside atHead
  have within : Shape.Contains (stack ++ [height, width]) index := by
    rw [← sizes]
    exact inside
  rcases within.exists_pair with ⟨place, row, column, rfl, outside, rowBelow, columnBelow⟩
  rw [softmax_reads sizes outside rowBelow columnBelow,
    softmax_reads (related.shape.trans sizes) outside rowBelow columnBelow, related.elementType]
  have rows : ((List.range width).map fun slot => left.tensor.get (place ++ [row, slot])) =
      (List.range width).map fun slot => right.tensor.get (place ++ [row, slot]) := by
    apply List.map_congr_left
    intro slot member
    refine related.tensor.entries _ ?_ (atHead.resize row slot)
    change Shape.Contains left.shape _
    rw [sizes]
    exact outside.pair rowBelow (List.mem_range.mp member)
  rw [rows]

def KeptByDot (type : ElementType) (rel : α → α → Prop) : Prop :=
  ∀ (count : Nat) (first second entries : Nat → α),
    (∀ step, step < count → rel (first step) (second step)) →
    rel (Arithmetic.dot type ((List.range count).map first) ((List.range count).map entries))
      (Arithmetic.dot type ((List.range count).map second) ((List.range count).map entries))

theorem keptByDot_eq (type : ElementType) : KeptByDot type (Eq : α → α → Prop) := by
  intro count first second entries same
  have rows : (List.range count).map first = (List.range count).map second := by
    apply List.map_congr_left
    intro step member
    exact same step (List.mem_range.mp member)
  rw [rows]

theorem Related.product {columns others : TypedTensor α}
    (related : Related (Shape.AtHead heads head) rel left right)
    (hasHeads : Shape.HasHeads heads left.shape)
    (columnsRelated : Related (Shape.AtHead heads head) Eq columns others)
    (columnsHeads : Shape.HasHeads heads columns.shape) (numeric : left.elementType ≠ .bool)
    (kept : KeptByDot left.elementType rel)
    (made : left.product columns = .ok result) :
    ∃ small, right.product others = .ok small ∧
      Related (Shape.AtHead heads head) rel result small ∧ Shape.HasHeads heads result.shape ∧
      result.shape.getLast? = columns.shape.getLast? := by
  rcases hasHeads.exists_matrices with ⟨stack, height, inner, sizes, resized⟩
  rcases columnsHeads.exists_matrices with ⟨columnStack, other, width, columnSizes, _⟩
  have sameType := elementType_of_product made
  rcases product_sizes sizes columnSizes sameType made with ⟨rfl, resultType, both, joined, _⟩
  have again : right.elementType = others.elementType := by
    rw [related.elementType, columnsRelated.elementType, sameType]
  have rightNumeric : right.elementType ≠ .bool := by
    rw [related.elementType]
    exact numeric
  obtain ⟨same, sameMade, _, resultShape, resultGet⟩ :=
    product_joined_reads sameType numeric sizes columnSizes joined
  obtain rfl : same = result := Except.ok.inj (sameMade.symm.trans made)
  obtain ⟨small, smallMade, smallType, smallShape, smallGet⟩ :=
    product_joined_reads again rightNumeric (related.shape.trans sizes)
      (columnsRelated.shape.trans columnSizes) joined
  rcases Shape.repeats_of_join? joined with ⟨repeats, columnRepeats⟩
  refine ⟨small, smallMade, ⟨?_, ?_, ?_⟩, ?_, ?_⟩
  · rw [smallType, resultType, related.elementType]
  · exact smallShape.trans resultShape.symm
  · intro index inside atHead
    have within : Shape.Contains (both ++ [height, width]) index := by
      rw [← resultShape]
      exact inside
    rcases within.exists_pair with ⟨place, row, column, rfl, outside, rowBelow, columnBelow⟩
    rw [resultGet place row column outside rowBelow columnBelow,
      smallGet place row column outside rowBelow columnBelow, related.elementType]
    have entries : ((List.range inner).map fun step =>
          others.tensor.getJoined (place ++ [step, column])) =
        (List.range inner).map fun step =>
          columns.tensor.getJoined (place ++ [step, column]) := by
      apply List.map_congr_left
      intro step member
      have wide : Shape.Repeats columns.tensor.shape (both ++ [inner, width]) := by
        change Shape.Repeats columns.shape _
        rw [columnSizes]
        exact columnRepeats.append _
      exact (columnsRelated.tensor.getJoined columnsHeads wide
        (outside.pair (List.mem_range.mp member) columnBelow) (atHead.resize step column)).symm
    rw [entries]
    apply kept
    intro step stepBelow
    have wide : Shape.Repeats left.tensor.shape (both ++ [height, inner]) := by
      change Shape.Repeats left.shape _
      rw [sizes]
      exact repeats.append _
    exact related.tensor.getJoined hasHeads wide (outside.pair rowBelow stepBelow)
      (atHead.resize row step)
  · rw [resultShape]
    exact (resized height width).of_repeats (repeats.append _)
  · simp [resultShape, columnSizes]

end TypedTensor

namespace Attended

open TypedTensor

variable {α : Type} [Arithmetic α] {heads head : Nat} {query key queryOther keyOther scores :
  TypedTensor α} {visible : Tensor Bool} {maskedBias : TypedTensor α}

theorem maskedScores_related (queryRelated : Related (Shape.AtHead heads head) Eq query queryOther)
    (queryHeads : Shape.HasHeads heads query.shape)
    (keyRelated : Related (Shape.AtHead heads head) Eq key keyOther)
    (keyHeads : Shape.HasHeads heads key.shape)
    (made : maskedScores query key visible maskedBias = .ok scores) :
    ∃ small, maskedScores queryOther keyOther visible maskedBias = .ok small ∧
      Related (Shape.AtHead heads head) Eq scores small ∧ Shape.HasHeads heads scores.shape := by
  rcases exists_of_bind_ok made with ⟨columns, turned, made⟩
  rcases exists_of_bind_ok made with ⟨products, multiplied, made⟩
  rcases exists_of_bind_ok made with ⟨chosen, chose, made⟩
  cases made
  rcases exists_of_map_ok turned with ⟨tensor, transposed, rfl⟩
  have convertedHeads : Shape.HasHeads heads (key.convert .float32).shape := by
    rw [shape_convert]
    exact keyHeads
  have queryConverted : Shape.HasHeads heads (query.convert .float32).shape := by
    rw [shape_convert]
    exact queryHeads
  rcases (keyRelated.convert .float32).tensor.transpose convertedHeads transposed with
    ⟨turnedOther, otherTransposed, turnedRelated, turnedHeads⟩
  have columnsRelated : Related (Shape.AtHead heads head) Eq
      ⟨(key.convert .float32).elementType, tensor⟩
      ⟨(keyOther.convert .float32).elementType, turnedOther⟩ :=
    ⟨(keyRelated.convert .float32).elementType, turnedRelated⟩
  have numeric : (query.convert .float32).elementType ≠ .bool := by
    rw [elementType_convert]
    exact ElementType.noConfusion
  rcases (queryRelated.convert .float32).product queryConverted columnsRelated turnedHeads numeric
    (keptByDot_eq _) multiplied with
    ⟨productsOther, otherMultiplied, productsRelated, productsHeads, _⟩
  rcases productsRelated.tensor.choose productsHeads chose with
    ⟨chosenOther, otherChose, chosenRelated, chosenHeads⟩
  refine ⟨⟨.float32, chosenOther⟩, ?_, ⟨rfl, chosenRelated⟩, chosenHeads⟩
  simp only [maskedScores, relayout_of_ok otherTransposed, otherMultiplied, otherChose, bind,
    Except.bind, pure, Except.pure]

end Attended

end CausalAttention
