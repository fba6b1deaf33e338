import CausalAttention.Layer.Basic
import CausalAttention.Proofs.Attention

/-!
Regular layers: what construction from whole sizes gives outside of training, and what such a
layer does around attention. It splits projections into heads, and it merges heads and projects
them to the output.
-/

set_option autoImplicit false

namespace CausalAttention

theorem forall_mem_none {β : Type} {holds : β → Prop} :
    ∀ given ∈ (none : Option β), holds given := by
  intro given absent
  contradiction

theorem forall_mem_some {β : Type} {holds : β → Prop} {value : β} (held : holds value) :
    ∀ given ∈ some value, holds given := by
  intro given member
  cases member
  exact held

variable {α : Type} [Arithmetic α]

structure TypedTensor.Sized (typed : TypedTensor α) (type : ElementType) (shape : Shape) :
    Prop where
  type_eq : typed.elementType = type
  shape_eq : typed.shape = shape

structure Parameters.Sized (parameters : Parameters α) (type : ElementType) (width : Nat) :
    Prop where
  query : parameters.query.Sized type [width, width]
  key : parameters.key.Sized type [width, width]
  value : parameters.value.Sized type [width, width]
  output : parameters.output.Sized type [width, width]
  outputBias : parameters.outputBias.Sized type [width]

theorem TypedTensor.Sized.ext {left right : TypedTensor α} {type : ElementType} {shape : Shape}
    (leftSized : left.Sized type shape) (rightSized : right.Sized type shape)
    (same : Shape.Each shape fun index => left.tensor.get index = right.tensor.get index) :
    left = right := by
  rcases left with ⟨leftType, leftTensor⟩
  rcases right with ⟨rightType, rightTensor⟩
  have types : leftType = rightType := leftSized.type_eq.trans rightSized.type_eq.symm
  have leftShape : leftTensor.shape = shape := leftSized.shape_eq
  have rightShape : rightTensor.shape = shape := rightSized.shape_eq
  have tensors : leftTensor = rightTensor := by
    apply Tensor.ext_get (leftShape.trans rightShape.symm)
    intro index inside
    rw [leftShape] at inside
    exact same.of_contains inside
  rw [types, tensors]

theorem TypedTensor.Sized.slice {typed : TypedTensor α} {type : ElementType} {shape : Shape}
    (sized : typed.Sized type shape) (axis start count : Nat) :
    (typed.slice axis start count).Sized type (shape.set axis count) := by
  refine ⟨sized.type_eq, ?_⟩
  rw [TypedTensor.shape_slice, sized.shape_eq]

theorem TypedTensor.Sized.get_slice {typed : TypedTensor α} {type : ElementType} {shape : Shape}
    (sized : typed.Sized type shape) (axis start count : Nat) {index : List Nat}
    (inside : Shape.Contains (shape.set axis count) index) :
    (typed.slice axis start count).tensor.get index =
      typed.tensor.get (index.set axis (start + index.getD axis 0)) := by
  rw [← sized.shape_eq] at inside
  exact Tensor.get_slice inside

theorem TypedTensor.Sized.takeLast_reads {typed : TypedTensor α} {type : ElementType}
    {shape : Shape} {count extent : Nat} (sized : typed.Sized type shape) (axis : Nat)
    (enough : count ≤ extent) (along : shape.getD axis 0 = extent) :
    (typed.takeLast axis count).Sized type (shape.set axis count) ∧
      ∀ index, Shape.Contains (shape.set axis count) index →
        (typed.takeLast axis count).tensor.get index =
          typed.tensor.get (index.set axis (extent - count + index.getD axis 0)) := by
  rcases Tensor.takeLast_reads axis sized.shape_eq enough along with ⟨lastShape, lastGet⟩
  exact ⟨⟨sized.type_eq, lastShape⟩, lastGet⟩

theorem TypedTensor.Sized.append_reads {front back : TypedTensor α} {type : ElementType}
    {shape : Shape} {place first second : Nat}
    (frontSized : front.Sized type (shape.set place first))
    (backSized : back.Sized type (shape.set place second)) (axis : Int) (tall : 2 ≤ shape.length)
    (within : place < shape.length)
    (counted : (if axis < 0 then axis + shape.length else axis) = place) :
    ∃ joined, front.append axis back = .ok joined ∧
      joined.Sized type (shape.set place (first + second)) ∧
      ∀ index, Shape.Contains (shape.set place (first + second)) index →
        joined.tensor.get index =
          if index.getD place 0 < first then front.tensor.get index
          else back.tensor.get (index.set place (index.getD place 0 - first)) := by
  have frontShape : front.tensor.shape = shape.set place first := frontSized.shape_eq
  have backShape : back.tensor.shape = shape.set place second := backSized.shape_eq
  have frontRank : front.rank = shape.length := by
    simp [TypedTensor.rank, Tensor.rank, frontShape]
  have backRank : back.rank = shape.length := by
    simp [TypedTensor.rank, Tensor.rank, backShape]
  have sameType : front.elementType = back.elementType :=
    frontSized.type_eq.trans backSized.type_eq.symm
  have frontExtent : front.tensor.extent place = first := by
    simp [Tensor.extent, frontShape, List.getD_eq_getElem?_getD, within]
  have backExtent : back.tensor.extent place = second := by
    simp [Tensor.extent, backShape, List.getD_eq_getElem?_getD, within]
  have agree : ¬(front.tensor.rank ≠ back.tensor.rank ∨
      front.tensor.shape.set place 0 ≠ back.tensor.shape.set place 0) := by
    simp [Tensor.rank, frontShape, backShape]
  rw [← frontRank] at counted
  rw [append_of_sameType sameType (by omega) (by omega) counted (by omega)]
  cases made : front.tensor.append place back.tensor with
  | error failure =>
      simp only [Tensor.append, if_neg agree] at made
      contradiction
  | ok joined =>
      have joinedShape : joined.shape = shape.set place (first + second) := by
        rw [Tensor.shape_append made, frontExtent, backExtent, frontShape, List.set_set]
      refine ⟨⟨front.elementType, joined⟩, rfl, ⟨frontSized.type_eq, joinedShape⟩, ?_⟩
      intro index inside
      rw [← joinedShape] at inside
      change joined.get index = _
      rw [Tensor.get_append made inside, frontExtent]

theorem TypedTensor.Sized.append_parts {front back : TypedTensor α} {type : ElementType}
    {batch first second width : Nat} (frontSized : front.Sized type [batch, first, width])
    (backSized : back.Sized type [batch, second, width]) :
    ∃ joined, front.append 1 back = .ok joined ∧
      joined.Sized type [batch, first + second, width] ∧
      joined.slice 1 0 first = front ∧ joined.slice 1 first second = back := by
  have frontPart : front.Sized type (([batch, 0, width] : Shape).set 1 first) := frontSized
  have backPart : back.Sized type (([batch, 0, width] : Shape).set 1 second) := backSized
  obtain ⟨joined, made, joinedSized, joinedGet⟩ :=
    frontPart.append_reads backPart 1 (by simp) (by simp) rfl
  refine ⟨joined, made, joinedSized, ?_, ?_⟩
  · apply (joinedSized.slice 1 0 first).ext frontSized
    intro row rowBelow position positionBelow feature featureBelow
    change position < first at positionBelow
    have inside : Shape.Contains [batch, first, width] [row, position, feature] :=
      ⟨rowBelow, positionBelow, featureBelow, trivial⟩
    have whole : Shape.Contains [batch, first + second, width] [row, 0 + position, feature] :=
      ⟨rowBelow, by omega, featureBelow, trivial⟩
    have early : 0 + position < first := by omega
    refine (joinedSized.get_slice 1 0 first inside).trans ?_
    refine (joinedGet _ whole).trans ?_
    refine (if_pos early).trans ?_
    rw [Nat.zero_add]
  · apply (joinedSized.slice 1 first second).ext backSized
    intro row rowBelow position positionBelow feature featureBelow
    change position < second at positionBelow
    have inside : Shape.Contains [batch, second, width] [row, position, feature] :=
      ⟨rowBelow, positionBelow, featureBelow, trivial⟩
    have whole : Shape.Contains [batch, first + second, width] [row, first + position, feature] :=
      ⟨rowBelow, by omega, featureBelow, trivial⟩
    have late : ¬first + position < first := by omega
    refine (joinedSized.get_slice 1 first second inside).trans ?_
    refine (joinedGet _ whole).trans ?_
    refine (if_neg late).trans ?_
    change back.tensor.get [row, first + position - first, feature] = _
    rw [Nat.add_sub_cancel_left]

/-- The rows of blocks, laid one behind the other. -/
theorem TypedTensor.Sized.join_blocks {typed : TypedTensor α} {type : ElementType}
    {batch blocks length features positions : Nat} (whole : blocks * length = positions)
    (sized : typed.Sized type [batch, blocks, length, features]) :
    ∃ result, typed.relayout
        (fun tensor => tensor.reshape [(batch : Int), positions, features]) = .ok result ∧
      result.Sized type [batch, positions, features] ∧
      ∀ row position feature, result.tensor.get [row, position, feature] =
        typed.tensor.get [row, position / length, position % length, feature] := by
  have shapeEq : typed.tensor.shape = [batch, blocks, length, features] := sized.shape_eq
  have volumes : Shape.volume typed.tensor.shape = Shape.volume [batch, positions, features] := by
    rw [shapeEq, ← whole]
    simp only [Shape.volume, Nat.mul_assoc]
  rcases Tensor.reshape_reads volumes with ⟨joined, reshaped, joinedShape, joinedGet⟩
  refine ⟨⟨typed.elementType, joined⟩, TypedTensor.relayout_of_ok reshaped,
    ⟨sized.type_eq, joinedShape⟩, ?_⟩
  intro row position feature
  apply joinedGet
  have divided : position / length * length + position % length = position := by
    rw [Nat.mul_comm]
    exact Nat.div_add_mod position length
  have stretched : position * features =
      position / length * (length * features) + position % length * features := by
    rw [← Nat.mul_assoc (position / length), ← Nat.add_mul, divided]
  rw [shapeEq, ← whole]
  simp only [Shape.offset, Shape.volume, Nat.mul_one, Nat.add_zero]
  rw [stretched]
  simp only [Nat.mul_assoc, Nat.add_assoc]

theorem TypedTensor.Sized.linear_reads {states matrix : TypedTensor α} {type : ElementType}
    {batch positions width : Nat} (sized : states.Sized type [batch, positions, width])
    (matrixSized : matrix.Sized type [width, width]) :
    ∃ features, states.linear matrix = .ok features ∧
      features.Sized type [batch, positions, width] ∧
      ∀ row position feature, row < batch → position < positions → feature < width →
        features.tensor.get [row, position, feature] =
          states.projected matrix [row, position] feature := by
  have sameType : states.elementType = matrix.elementType :=
    sized.type_eq.trans matrixSized.type_eq.symm
  have sizes : states.shape = [batch, positions] ++ [width] := sized.shape_eq
  obtain ⟨features, made, featuresType, featuresShape, featuresGet⟩ :=
    TypedTensor.linear_reads sameType sizes matrixSized.shape_eq
  refine ⟨features, made, ⟨featuresType.trans sized.type_eq, featuresShape⟩, ?_⟩
  intro row position feature rowBelow positionBelow featureBelow
  exact featuresGet [row, position] feature ⟨rowBelow, positionBelow, trivial⟩ featureBelow

/-- A reach that answers sequences of so many positions. -/
def Reach.Admits (reach : Reach) (sequence : Nat) : Prop :=
  match reach with
  | .everything limit => sequence ≤ limit
  | .window setting => ∃ size : Nat, setting = .int size ∧ 1 ≤ size

namespace Layer

/-- A layer whose heads share the width evenly, with parameters of one floating type and without
dropout. A single head can have been asked for by a truth value. -/
structure Regular (layer : Layer α) (type : ElementType) (heads size : Nat) : Prop where
  floating : type.isFloating = true
  width : layer.width = heads * size
  division : layer.division = .whole heads size ∨ heads = 1 ∧ layer.division = .single size
  parameters : layer.parameters.Sized type (heads * size)
  maskedBias : layer.maskedBias =
    (TypedTensor.scalar .float32 (Arithmetic.ofInteger .float32 hiddenScore)).convert type
  attentionDropout : layer.attentionDropout = .keepAll
  outputDropout : layer.outputDropout = .keepAll

variable {layer : Layer α} {type : ElementType} {heads size : Nat}

theorem Regular.numeric (regular : layer.Regular type heads size) : type ≠ .bool := by
  intro same
  have floating := regular.floating
  rw [same] at floating
  contradiction

theorem Regular.biasShape (regular : layer.Regular type heads size) :
    layer.maskedBias.shape = [] := by
  rw [regular.maskedBias, TypedTensor.shape_convert]
  rfl

theorem Regular.split_reads (regular : layer.Regular type heads size)
    {projected : TypedTensor α} {outer : Shape} {positions : Nat}
    (known : outer.length = 1 ∨ outer.length = 2)
    (sized : projected.Sized type (outer ++ [positions, heads * size])) :
    ∃ result, layer.split projected = .ok result ∧
      result.Sized type (outer ++ [heads, positions, size]) ∧
      ∀ place head position feature, Shape.Contains outer place → head < heads →
        position < positions → feature < size →
        result.tensor.get (place ++ [head, position, feature]) =
          projected.tensor.get (place ++ [position, head * size + feature]) := by
  obtain ⟨result, splitted, resultShape, resultGet⟩ :=
    Tensor.splitHeads_reads known sized.shape_eq
  refine ⟨⟨projected.elementType, result⟩, ?_, ⟨sized.type_eq, resultShape⟩, resultGet⟩
  rcases regular.division with whole | ⟨single, divided⟩
  · simp only [split, whole]
    exact TypedTensor.relayout_of_ok splitted
  · subst single
    have rankEq : projected.tensor.rank = outer.length + 2 := by
      change projected.shape.length = _
      simp [sized.shape_eq]
    have ranked : projected.tensor.requireRank 3 4 = .ok () := by
      apply Tensor.requireRank_of_rank
      omega
    have features : projected.tensor.extent (projected.rank - 1) = size := by
      change projected.shape.getD (projected.tensor.rank - 1) 0 = size
      simp [sized.shape_eq, rankEq]
    have covered :
        requireCovered (.bool true) (.int size) (.ofInteger size) projected = .ok () := by
      simp only [requireCovered, ranked, features, DyadicValue.isEqual_ofInteger, decide_true,
        if_true, bind, Except.bind]
    simp only [split, divided, covered, bind, Except.bind]
    exact TypedTensor.relayout_of_ok splitted

theorem Regular.merge_reads (regular : layer.Regular type heads size)
    {attended : TypedTensor α} {outer : Shape} {positions : Nat}
    (known : outer.length = 1 ∨ outer.length = 2)
    (sized : attended.Sized type (outer ++ [heads, positions, size])) :
    ∃ result, layer.merge attended = .ok result ∧
      result.Sized type (outer ++ [positions, heads * size]) ∧
      ∀ place position feature, Shape.Contains outer place → position < positions →
        feature < heads * size →
        result.tensor.get (place ++ [position, feature]) =
          attended.tensor.get (place ++ [feature / size, position, feature % size]) := by
  obtain ⟨result, merged, resultShape, resultGet⟩ :=
    Tensor.mergeHeads_reads known sized.shape_eq
  refine ⟨⟨attended.elementType, result⟩, ?_, ⟨sized.type_eq, resultShape⟩, resultGet⟩
  rcases regular.division with whole | ⟨single, divided⟩
  · simp only [merge, whole]
    exact TypedTensor.relayout_of_ok merged
  · subst single
    simp only [merge, divided]
    exact TypedTensor.relayout_of_ok merged

def headRow (size head : Nat) (features : Nat → α) : List α :=
  (List.range size).map fun feature => features (head * size + feature)

def PerHead (factors : TypedTensor α) (heads : Nat) : Prop :=
  factors.shape = [heads, 1, 1] ∨ factors.shape = [1, heads, 1, 1]

omit [Arithmetic α] in
theorem PerHead.rank_ne_zero {factors : TypedTensor α} (perHead : PerHead factors heads) :
    factors.rank ≠ 0 := by
  rcases perHead with flat | stacked
  · have rankEq : factors.rank = 3 := congrArg List.length flat
    omega
  · have rankEq : factors.rank = 4 := congrArg List.length stacked
    omega

omit [Arithmetic α] in
theorem PerHead.repeats {factors : TypedTensor α} (perHead : PerHead factors heads)
    (outer : Shape) (inner queries keys : Nat) :
    Shape.Repeats factors.shape (outer ++ [inner, heads, queries, keys]) := by
  rcases perHead with flat | stacked
  · rw [flat]
    refine ⟨outer ++ [inner], [heads, queries, keys], by simp, ?_⟩
    exact ⟨Or.inl rfl, Or.inr rfl, Or.inr rfl, trivial⟩
  · rw [stacked]
    refine ⟨outer, [inner, heads, queries, keys], rfl, ?_⟩
    exact ⟨Or.inr rfl, Or.inl rfl, Or.inr rfl, Or.inr rfl, trivial⟩

def headFactor (type : ElementType) (headMask : Option (TypedTensor α)) (head : Nat)
    (weight : α) : α :=
  match headMask with
  | none => weight
  | some factors =>
      TypedTensor.factorEntry type factors weight (factors.tensor.getJoined [0, head, 0, 0])

theorem times_of_heads {headMask : Option (TypedTensor α)} {heads head : Nat}
    (perHead : ∀ factors ∈ headMask, PerHead factors heads) (type : ElementType)
    (outer : List Nat) (inner row slot : Nat) (weight : α) :
    Attended.times type headMask (outer ++ [inner, head, row, slot]) weight =
      headFactor type headMask head weight := by
  cases headMask with
  | none => rfl
  | some factors =>
      have projected : Shape.project factors.tensor.shape (outer ++ [inner, head, row, slot]) =
          Shape.project factors.tensor.shape [0, head, 0, 0] := by
        rcases perHead factors rfl with flat | stacked
        · have shapeEq : factors.tensor.shape = [heads, 1, 1] := flat
          have enough : factors.tensor.shape.length ≤ [inner, head, row, slot].length := by
            simp [shapeEq]
          rw [Shape.project_append enough, shapeEq]
          rfl
        · have shapeEq : factors.tensor.shape = [1, heads, 1, 1] := stacked
          have enough : factors.tensor.shape.length ≤ [inner, head, row, slot].length := by
            simp [shapeEq]
          rw [Shape.project_append enough, shapeEq]
          rfl
      simp only [Attended.times, headFactor, Tensor.getJoined, projected]

def rowWeight (type : ElementType) (headMask : Option (TypedTensor α)) (slots : Nat)
    (scores : Nat → Nat → α) (head slot : Nat) : α :=
  headFactor type headMask head
    (Attended.share type ((List.range slots).map (scores head)) slot)

theorem rowWeight_congr {type : ElementType} {headMask : Option (TypedTensor α)} {slots : Nat}
    {scores others : Nat → Nat → α} {head : Nat}
    (same : ∀ slot, slot < slots → scores head slot = others head slot) (slot : Nat) :
    rowWeight type headMask slots scores head slot =
      rowWeight type headMask slots others head slot := by
  have rows : (List.range slots).map (scores head) = (List.range slots).map (others head) := by
    apply List.map_congr_left
    intro other member
    exact same other (List.mem_range.mp member)
  unfold rowWeight
  rw [rows]

/-! ### The output -/

def outputEntry (layer : Layer α) (type : ElementType) (features : Nat → α) (entry : Nat) : α :=
  Arithmetic.dotPlus type ((List.range layer.width).map features)
    (layer.parameters.output.tensor.rows.get [entry])
    (layer.parameters.outputBias.tensor.get [entry])

theorem Regular.outputEntry_congr (regular : layer.Regular type heads size)
    {features others : Nat → α}
    (same : ∀ feature, feature < heads * size → features feature = others feature) (entry : Nat) :
    layer.outputEntry type features entry = layer.outputEntry type others entry := by
  have rows : (List.range layer.width).map features = (List.range layer.width).map others := by
    apply List.map_congr_left
    intro feature member
    rw [List.mem_range, regular.width] at member
    exact same feature member
  unfold outputEntry
  rw [rows]

/-- A feature that attention gives a query: the values of the slots, mixed by the weights of the
head of the feature. -/
def rowFeature (type : ElementType) (size : Nat) (headMask : Option (TypedTensor α))
    (slots : Nat) (scores values : Nat → Nat → α) (feature : Nat) : α :=
  Arithmetic.dot type
    ((List.range slots).map (rowWeight type headMask slots scores (feature / size)))
    ((List.range slots).map fun slot => values slot feature)

def rowOutput (layer : Layer α) (type : ElementType) (size : Nat)
    (headMask : Option (TypedTensor α)) (slots : Nat) (scores values : Nat → Nat → α)
    (entry : Nat) : α :=
  layer.outputEntry type (rowFeature type size headMask slots scores values) entry

theorem Regular.rowOutput_congr (regular : layer.Regular type heads size)
    {headMask : Option (TypedTensor α)} {slots : Nat} {scores others values : Nat → Nat → α}
    (same : ∀ head, head < heads → ∀ slot, slot < slots → scores head slot = others head slot)
    (entry : Nat) :
    layer.rowOutput type size headMask slots scores values entry =
      layer.rowOutput type size headMask slots others values entry := by
  apply regular.outputEntry_congr
  intro feature below
  have weights : (List.range slots).map (rowWeight type headMask slots scores (feature / size)) =
      (List.range slots).map (rowWeight type headMask slots others (feature / size)) := by
    apply List.map_congr_left
    intro slot _
    exact rowWeight_congr (same _ (head_below below).1) slot
  unfold rowFeature
  rw [weights]

theorem Regular.rowOutput_congr_values (regular : layer.Regular type heads size)
    {headMask : Option (TypedTensor α)} {slots : Nat} {scores values others : Nat → Nat → α}
    (same : ∀ slot, slot < slots → ∀ feature, values slot feature = others slot feature)
    (entry : Nat) :
    layer.rowOutput type size headMask slots scores values entry =
      layer.rowOutput type size headMask slots scores others entry := by
  apply regular.outputEntry_congr
  intro feature _
  have mixed : ((List.range slots).map fun slot => values slot feature) =
      (List.range slots).map fun slot => others slot feature := by
    apply List.map_congr_left
    intro slot member
    exact same slot (List.mem_range.mp member) feature
  unfold rowFeature
  rw [mixed]

/-- What is projected out of the mixed values of all heads, when the weights and the values of every
head are known. -/
theorem Regular.outputEntry_of_mixed (regular : layer.Regular type heads size)
    {headMask : Option (TypedTensor α)} {slots : Nat} {scores values : Nat → Nat → α}
    {weight : Nat → Nat → α} {value : Nat → Nat → Nat → α} (mixed : Nat → Nat → α)
    (mixes : ∀ head part, head < heads → part < size → mixed head part =
      Arithmetic.dot type ((List.range slots).map (weight head))
        ((List.range slots).map fun slot => value head slot part))
    (weights : ∀ head slot, head < heads → slot < slots →
      weight head slot = rowWeight type headMask slots scores head slot)
    (shown : ∀ head slot part, head < heads → slot < slots → part < size →
      value head slot part = values slot (head * size + part)) (entry : Nat) :
    layer.outputEntry type (fun feature => mixed (feature / size) (feature % size)) entry =
      layer.rowOutput type size headMask slots scores values entry := by
  apply regular.outputEntry_congr
  intro feature below
  rcases head_below below with ⟨headBelow, partBelow, joined⟩
  have weightRow : (List.range slots).map (weight (feature / size)) =
      (List.range slots).map (rowWeight type headMask slots scores (feature / size)) := by
    apply List.map_congr_left
    intro slot member
    exact weights _ slot headBelow (List.mem_range.mp member)
  have valueRow : ((List.range slots).map fun slot => value (feature / size) slot
      (feature % size)) = (List.range slots).map fun slot => values slot feature := by
    apply List.map_congr_left
    intro slot member
    rw [shown _ slot _ headBelow (List.mem_range.mp member) partBelow, joined]
  rw [mixes _ _ headBelow partBelow, weightRow, valueRow]
  rfl

theorem Regular.projectOut_reads (regular : layer.Regular type heads size)
    {arranged : TypedTensor α} {batch positions : Nat}
    (sized : arranged.Sized type [batch, positions, heads * size]) :
    ∃ result, (do
        let projected ← arranged.affine layer.parameters.output layer.parameters.outputBias
        layer.outputDropout.apply projected) = .ok result ∧
      result.Sized type [batch, positions, heads * size] ∧
      ∀ row position entry, row < batch → position < positions → entry < heads * size →
        result.tensor.get [row, position, entry] =
          layer.outputEntry type (fun feature => arranged.tensor.get [row, position, feature])
            entry := by
  have sameType : arranged.elementType = layer.parameters.output.elementType :=
    sized.type_eq.trans regular.parameters.output.type_eq.symm
  have arrangedShape : arranged.shape = [batch, positions] ++ [heads * size] := sized.shape_eq
  obtain ⟨result, projected, resultType, resultShape, resultGet⟩ := TypedTensor.mapRowPairs_reads
    (fun row weights number => Arithmetic.dotPlus arranged.elementType row weights
      (layer.parameters.outputBias.tensor.get [number]))
    sameType arrangedShape regular.parameters.output.shape_eq
  refine ⟨result, ?_, ⟨resultType.trans sized.type_eq, resultShape⟩, ?_⟩
  · have affineEq : arranged.affine layer.parameters.output layer.parameters.outputBias =
        .ok result := projected
    simp only [affineEq, regular.outputDropout, Dropout.apply_keepAll, bind, Except.bind]
  · intro row position entry rowBelow positionBelow entryBelow
    have inside : Shape.Contains [batch, positions] [row, position] :=
      ⟨rowBelow, positionBelow, trivial⟩
    have rowEq := Tensor.rows_reads arrangedShape inside
    have entryEq := resultGet [row, position] entry inside entryBelow
    rw [rowEq, sized.type_eq] at entryEq
    unfold outputEntry
    rw [regular.width]
    exact entryEq

theorem Regular.finish_reads (regular : layer.Regular type heads size)
    {attended : TypedTensor α} {batch positions : Nat}
    (sized : attended.Sized type [batch, heads, positions, size]) :
    ∃ result, layer.finish attended none = .ok result ∧
      result.Sized type [batch, positions, heads * size] ∧
      ∀ row position entry, row < batch → position < positions → entry < heads * size →
        result.tensor.get [row, position, entry] =
          layer.outputEntry type (fun feature =>
            attended.tensor.get [row, feature / size, position, feature % size]) entry := by
  have known : ([batch] : Shape).length = 1 ∨ ([batch] : Shape).length = 2 := Or.inl rfl
  rcases regular.merge_reads known sized with ⟨merged, mergedMade, mergedSized, mergedGet⟩
  rcases regular.projectOut_reads mergedSized with ⟨result, finished, resultSized, resultGet⟩
  refine ⟨result, ?_, resultSized, ?_⟩
  · simp only [finish, mergedMade, bind, Except.bind, pure, Except.pure]
    exact finished
  · intro row position entry rowBelow positionBelow entryBelow
    rw [resultGet row position entry rowBelow positionBelow entryBelow]
    apply regular.outputEntry_congr
    intro feature below
    exact mergedGet [row] position feature ⟨rowBelow, trivial⟩ positionBelow below

theorem Regular.finish_regrouped_reads (regular : layer.Regular type heads size)
    {attended : TypedTensor α} {batch blocks length positions : Nat}
    (whole : blocks * length = positions)
    (sized : attended.Sized type [batch, blocks, heads, length, size]) :
    ∃ result, layer.finish attended (some [(batch : Int), positions, layer.width]) = .ok result ∧
      result.Sized type [batch, positions, heads * size] ∧
      ∀ row position entry, row < batch → position < positions → entry < heads * size →
        result.tensor.get [row, position, entry] =
          layer.outputEntry type (fun feature =>
            attended.tensor.get
              [row, position / length, feature / size, position % length, feature % size])
            entry := by
  have known : ([batch, blocks] : Shape).length = 1 ∨ ([batch, blocks] : Shape).length = 2 :=
    Or.inr rfl
  rcases regular.merge_reads known sized with ⟨merged, mergedMade, mergedSized, mergedGet⟩
  have mergedBlocks : merged.Sized type [batch, blocks, length, heads * size] := mergedSized
  rcases mergedBlocks.join_blocks whole with ⟨arranged, arrangedMade, arrangedSized, arrangedGet⟩
  rcases regular.projectOut_reads arrangedSized with ⟨result, finished, resultSized, resultGet⟩
  refine ⟨result, ?_, resultSized, ?_⟩
  · rw [← regular.width] at arrangedMade
    simp only [finish, mergedMade, arrangedMade, bind, Except.bind]
    exact finished
  · intro row position entry rowBelow positionBelow entryBelow
    rw [← whole] at positionBelow
    rcases head_below positionBelow with ⟨blockBelow, innerBelow, _⟩
    rw [resultGet row position entry rowBelow (whole ▸ positionBelow) entryBelow]
    apply regular.outputEntry_congr
    intro feature below
    exact (arrangedGet row position feature).trans
      (mergedGet [row, position / length] (position % length) feature
        ⟨rowBelow, blockBelow, trivial⟩ innerBelow below)

end Layer

end CausalAttention
