import CausalAttention.Proofs.Heads.Factors
import CausalAttention.Proofs.Heads.Operands
import CausalAttention.Proofs.Layer.Evaluated

/-!
What the heads contribute to the output, in arithmetic without rounding. Merged features of a head
are those that the layer makes with this head alone, times the factor of the head, and the output
projection adds up what the heads contribute. Two runs are compared from their operands to their
merged features; a run succeeds with other factors for the heads because the relation that holds of
all entries is kept as well.
-/

set_option autoImplicit false

namespace CausalAttention

def LayerInput.withHeads {α : Type} (input : LayerInput α) (factors : TypedTensor α) :
    LayerInput α :=
  { input with headMask := some factors }

theorem LayerInput.sizes_withHeads {α : Type} {input : LayerInput α} {factors : TypedTensor α}
    {shape : Shape} (sizes : factors.shape = shape) :
    ∀ given ∈ (input.withHeads factors).headMask, given.shape = shape := by
  rintro given ⟨⟩
  exact sizes

namespace Layer

open TypedTensor

variable {α : Type} [Arithmetic α] {layer : Layer α} {type : ElementType} {heads size head : Nat}
  {parameters : Parameters α} {input : LayerInput α} {operands : Operands α}

def arrange (layer : Layer α) (attended : TypedTensor α) (sizes : Option (List Int)) :
    Except Failure (TypedTensor α) := do
  let merged ← layer.merge attended
  match sizes with
  | none => pure merged
  | some sizes => merged.relayout fun tensor => tensor.reshape sizes

theorem finish_eq (layer : Layer α) (attended : TypedTensor α) (sizes : Option (List Int)) :
    layer.finish attended sizes = layer.arrange attended sizes >>= layer.project := by
  simp only [arrange, bind_assoc]
  cases sizes <;> rfl

/-- The features that the output projection of a run is applied to. -/
def mergedFeatures (layer : Layer α) (input : LayerInput α) : Except Failure (TypedTensor α) := do
  let operands ← layer.operands input
  let attended ← layer.attend operands input.headMask
  layer.arrange attended.output (layer.answerSizes input)

theorem features_of_run {answer : LayerOutput α} (ran : layer.run input = .ok answer) :
    ∃ features, layer.mergedFeatures input = .ok features ∧
      layer.project features = .ok answer.output := by
  rw [run_eq] at ran
  rcases exists_of_bind_ok ran with ⟨operands, operandsMade, ran⟩
  rcases exists_of_bind_ok ran with ⟨attended, attendedMade, ran⟩
  rcases exists_of_bind_ok ran with ⟨output, finished, ran⟩
  rcases exists_of_bind_ok ran with ⟨present, _, ran⟩
  cases ran
  rw [finish_eq] at finished
  rcases exists_of_bind_ok finished with ⟨features, arranged, projected⟩
  refine ⟨features, ?_, projected⟩
  simp only [mergedFeatures, operandsMade, attendedMade, bind, Except.bind]
  exact arranged

/-- What a run remembers depends neither on the factors for the heads nor on the parameters of the
layer, as far as it succeeds. -/
theorem run_of_features {answer : LayerOutput α} {factors features output : TypedTensor α}
    (ran : layer.run input = .ok answer)
    (made : ({ layer with parameters } : Layer α).mergedFeatures (input.withHeads factors) =
      .ok features)
    (projected : ({ layer with parameters } : Layer α).project features = .ok output) :
    ∃ other, ({ layer with parameters } : Layer α).run (input.withHeads factors) = .ok other ∧
      other.output = output := by
  rw [run_eq] at ran
  rcases exists_of_bind_ok ran with ⟨operands, _, ran⟩
  rcases exists_of_bind_ok ran with ⟨attended, _, ran⟩
  rcases exists_of_bind_ok ran with ⟨_, _, ran⟩
  rcases exists_of_bind_ok ran with ⟨present, remembered, _⟩
  rcases exists_of_bind_ok made with ⟨operandsOther, otherOperands, made⟩
  rcases exists_of_bind_ok made with ⟨attendedOther, otherAttended, arranged⟩
  obtain ⟨presentOther, otherRemembered⟩ : ∃ presentOther,
      ({ layer with parameters } : Layer α).remember (input.withHeads factors) operandsOther =
        .ok presentOther := by
    obtain ⟨reaches, reach⟩ : ∃ reaches, layer.reach = reaches := ⟨_, rfl⟩
    unfold remember at remembered ⊢
    simp only [reach] at remembered ⊢
    cases reaches with
    | everything limit => exact ⟨_, rfl⟩
    | window setting => exact ⟨present, remembered⟩
  refine ⟨⟨output, presentOther, attendedOther.weights⟩, ?_, rfl⟩
  simp only [run_eq, otherOperands, otherAttended, finish_eq, arranged, projected,
    otherRemembered, bind, Except.bind, pure, Except.pure]

theorem exists_split_of_operands (made : layer.operands input = .ok operands) :
    ∃ projected result, layer.split projected = .ok result := by
  obtain ⟨reaches, reach⟩ : ∃ reaches, layer.reach = reaches := ⟨_, rfl⟩
  cases reaches with
  | everything limit =>
      rw [operands_of_everything reach] at made
      rcases exists_of_bind_ok made with ⟨queryFeatures, _, made⟩
      rcases exists_of_bind_ok made with ⟨keyFeatures, _, made⟩
      rcases exists_of_bind_ok made with ⟨valueFeatures, _, made⟩
      rcases exists_of_bind_ok made with ⟨query, querySplit, _⟩
      exact ⟨queryFeatures, query, querySplit⟩
  | window setting =>
      rw [operands_of_window reach] at made
      rcases exists_of_bind_ok made with ⟨features, _, splits⟩
      rcases exists_of_bind_ok splits with ⟨query, querySplit, _⟩
      exact ⟨features.query, query, querySplit⟩

/-- A layer of any configuration is regular when it answers. -/
theorem regular_of_run {kind : LayerKind} {config : Config} {answer : LayerOutput α}
    (floating : type.isFloating = true)
    (built : evaluating kind config type parameters = .ok layer)
    (ran : layer.run input = .ok answer) :
    ∃ heads size, 0 < heads ∧ layer.Regular type heads size := by
  rcases features_of_run ran with ⟨features, made, finished⟩
  rcases exists_of_bind_ok made with ⟨operands, operandsMade, made⟩
  rcases exists_of_bind_ok made with ⟨attended, attendedMade, _⟩
  rcases exists_split_of_operands operandsMade with ⟨projected, result, splits⟩
  rcases exists_of_bind_ok finished with ⟨_, _, dropped⟩
  unfold attend at attendedMade
  rw [Attended.ofMasked_eq] at attendedMade
  rcases exists_of_bind_ok attendedMade with ⟨_, _, attendedMade⟩
  rcases exists_of_bind_ok attendedMade with ⟨_, _, attendedMade⟩
  rcases exists_of_bind_ok attendedMade with ⟨_, retained, _⟩
  exact regular_of_evaluating floating built (Dropout.defined_of_apply retained)
    (Dropout.defined_of_apply dropped) splits

omit [Arithmetic α] in
theorem answerSizes_cases (layer : Layer α) (input : LayerInput α) :
    layer.answerSizes input = none ∨ ∃ front : Shape, layer.answerSizes input =
      some ((front ++ [layer.width]).map fun (size : Nat) => (size : Int)) := by
  unfold answerSizes
  cases layer.reach with
  | everything limit => exact Or.inl rfl
  | window setting => exact Or.inr ⟨_, rfl⟩

theorem Regular.elementType_of_arrange (regular : layer.Regular type heads size)
    {attended result : TypedTensor α} {sizes : Option (List Int)}
    (made : layer.arrange attended sizes = .ok result) :
    result.elementType = attended.elementType := by
  rcases exists_of_bind_ok made with ⟨merged, mergedMade, arranged⟩
  rw [regular.merge_eq] at mergedMade
  have mergedType := elementType_of_relayout mergedMade
  cases sizes with
  | none =>
      cases arranged
      exact mergedType
  | some sizes => exact (elementType_of_relayout arranged).trans mergedType

theorem Regular.type_of_values (regular : layer.Regular type heads size)
    {attended : Attended α} {result : TypedTensor α} {headMask : Option (TypedTensor α)}
    {sizes : Option (List Int)} (attendedMade : layer.attend operands headMask = .ok attended)
    (arranged : layer.arrange attended.output sizes = .ok result) :
    operands.value.elementType = result.elementType := by
  rw [regular.elementType_of_arrange arranged]
  exact (Attended.elementType_of_ofMasked attendedMade).symm

theorem Regular.type_of_project (regular : layer.Regular type heads size)
    {features output : TypedTensor α} (made : layer.project features = .ok output) :
    features.elementType = type := by
  rcases exists_of_bind_ok made with ⟨projected, affineMade, _⟩
  exact (elementType_of_mapRowPairs affineMade).trans regular.parameters.output.type_eq

theorem Regular.arrange_related (regular : layer.Regular type heads size) {rel : α → α → Prop}
    {left right result : TypedTensor α} (related : Related (Shape.AtHead heads head) rel left right)
    (hasHeads : Shape.HasHeads heads left.shape) (last : left.shape.getLast? = some size)
    (made : layer.arrange left (layer.answerSizes input) = .ok result) :
    ∃ small, layer.arrange right (layer.answerSizes input) = .ok small ∧
      Related (Shape.OfHead size head) rel result small ∧
      ∃ stack, result.shape = stack ++ [heads * size] := by
  rcases exists_of_bind_ok made with ⟨merged, mergedMade, arranged⟩
  obtain ⟨mergedOther, otherMerged, mergedRelated, stack, mergedSizes⟩ :=
    regular.merge_related related hasHeads last mergedMade
  rcases layer.answerSizes_cases input with none | ⟨front, regrouped⟩
  · rw [none] at arranged ⊢
    cases arranged
    refine ⟨mergedOther, ?_, mergedRelated, stack, mergedSizes⟩
    simp only [arrange, otherMerged, bind, Except.bind, pure, Except.pure]
  · rw [regrouped] at arranged ⊢
    rw [regular.width] at arranged
    rcases exists_of_map_ok arranged with ⟨tensor, reshaped, rfl⟩
    have resultSizes := Tensor.shape_of_reshape reshaped
    obtain ⟨small, otherReshaped, smallRelated⟩ :=
      mergedRelated.tensor.reshape_positions mergedSizes reshaped resultSizes
    refine ⟨⟨mergedOther.elementType, small⟩, ?_, ⟨mergedRelated.elementType, smallRelated⟩, front,
      resultSizes⟩
    simp only [arrange, otherMerged, regular.width, bind, Except.bind]
    exact relayout_of_ok otherReshaped

end Layer

/-! ### Attention and projection without rounding -/

namespace Layer

open TypedTensor Exact

variable {α : Type} [CommRing α] [Arithmetic α] [Unrounded α] {layer : Layer α}
  {type : ElementType} {heads size head : Nat} {parameters : Parameters α} {input : LayerInput α}
  {factors features : TypedTensor α}

/-- Merged features of a head depend on the rows of the matrices that belong to this head, and on
its factor as a relation does that sums of products keep. -/
theorem Regular.mergedFeatures_related (regular : layer.Regular type heads size)
    (below : head < heads) (agree : layer.parameters.AgreeAt size head parameters)
    {rel : α → α → Prop} (givenSizes : ∀ given ∈ input.headMask, given.shape = [1, heads, 1, 1])
    (sizes : factors.shape = [1, heads, 1, 1]) (narrow : type.join factors.elementType = type)
    (scaled : ∀ entry, rel (entry * factorAt input.headMask head)
      (entry * factors.tensor.get [0, head, 0, 0]))
    (kept : KeptByDot type rel) (made : layer.mergedFeatures input = .ok features)
    (typed : features.elementType = type) :
    ∃ small, ({ layer with parameters } : Layer α).mergedFeatures (input.withHeads factors) =
        .ok small ∧
      Related (Shape.OfHead size head) rel features small ∧
      ∃ stack, features.shape = stack ++ [heads * size] := by
  rcases exists_of_bind_ok made with ⟨operands, operandsMade, made⟩
  rcases exists_of_bind_ok made with ⟨attended, attendedMade, arranged⟩
  obtain ⟨others, othersMade, related, split⟩ := regular.operands_related below agree operandsMade
  obtain rfl : operands.value.elementType = type :=
    (regular.type_of_values attendedMade arranged).trans typed
  unfold attend at attendedMade
  rw [regular.attentionDropout] at attendedMade
  obtain ⟨attendedOther, otherAttended, outputRelated, outputHeads, outputLast⟩ :=
    Attended.ofMasked_related related.query split.query related.key split.key related.value
      split.value below regular.floating givenSizes sizes narrow scaled kept attendedMade
  obtain ⟨small, otherArranged, smallRelated, shaped⟩ :=
    regular.arrange_related outputRelated outputHeads (outputLast.trans split.features) arranged
  refine ⟨small, ?_, smallRelated, shaped⟩
  have attendedAgain : ({ layer with parameters } : Layer α).attend others (some factors) =
      .ok attendedOther := by
    unfold attend
    rw [related.visible, related.additive, regular.attentionDropout]
    exact otherAttended
  have operandsAgain : ({ layer with parameters } : Layer α).operands (input.withHeads factors) =
      .ok others := othersMade
  have factorsGiven : (input.withHeads factors).headMask = some factors := rfl
  simp only [mergedFeatures, operandsAgain, factorsGiven, attendedAgain, bind, Except.bind]
  exact otherArranged

theorem Regular.project_reads (regular : layer.Regular type heads size) {stack : Shape}
    (sized : features.Sized type (stack ++ [heads * size])) :
    ∃ output, layer.project features = .ok output ∧ output.shape = stack ++ [heads * size] ∧
      ∀ place entry, Shape.Contains stack place → entry < heads * size →
        output.tensor.get (place ++ [entry]) =
          ∑ feature ∈ Finset.range (heads * size), features.tensor.get (place ++ [feature]) *
              layer.parameters.output.tensor.get [entry, feature] +
            layer.parameters.outputBias.tensor.get [entry] := by
  have sameType : features.elementType = layer.parameters.output.elementType :=
    sized.type_eq.trans regular.parameters.output.type_eq.symm
  obtain ⟨output, made, _, outputShape, outputGet⟩ := mapRowPairs_reads
    (fun row weights number => Arithmetic.dotPlus features.elementType row weights
      (layer.parameters.outputBias.tensor.get [number]))
    sameType sized.shape_eq regular.parameters.output.shape_eq
  refine ⟨output, ?_, outputShape, ?_⟩
  · have affineEq : features.affine layer.parameters.output layer.parameters.outputBias =
        .ok output := made
    simp only [project, affineEq, regular.outputDropout, Dropout.apply_keepAll, bind, Except.bind]
  · intro place entry inside entryBelow
    have matrixSizes : layer.parameters.output.tensor.shape = [heads * size] ++ [heads * size] :=
      regular.parameters.output.shape_eq
    have within : Shape.Contains [heads * size] [entry] := ⟨entryBelow, trivial⟩
    rw [outputGet place entry inside entryBelow, Tensor.rows_reads sized.shape_eq inside,
      Tensor.rows_reads matrixSizes within, sized.type_eq, dotPlus_range regular.floating]
    rfl

/-! ### Runs -/

/-- An answer at the positions of a stack, with the features that it is made of. -/
structure Answers (layer : Layer α) (type : ElementType) (width : Nat) (stack : Shape)
    (input : LayerInput α) (answer : LayerOutput α) (features : TypedTensor α) : Prop where
  made : layer.mergedFeatures input = .ok features
  sized : features.Sized type (stack ++ [width])
  shape : answer.output.shape = stack ++ [width]
  entries : ∀ place entry, Shape.Contains stack place → entry < width →
    answer.output.tensor.get (place ++ [entry]) =
      ∑ feature ∈ Finset.range width, features.tensor.get (place ++ [feature]) *
          layer.parameters.output.tensor.get [entry, feature] +
        layer.parameters.outputBias.tensor.get [entry]

theorem Regular.answers_of_project (regular : layer.Regular type heads size) {stack : Shape}
    {answer : LayerOutput α} (made : layer.mergedFeatures input = .ok features)
    (sized : features.Sized type (stack ++ [heads * size]))
    (projected : layer.project features = .ok answer.output) :
    Answers layer type (heads * size) stack input answer features := by
  obtain ⟨output, projectedAgain, outputShape, outputGet⟩ := regular.project_reads sized
  obtain rfl : output = answer.output := Except.ok.inj (projectedAgain.symm.trans projected)
  exact ⟨made, sized, outputShape, outputGet⟩

/-- A layer that answers with some factors answers with all that do not widen its type, and so does
one whose matrices agree at a head. The features of this head are related as the factors relate
them. -/
theorem Regular.run_related (regular : layer.Regular type heads size)
    (again : ({ layer with parameters } : Layer α).Regular type heads size) (below : head < heads)
    (agree : layer.parameters.AgreeAt size head parameters) {rel : α → α → Prop}
    (givenSizes : ∀ given ∈ input.headMask, given.shape = [1, heads, 1, 1])
    (sizes : factors.shape = [1, heads, 1, 1]) (narrow : type.join factors.elementType = type)
    (scaled : ∀ entry, rel (entry * factorAt input.headMask head)
      (entry * factors.tensor.get [0, head, 0, 0]))
    (kept : KeptByDot type rel) {answer : LayerOutput α} (ran : layer.run input = .ok answer) :
    ∃ other stack features small,
      ({ layer with parameters } : Layer α).run (input.withHeads factors) = .ok other ∧
      Answers layer type (heads * size) stack input answer features ∧
      Answers { layer with parameters } type (heads * size) stack (input.withHeads factors) other
        small ∧
      Related (Shape.OfHead size head) rel features small := by
  rcases features_of_run ran with ⟨features, made, projected⟩
  have typed := regular.type_of_project projected
  obtain ⟨small, otherMade, related, stack, shaped⟩ := regular.mergedFeatures_related below agree
    givenSizes sizes narrow scaled kept made typed
  have smallSized : small.Sized type (stack ++ [heads * size]) :=
    ⟨related.elementType.trans typed, related.shape.trans shaped⟩
  obtain ⟨output, otherProjected, _, _⟩ := again.project_reads smallSized
  obtain ⟨other, otherRan, rfl⟩ := run_of_features ran otherMade otherProjected
  exact ⟨other, stack, features, small, otherRan,
    regular.answers_of_project made ⟨typed, shaped⟩ projected,
    again.answers_of_project otherMade smallSized otherProjected, related⟩

variable {stack other : Shape} {answer reference : LayerOutput α}

omit [Unrounded α] in
/-- A run has one answer, made of the same features at the same positions. -/
theorem Answers.unique {width : Nat} {another : LayerOutput α} {again : TypedTensor α}
    (answers : Answers layer type width stack input answer features)
    (others : Answers layer type width other input another again) (same : answer = another) :
    stack = other ∧ features = again := by
  subst same
  exact ⟨(List.append_inj' (answers.shape.symm.trans others.shape) rfl).1,
    Except.ok.inj (answers.made.symm.trans others.made)⟩

def perHead (type : ElementType) (heads : Nat) (factor : Nat → α) : TypedTensor α :=
  ⟨type, Tensor.ofFn [1, heads, 1, 1] fun index => factor (index.getD 1 0)⟩

def onlyHead (type : ElementType) (heads head : Nat) : TypedTensor α :=
  perHead type heads fun other => if other = head then 1 else 0

omit [CommRing α] [Unrounded α] in
theorem get_perHead (type : ElementType) (factor : Nat → α) (below : head < heads) :
    (perHead type heads factor).tensor.get [0, head, 0, 0] = factor head := by
  have inside : Shape.Contains [1, heads, 1, 1] [0, head, 0, 0] :=
    ⟨Nat.one_pos, below, Nat.one_pos, Nat.one_pos, trivial⟩
  exact Tensor.get_ofFn inside _

omit [Unrounded α] in
theorem get_onlyHead (type : ElementType) (below : head < heads) (kept : Nat) :
    (onlyHead type heads kept : TypedTensor α).tensor.get [0, head, 0, 0] =
      if head = kept then 1 else 0 :=
  get_perHead type _ below

/-- A layer that answers with some factors answers with all that do not widen its type. -/
theorem Regular.run_withHeads (regular : layer.Regular type heads size) (positive : 0 < heads)
    (givenSizes : ∀ given ∈ input.headMask, given.shape = [1, heads, 1, 1])
    (sizes : factors.shape = [1, heads, 1, 1]) (narrow : type.join factors.elementType = type)
    (ran : layer.run input = .ok reference) :
    ∃ answer stack features, layer.run (input.withHeads factors) = .ok answer ∧
      reference.output.shape = stack ++ [heads * size] ∧
      Answers layer type (heads * size) stack (input.withHeads factors) answer features := by
  -- A relation that holds of all entries carries over nothing but the success of the run.
  have kept : KeptByDot type fun _ _ : α => True := fun _ _ _ _ _ => trivial
  obtain ⟨answer, stack, _, features, answered, referenceAnswers, answers, _⟩ :=
    regular.run_related regular positive (Parameters.agreeAt_self layer.parameters) givenSizes sizes
      narrow (fun _ => trivial) kept ran
  exact ⟨answer, stack, features, answered, referenceAnswers.shape, answers⟩

/-- From a run with one head alone, the features of this head in a run with other factors, of the
same layer or of one whose matrices agree at the head. -/
theorem Regular.run_from_head (regular : layer.Regular type heads size)
    (again : ({ layer with parameters } : Layer α).Regular type heads size) (below : head < heads)
    (agree : layer.parameters.AgreeAt size head parameters)
    (sizes : factors.shape = [1, heads, 1, 1]) (narrow : type.join factors.elementType = type)
    (ran : layer.run (input.withHeads (onlyHead type heads head)) = .ok reference) :
    ∃ answer stack own features,
      ({ layer with parameters } : Layer α).run (input.withHeads factors) = .ok answer ∧
      Answers layer type (heads * size) stack (input.withHeads (onlyHead type heads head)) reference
        own ∧
      Answers { layer with parameters } type (heads * size) stack (input.withHeads factors) answer
        features ∧
      ∀ place feature, Shape.Contains stack place → feature < heads * size →
        feature / size = head →
        features.tensor.get (place ++ [feature]) =
          factors.tensor.get [0, head, 0, 0] * own.tensor.get (place ++ [feature]) := by
  have single : factorAt (input.withHeads (onlyHead type heads head)).headMask head = (1 : α) := by
    change (onlyHead type heads head : TypedTensor α).tensor.get [0, head, 0, 0] = 1
    rw [get_onlyHead type below, if_pos rfl]
  obtain ⟨answer, stack, own, features, answered, ownAnswers, answers, related⟩ :=
    regular.run_related again below agree (LayerInput.sizes_withHeads rfl) sizes narrow
      (fun entry => by rw [single, mul_one, mul_comm]) (keptByDot_scaled regular.floating _) ran
  refine ⟨answer, stack, own, features, answered, ownAnswers, answers, ?_⟩
  intro place feature inside featureBelow ofHead
  have ownShape : own.tensor.shape = stack ++ [heads * size] := ownAnswers.sized.shape_eq
  refine related.tensor.entries _ ?_ (Shape.ofHead_concat.mpr ofHead)
  rw [ownShape]
  exact inside.append ⟨featureBelow, trivial⟩

/-- Answers with one head at a time, and the features that they are made of. -/
structure Alone (layer : Layer α) (type : ElementType) (heads size : Nat) (stack : Shape)
    (input : LayerInput α) (single : Nat → LayerOutput α) (own : Nat → TypedTensor α) : Prop where
  ran : ∀ head, head < heads →
    layer.run (input.withHeads (onlyHead type heads head)) = .ok (single head)
  answers : ∀ head, head < heads →
    Answers layer type (heads * size) stack (input.withHeads (onlyHead type heads head))
      (single head) (own head)

theorem Regular.exists_alone (regular : layer.Regular type heads size) (positive : 0 < heads)
    (givenSizes : ∀ given ∈ input.headMask, given.shape = [1, heads, 1, 1])
    (ran : layer.run input = .ok reference) :
    ∃ stack single own, reference.output.shape = stack ++ [heads * size] ∧
      Alone layer type heads size stack input single own := by
  have each (head : Nat) : ∃ answer stack features,
      layer.run (input.withHeads (onlyHead type heads head)) = .ok answer ∧
      reference.output.shape = stack ++ [heads * size] ∧
      Answers layer type (heads * size) stack (input.withHeads (onlyHead type heads head)) answer
        features :=
    regular.run_withHeads positive givenSizes rfl (ElementType.join_self type) ran
  choose single stack own answered shaped answers using each
  have sameStack (head : Nat) : stack head = stack 0 :=
    (List.append_inj' ((shaped head).symm.trans (shaped 0)) rfl).1
  refine ⟨stack 0, single, own, shaped 0, fun head _ => answered head, fun head _ => ?_⟩
  rw [← sameStack head]
  exact answers head

variable {single : Nat → LayerOutput α} {own : Nat → TypedTensor α}

/-- Features of a run with any factors are those of the heads alone, times the factors. -/
theorem Alone.scaled (alone : Alone layer type heads size stack input single own)
    (regular : layer.Regular type heads size) (sizes : factors.shape = [1, heads, 1, 1])
    (narrow : type.join factors.elementType = type)
    (ran : layer.run (input.withHeads factors) = .ok answer)
    (answers : Answers layer type (heads * size) other (input.withHeads factors) answer features) :
    ∀ place feature, Shape.Contains stack place → feature < heads * size →
      features.tensor.get (place ++ [feature]) =
        factors.tensor.get [0, feature / size, 0, 0] *
          (own (feature / size)).tensor.get (place ++ [feature]) := by
  intro place feature inside featureBelow
  have below := (head_below featureBelow).1
  obtain ⟨again, _, ownAgain, featuresAgain, ranAgain, ownAnswers, answersAgain, grown⟩ :=
    regular.run_from_head regular below (Parameters.agreeAt_self layer.parameters) sizes narrow
      (alone.ran _ below)
  obtain ⟨rfl, rfl⟩ := ownAnswers.unique (alone.answers _ below) rfl
  obtain ⟨_, rfl⟩ := answersAgain.unique answers (Except.ok.inj (ranAgain.symm.trans ran))
  exact grown place feature inside featureBelow rfl

/-- A head alone leaves the features of the others empty. -/
theorem Alone.apart (alone : Alone layer type heads size stack input single own)
    (regular : layer.Regular type heads size) (below : head < heads) :
    ∀ place feature, Shape.Contains stack place → feature < heads * size →
      feature / size ≠ head → (own head).tensor.get (place ++ [feature]) = 0 := by
  intro place feature inside featureBelow elsewhere
  rw [alone.scaled regular rfl (ElementType.join_self type) (alone.ran head below)
    (alone.answers head below) place feature inside featureBelow,
    get_onlyHead type (head_below featureBelow).1, if_neg elsewhere, zero_mul]

/-! ### Contributions -/

/-- What an answer has at a place above the bias of the output projection. -/
def aboveBias (layer : Layer α) (answer : LayerOutput α) (place : List Nat) (entry : Nat) : α :=
  answer.output.tensor.get (place ++ [entry]) - layer.parameters.outputBias.tensor.get [entry]

omit [Unrounded α] in
theorem Answers.aboveBias_eq {width entry : Nat} {place : List Nat}
    (answers : Answers layer type width stack input answer features)
    (inside : Shape.Contains stack place) (below : entry < width) :
    layer.aboveBias answer place entry =
      ∑ feature ∈ Finset.range width, features.tensor.get (place ++ [feature]) *
        layer.parameters.output.tensor.get [entry, feature] := by
  unfold aboveBias
  rw [answers.entries place entry inside below, add_sub_cancel_right]

omit [Arithmetic α] [Unrounded α] in
theorem sum_by_head (factor column : Nat → α) {whole : Nat → α} {own : Nat → Nat → α}
    (scaled : ∀ feature, feature < heads * size →
      whole feature = factor (feature / size) * own (feature / size) feature)
    (apart : ∀ head, head < heads → ∀ feature, feature < heads * size → feature / size ≠ head →
      own head feature = 0) :
    ∑ feature ∈ Finset.range (heads * size), whole feature * column feature =
      ∑ head ∈ Finset.range heads, factor head *
        ∑ feature ∈ Finset.range (heads * size), own head feature * column feature := by
  simp only [Finset.mul_sum]
  rw [Finset.sum_comm]
  refine Finset.sum_congr rfl ?_
  intro feature member
  have featureBelow := Finset.mem_range.mp member
  have below := Finset.mem_range.mpr (head_below featureBelow).1
  rw [Finset.sum_eq_single_of_mem _ below, scaled feature featureBelow, mul_assoc]
  intro head headMember elsewhere
  rw [apart head (Finset.mem_range.mp headMember) feature featureBelow elsewhere.symm, zero_mul,
    mul_zero]

/-- What an answer has above the bias is the sum of what the heads alone have above it, each times
its factor. -/
theorem Alone.sum (alone : Alone layer type heads size stack input single own)
    (regular : layer.Regular type heads size) (sizes : factors.shape = [1, heads, 1, 1])
    (narrow : type.join factors.elementType = type)
    (ran : layer.run (input.withHeads factors) = .ok answer)
    (answers : Answers layer type (heads * size) stack (input.withHeads factors) answer features) :
    ∀ place entry, Shape.Contains stack place → entry < heads * size →
      layer.aboveBias answer place entry =
        ∑ head ∈ Finset.range heads, factors.tensor.get [0, head, 0, 0] *
          layer.aboveBias (single head) place entry := by
  intro place entry inside entryBelow
  have scaled (feature : Nat) (below : feature < heads * size) :=
    alone.scaled regular sizes narrow ran answers place feature inside below
  have apart (head : Nat) (below : head < heads) (feature : Nat) :=
    alone.apart regular below place feature inside
  rw [answers.aboveBias_eq inside entryBelow,
    sum_by_head (fun head => factors.tensor.get [0, head, 0, 0]) _ scaled apart]
  refine Finset.sum_congr rfl ?_
  intro head member
  rw [(alone.answers head (Finset.mem_range.mp member)).aboveBias_eq inside entryBelow]

theorem Regular.narrow_of_run (regular : layer.Regular type heads size) (positive : 0 < heads)
    (sizes : factors.shape = [1, heads, 1, 1])
    (ran : layer.run (input.withHeads factors) = .ok answer) :
    type.join factors.elementType = type := by
  rcases features_of_run ran with ⟨features, made, projected⟩
  have typed := regular.type_of_project projected
  rcases exists_of_bind_ok made with ⟨operands, operandsMade, made⟩
  rcases exists_of_bind_ok made with ⟨attended, attendedMade, arranged⟩
  obtain ⟨_, _, _, split⟩ := regular.operands_related positive
    (Parameters.agreeAt_self layer.parameters) operandsMade
  have valueType := (regular.type_of_values attendedMade arranged).trans typed
  unfold attend at attendedMade
  rw [regular.attentionDropout] at attendedMade
  rw [← valueType]
  exact Attended.narrow_of_ofMasked split.query split.key (valueType.symm ▸ regular.floating) sizes
    attendedMade

/-- A head alone has the same above the bias in layers whose projections agree in the rows of the
head and whose output projections agree in its columns. -/
theorem Alone.of_agree (alone : Alone layer type heads size stack input single own)
    (regular : layer.Regular type heads size)
    (again : ({ layer with parameters } : Layer α).Regular type heads size) (below : head < heads)
    (agree : layer.parameters.AgreeAt size head parameters)
    (columns : Related (Shape.OfHead size head) Eq layer.parameters.output parameters.output) :
    ∃ answer, ({ layer with parameters } : Layer α).run
        (input.withHeads (onlyHead type heads head)) = .ok answer ∧
      answer.output.shape = stack ++ [heads * size] ∧
      ∀ place entry, Shape.Contains stack place → entry < heads * size →
        ({ layer with parameters } : Layer α).aboveBias answer place entry =
          layer.aboveBias (single head) place entry := by
  have sizes : (onlyHead type heads head : TypedTensor α).shape = [1, heads, 1, 1] := rfl
  obtain ⟨answer, _, _, features, answered, ownAnswers, answers, same⟩ :=
    regular.run_from_head again below agree sizes (ElementType.join_self type)
      (alone.ran head below)
  obtain ⟨rfl, rfl⟩ := ownAnswers.unique (alone.answers head below) rfl
  obtain ⟨_, others, ownOthers, _, othersAlone⟩ :=
    again.exists_alone (Nat.zero_lt_of_lt below) (LayerInput.sizes_withHeads sizes) answered
  obtain ⟨rfl, rfl⟩ := (othersAlone.answers head below).unique answers
    (Except.ok.inj ((othersAlone.ran head below).symm.trans answered))
  refine ⟨answer, answered, answers.shape, ?_⟩
  intro place entry inside entryBelow
  rw [answers.aboveBias_eq inside entryBelow,
    (alone.answers head below).aboveBias_eq inside entryBelow]
  refine Finset.sum_congr rfl ?_
  intro feature member
  have featureBelow := Finset.mem_range.mp member
  have matrixSizes : layer.parameters.output.tensor.shape = [heads * size, heads * size] :=
    regular.parameters.output.shape_eq
  by_cases ofHead : feature / size = head
  · have within : Shape.Contains layer.parameters.output.tensor.shape [entry, feature] := by
      rw [matrixSizes]
      exact ⟨entryBelow, featureBelow, trivial⟩
    have columnEq := columns.tensor.entries _ within ofHead
    rw [same place feature inside featureBelow ofHead, get_onlyHead type below, if_pos rfl, one_mul,
      columnEq]
  · have empty := othersAlone.apart again below place feature inside featureBelow ofHead
    rw [alone.apart regular below place feature inside featureBelow ofHead, empty, zero_mul,
      zero_mul]

/-- A layer that answers an input with all factors for the heads that do not widen its type, and how
its answers are put together from those with one head alone. -/
structure SumOfHeads (layer : Layer α) (type : ElementType) (heads size : Nat) (stack : Shape)
    (input : LayerInput α) (single : Nat → LayerOutput α) : Prop where
  alone : ∀ head, head < heads →
    layer.run (input.withHeads (onlyHead type heads head)) = .ok (single head) ∧
      (single head).output.shape = stack ++ [heads * size]
  answered : ∀ factors : TypedTensor α, factors.shape = [1, heads, 1, 1] →
    type.join factors.elementType = type →
    ∃ answer, layer.run (input.withHeads factors) = .ok answer
  sum : ∀ factors answer, factors.shape = [1, heads, 1, 1] →
    layer.run (input.withHeads factors) = .ok answer →
    answer.output.shape = stack ++ [heads * size] ∧
      ∀ place entry, Shape.Contains stack place → entry < heads * size →
        answer.output.tensor.get (place ++ [entry]) =
          layer.parameters.outputBias.tensor.get [entry] +
            ∑ head ∈ Finset.range heads, factors.tensor.get [0, head, 0, 0] *
              layer.aboveBias (single head) place entry
  nothing : ∃ answer, layer.run (input.withHeads (perHead type heads fun _ => 0)) = .ok answer ∧
    answer.output.shape = stack ++ [heads * size] ∧
      ∀ place entry, Shape.Contains stack place → entry < heads * size →
        answer.output.tensor.get (place ++ [entry]) =
          layer.parameters.outputBias.tensor.get [entry]

theorem Alone.sumOfHeads (alone : Alone layer type heads size stack input single own)
    (regular : layer.Regular type heads size) (positive : 0 < heads)
    (givenSizes : ∀ given ∈ input.headMask, given.shape = [1, heads, 1, 1])
    (ran : layer.run input = .ok reference)
    (shaped : reference.output.shape = stack ++ [heads * size]) :
    SumOfHeads layer type heads size stack input single := by
  have answersWith {factors : TypedTensor α} (sizes : factors.shape = [1, heads, 1, 1])
      (narrow : type.join factors.elementType = type) : ∃ answer features,
      layer.run (input.withHeads factors) = .ok answer ∧
      Answers layer type (heads * size) stack (input.withHeads factors) answer features := by
    obtain ⟨answer, other, features, answered, otherShaped, answers⟩ :=
      regular.run_withHeads positive givenSizes sizes narrow ran
    obtain rfl : stack = other := (List.append_inj' (shaped.symm.trans otherShaped) rfl).1
    exact ⟨answer, features, answered, answers⟩
  have sums (factors : TypedTensor α) (answer : LayerOutput α)
      (sizes : factors.shape = [1, heads, 1, 1])
      (answered : layer.run (input.withHeads factors) = .ok answer) :
      answer.output.shape = stack ++ [heads * size] ∧
      ∀ place entry, Shape.Contains stack place → entry < heads * size →
        answer.output.tensor.get (place ++ [entry]) =
          layer.parameters.outputBias.tensor.get [entry] +
            ∑ head ∈ Finset.range heads, factors.tensor.get [0, head, 0, 0] *
              layer.aboveBias (single head) place entry := by
    have narrow := regular.narrow_of_run positive sizes answered
    obtain ⟨again, features, answeredAgain, answers⟩ := answersWith sizes narrow
    obtain rfl : again = answer := Except.ok.inj (answeredAgain.symm.trans answered)
    refine ⟨answers.shape, ?_⟩
    intro place entry inside below
    rw [← alone.sum regular sizes narrow answered answers place entry inside below, aboveBias,
      add_sub_cancel]
  refine ⟨?_, ?_, sums, ?_⟩
  · intro head below
    exact ⟨alone.ran head below, (alone.answers head below).shape⟩
  · intro factors sizes narrow
    obtain ⟨answer, _, answered, _⟩ := answersWith sizes narrow
    exact ⟨answer, answered⟩
  · have sizes : (perHead type heads fun _ => (0 : α)).shape = [1, heads, 1, 1] := rfl
    obtain ⟨answer, _, answered, _⟩ := answersWith sizes (ElementType.join_self type)
    obtain ⟨answerShaped, entries⟩ := sums _ answer sizes answered
    refine ⟨answer, answered, answerShaped, ?_⟩
    intro place entry inside below
    have empty : ∑ head ∈ Finset.range heads,
        (perHead type heads fun _ => (0 : α)).tensor.get [0, head, 0, 0] *
          layer.aboveBias (single head) place entry = 0 := by
      refine Finset.sum_eq_zero ?_
      intro head member
      rw [get_perHead type _ (Finset.mem_range.mp member), zero_mul]
    rw [entries place entry inside below, empty, add_zero]

/-- Heads contribute to an answer on their own and add up, in a ring whose operations do not round
and with rows that are normalised in whatever way. A layer that answers has heads that share its
width evenly. What it answers with factors for the heads is the bias plus the sum of what each head
alone has above the bias, times its factor. What a head alone has above the bias is the same in
every layer of the configuration whose projections agree in the rows of this head and whose output
projection agrees in its columns. -/
theorem heads_add_up {kind : LayerKind} {config : Config} (floating : type.isFloating = true)
    (built : evaluating kind config type parameters = .ok layer)
    (ran : layer.run input = .ok reference) :
    ∃ heads size, 0 < heads ∧ layer.width = heads * size ∧
      (layer.division = .whole heads size ∨ heads = 1 ∧ layer.division = .single size) ∧
      ((∀ given ∈ input.headMask, given.shape = [1, heads, 1, 1]) →
        ∃ (stack : Shape) (single : Nat → LayerOutput α),
          reference.output.shape = stack ++ [heads * size] ∧
          layer.SumOfHeads type heads size stack input single ∧
          ∀ head, head < heads → ∀ values other,
            evaluating kind config type values = .ok other →
            layer.parameters.AgreeAt size head other.parameters →
            Related (Shape.OfHead size head) Eq layer.parameters.output other.parameters.output →
            ∃ answer, other.run (input.withHeads (onlyHead type heads head)) = .ok answer ∧
              answer.output.shape = stack ++ [heads * size] ∧
              ∀ place entry, Shape.Contains stack place → entry < heads * size →
                other.aboveBias answer place entry =
                  layer.aboveBias (single head) place entry) := by
  obtain ⟨heads, size, positive, regular⟩ := regular_of_run floating built ran
  refine ⟨heads, size, positive, regular.width, regular.division, ?_⟩
  intro givenSizes
  obtain ⟨stack, single, own, shaped, alone⟩ := regular.exists_alone positive givenSizes ran
  refine ⟨stack, single, shaped, alone.sumOfHeads regular positive givenSizes ran shaped, ?_⟩
  intro head below values other again agree columns
  have otherRegular := regular.of_evaluating built again
  rw [eq_of_evaluating built again] at otherRegular ⊢
  exact alone.of_agree regular otherRegular below agree columns

/-- Two heads and one position in the cache, of layers of both kinds, and layers with another bias
and with other rows and columns for the second head. -/
theorem heads_add_up_two_heads :
    let _ : Falloff := Falloff.linear
    let arguments : ConfigArguments :=
      { hiddenSize := .int 2, heads := .int 2, layerCount := .int 2, windowSize := .int 2,
        maxPositions := .int 3, attentionDropout := .int 0, outputDropout := .int 0 }
    let parameters : Parameters ℚ := Parameters.constant .float32 2 1
    let rows : TypedTensor ℚ :=
      ⟨.float32, Tensor.ofFn [2, 2] fun index => if index.headD 0 = 0 then 1 else 5⟩
    let columns : TypedTensor ℚ :=
      ⟨.float32, Tensor.ofFn [2, 2] fun index => if index.getLastD 0 = 0 then 1 else 5⟩
    let values : Parameters ℚ := ⟨rows, rows, rows, columns, ⟨.float32, Tensor.replicate [2] 7⟩⟩
    let hidden : TypedTensor ℚ :=
      ⟨.float32, Tensor.ofFn [1, 1, 2] fun index => (index.getLastD 0 : ℚ)⟩
    let held : TypedTensor ℚ := ⟨.float32, Tensor.replicate [1, 2, 1, 1] 3⟩
    let everything : LayerInput ℚ := { hidden, past := some [held, held] }
    let window : LayerInput ℚ := { hidden, past := some [hidden] }
    ∃ config, Config.ofArguments arguments = .ok config ∧
      ∀ given ∈ [(LayerKind.everything, everything), (LayerKind.window, window)],
        ∃ layer answer single other alone,
          evaluating given.1 config .float32 parameters = .ok layer ∧
          layer.run given.2 = .ok answer ∧
          layer.SumOfHeads .float32 2 1 [1, 1] given.2 single ∧
          evaluating given.1 config .float32 values = .ok other ∧
          other.run (given.2.withHeads (onlyHead .float32 2 0)) = .ok alone ∧
          other.aboveBias alone [0, 0] 1 = layer.aboveBias (single 0) [0, 0] 1 := by
  intro falloff arguments parameters rows columns values hidden held everything window
  have row : Related (Shape.RowOfHead 1 0) Eq parameters.query rows := by
    refine ⟨rfl, rfl, ?_⟩
    intro index inside ofHead
    have first : index.headD 0 = 0 := by simpa [Shape.RowOfHead] using ofHead
    have read : rows.tensor.get index = 1 := (Tensor.get_ofFn inside _).trans (if_pos first)
    exact (Tensor.get_replicate inside 1).trans read.symm
  have column : Related (Shape.OfHead 1 0) Eq parameters.output columns := by
    refine ⟨rfl, rfl, ?_⟩
    intro index inside ofHead
    have first : index.getLastD 0 = 0 := by simpa [Shape.OfHead] using ofHead
    have read : columns.tensor.get index = 1 := (Tensor.get_ofFn inside _).trans (if_pos first)
    exact (Tensor.get_replicate inside 1).trans read.symm
  obtain ⟨config, accepted⟩ : ∃ config, Config.ofArguments arguments = .ok config := ⟨_, rfl⟩
  have adds (kind : LayerKind) {input : LayerInput ℚ} (headless : input.headMask = none)
      (builds : ∀ given ∈ [parameters, values], (do
        let config ← Config.ofArguments arguments
        let layer ← evaluating kind config .float32 given
        return (layer.division, layer.parameters)) = .ok (.whole 2 1, given))
      (succeeds : (do
        let config ← Config.ofArguments arguments
        let layer ← evaluating kind config .float32 parameters
        layer.run input).toOption.map (fun answer : LayerOutput ℚ => answer.output.shape) =
          some [1, 1, 2]) :
      ∃ layer answer single other alone,
        evaluating kind config .float32 parameters = .ok layer ∧ layer.run input = .ok answer ∧
        layer.SumOfHeads .float32 2 1 [1, 1] input single ∧
        evaluating kind config .float32 values = .ok other ∧
        other.run (input.withHeads (onlyHead .float32 2 0)) = .ok alone ∧
        other.aboveBias alone [0, 0] 1 = layer.aboveBias (single 0) [0, 0] 1 := by
    have parts (given : Parameters ℚ) (member : given ∈ [parameters, values]) : ∃ layer,
        evaluating kind config .float32 given = .ok layer ∧ layer.division = .whole 2 1 ∧
        layer.parameters = given := by
      have made := builds given member
      rw [accepted] at made
      rcases exists_of_bind_ok made with ⟨_, ⟨⟩, made⟩
      rcases exists_of_bind_ok made with ⟨layer, built, made⟩
      obtain ⟨division, same⟩ := Prod.mk.inj (Except.ok.inj made)
      exact ⟨layer, built, division, same⟩
    obtain ⟨layer, built, division, same⟩ := parts parameters (by simp)
    obtain ⟨other, again, _, otherSame⟩ := parts values (by simp)
    rcases exists_of_map_toOption succeeds with ⟨answer, ran, shaped⟩
    rw [accepted] at ran
    rcases exists_of_bind_ok ran with ⟨_, ⟨⟩, ran⟩
    rcases exists_of_bind_ok ran with ⟨_, builtAgain, ran⟩
    obtain rfl := Except.ok.inj (built.symm.trans builtAgain)
    obtain ⟨heads, size, _, _, known, contributes⟩ := heads_add_up rfl built ran
    obtain ⟨rfl, rfl⟩ : heads = 2 ∧ size = 1 := by
      rcases known with whole | ⟨_, single⟩
      · have both := HeadDivision.whole.inj (whole.symm.trans division)
        omega
      · cases single.symm.trans division
    obtain ⟨stack, single, sizes, sums, agreeing⟩ := contributes (headless ▸ forall_mem_none)
    obtain rfl : stack = [1, 1] := (List.append_inj' (sizes.symm.trans shaped) rfl).1
    have agree : layer.parameters.AgreeAt 1 0 other.parameters := by
      rw [same, otherSame]
      exact ⟨row, row, row⟩
    have columnsAgree :
        Related (Shape.OfHead 1 0) Eq layer.parameters.output other.parameters.output := by
      rw [same, otherSame]
      exact column
    obtain ⟨alone, aloneRan, _, above⟩ :=
      agreeing 0 (by decide) values other again agree columnsAgree
    exact ⟨layer, answer, single, other, alone, built, ran, sums, again, aloneRan,
      above [0, 0] 1 (by decide) (by decide)⟩
  refine ⟨config, accepted, ?_⟩
  intro given member
  rcases List.mem_pair.mp member with rfl | rfl
  · refine adds .everything rfl ?_ (by decide +kernel)
    exact List.forall_mem_cons.mpr ⟨rfl, List.forall_mem_singleton.mpr rfl⟩
  · refine adds .window rfl ?_ (by decide +kernel)
    exact List.forall_mem_cons.mpr ⟨rfl, List.forall_mem_singleton.mpr rfl⟩

end Layer

end CausalAttention
