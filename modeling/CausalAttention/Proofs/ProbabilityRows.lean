import CausalAttention.Proofs.Exact.Extended
import Mathlib.Tactic.IntervalCases
import Mathlib.Tactic.NormNum

/-!
Rows of weights. The score of a hidden key is exact even where the bias of hidden keys has
overflowed its type, so that every row of scores has weights. They are a distribution over the
visible keys, or over all keys where none is visible. Scores, masks and values may repeat along each
other's axes.
-/

set_option autoImplicit false

namespace CausalAttention

open Exact

namespace Attended

variable [Falloff]

def exactProduct (query key : TypedTensor ℚ) (size : Nat) (place : List Nat) (row slot : Nat) : ℚ :=
  ∑ step ∈ Finset.range size,
    query.tensor.getJoined (place ++ [row, step]) * key.tensor.getJoined (place ++ [slot, step])

def allowed (visible : Tensor Bool) (keys : Nat) (place : List Nat) (row : Nat) : Finset Nat :=
  (Finset.range keys).filter fun slot => visible.getJoined (place ++ [row, slot]) = true

def exactTerm (additive : Option (TypedTensor ℚ)) (index : List Nat) : ℚ :=
  additive.elim 0 fun terms => terms.tensor.getJoined index

/-- The score of a slot, with one level for all hidden keys. -/
def exactScore (query key : TypedTensor ℚ) (visible : Tensor Bool) (level : ℚ)
    (additive : Option (TypedTensor ℚ)) (size : Nat) (place : List Nat) (row slot : Nat) : ℚ :=
  (if visible.getJoined (place ++ [row, slot]) then exactProduct query key size place row slot
    else level) + exactTerm additive (place ++ [row, slot])

/-- A bias below the lowest number of single precision is replaced by that number. -/
theorem exists_level {bias : TypedTensor (WithBot ℚ)}
    (low : bias.tensor.get [] ≤ ((-1000000000 : ℚ) : WithBot ℚ)) :
    ∃ level : ℚ, hiddenScore bias = level ∧ level ≤ -1000000000 := by
  have lowest : ((Arithmetic.lowestSingle : Int) : ℚ) ≤ -1000000000 := by
    have whole : Arithmetic.lowestSingle ≤ -1000000000 := by decide
    exact_mod_cast whole
  have unfolded : hiddenScore bias =
      max (((Arithmetic.lowestSingle : Int) : ℚ) : WithBot ℚ) (bias.tensor.get []) := by
    unfold hiddenScore
    rw [Extended.cast_floating _ rfl]
    rfl
  have below : hiddenScore bias ≤ ((-1000000000 : ℚ) : WithBot ℚ) := by
    rw [unfolded]
    exact max_le (WithBot.coe_le_coe.mpr lowest) low
  have exact : hiddenScore bias ≠ ⊥ := by
    rw [unfolded]
    exact ne_bot_of_le_ne_bot (WithBot.coe_ne_bot) (le_max_left _ _)
  rcases WithBot.ne_bot_iff_exists.mp exact with ⟨level, same⟩
  rw [← same] at below
  exact ⟨level, same.symm, WithBot.coe_le_coe.mp below⟩

section

variable {query key value : TypedTensor ℚ} {visible : Tensor Bool} {bias : TypedTensor (WithBot ℚ)}
  {additive : Option (TypedTensor ℚ)} {queryStack keyStack valueStack stack whole : Shape}
  {queries keys size features : Nat} {level : ℚ}

structure Joins (query key : TypedTensor ℚ) (visible : Tensor Bool)
    (additive : Option (TypedTensor ℚ)) (queryStack keyStack stack : Shape)
    (queries keys size : Nat) : Prop where
  queryShape : query.shape = queryStack ++ [queries, size]
  keyShape : key.shape = keyStack ++ [keys, size]
  joined : Shape.join? queryStack keyStack = some stack
  visibleShape : Shape.Repeats visible.shape (stack ++ [queries, keys])
  additiveShape : ∀ terms ∈ additive, Shape.Repeats terms.shape (stack ++ [queries, keys])

theorem Joins.exactProducts (joins : Joins query key visible additive queryStack keyStack stack
    queries keys size) (biasShape : bias.shape = []) (hidden : hiddenScore bias = level) :
    ∃ masked, maskedScores query.extended key.extended visible bias = .ok masked ∧
      masked.elementType = .float32 ∧ masked.shape = stack ++ [queries, keys] ∧
      ∀ place row slot, Shape.Contains stack place → row < queries → slot < keys →
        masked.tensor.get (place ++ [row, slot]) =
          ((exactScore query key visible level none size place row slot : ℚ) : WithBot ℚ) := by
  rcases Shape.repeats_of_join? joins.joined with ⟨queryRepeats, keyRepeats⟩
  have queryShape : query.extended.shape = queryStack ++ [queries, size] := joins.queryShape
  have keyShape : key.extended.shape = keyStack ++ [keys, size] := joins.keyShape
  obtain ⟨masked, made, maskedType, maskedShape, maskedGet⟩ :=
    maskedScores_joined_reads queryShape keyShape joins.joined joins.visibleShape biasShape
  refine ⟨masked, made, maskedType, maskedShape, ?_⟩
  intro place row slot inside rowBelow slotBelow
  have entries {typed : TypedTensor ℚ} {typedStack : Shape} {count place' : Nat}
      (sizes : typed.shape = typedStack ++ [count, size]) (repeats : Shape.Repeats typedStack stack)
      (below : place' < count) :
      ((List.range size).map fun step => Arithmetic.cast typed.extended.elementType .float32
        (typed.extended.tensor.getJoined (place ++ [place', step]))) =
      (List.range size).map fun step =>
        ((typed.tensor.getJoined (place ++ [place', step]) : ℚ) : WithBot ℚ) := by
    apply List.map_congr_left
    intro step member
    have spread : Shape.Repeats typed.shape (stack ++ [count, size]) := by
      rw [sizes]
      exact repeats.append _
    rw [Extended.cast_floating _ rfl, TypedTensor.getJoined_extended spread
      (inside.pair below (List.mem_range.mp member))]
  rw [maskedGet place row slot inside rowBelow slotBelow,
    entries joins.queryShape queryRepeats rowBelow, entries joins.keyShape keyRepeats slotBelow,
    Extended.dot_range rfl, hidden]
  unfold exactScore exactTerm
  rw [Option.elim_none, add_zero]
  split
  · rfl
  · rfl

theorem Joins.exactScores (joins : Joins query key visible additive queryStack keyStack stack
    queries keys size) (biasShape : bias.shape = []) (hidden : hiddenScore bias = level) :
    ∃ masked scores, maskedScores query.extended key.extended visible bias = .ok masked ∧
      (additive.map TypedTensor.extended).elim (.ok masked) masked.add = .ok scores ∧
      scores.elementType.isFloating = true ∧ scores.shape = stack ++ [queries, keys] ∧
      ∀ place row slot, Shape.Contains stack place → row < queries → slot < keys →
        scores.tensor.get (place ++ [row, slot]) =
          ((exactScore query key visible level additive size place row slot : ℚ) : WithBot ℚ) := by
  obtain ⟨masked, made, maskedType, maskedShape, maskedGet⟩ :=
    joins.exactProducts biasShape hidden
  cases additive with
  | none => exact ⟨masked, masked, made, rfl, by rw [maskedType]; rfl, maskedShape, maskedGet⟩
  | some terms =>
      have repeats : Shape.Repeats terms.extended.shape masked.shape := by
        rw [maskedShape]
        exact joins.additiveShape terms rfl
      have axes : masked.rank ≠ 0 := by
        change masked.shape.length ≠ 0
        simp [maskedShape]
      have floating : (masked.joinType terms.extended).isFloating = true :=
        ElementType.isFloating_joinRanked (by rw [maskedType]; rfl) _ axes _
      obtain ⟨scores, added, scoresType, scoresShape, scoresGet⟩ :=
        TypedTensor.combine_reads Arithmetic.add repeats
      refine ⟨masked, scores, made, added, scoresType ▸ floating, scoresShape.trans maskedShape,
        ?_⟩
      intro place row slot inside rowBelow slotBelow
      have within : Shape.Contains masked.shape (place ++ [row, slot]) := by
        rw [maskedShape]
        exact inside.pair rowBelow slotBelow
      rw [scoresGet _ within, Extended.cast_floating _ floating, Extended.cast_floating _ floating,
        maskedGet place row slot inside rowBelow slotBelow,
        TypedTensor.getJoined_extended repeats within]
      unfold exactScore exactTerm
      rw [Option.elim_none, add_zero]
      rfl

/-! ### Weights -/

/-- The slots that share the weight of a row: the allowed ones, or all where none is allowed. -/
def bearers (visible : Tensor Bool) (keys : Nat) (place : List Nat) (row : Nat) : Finset Nat :=
  if (allowed visible keys place row).Nonempty then allowed visible keys place row
  else Finset.range keys

omit [Falloff] in
theorem mem_allowed {place : List Nat} {row slot : Nat} :
    slot ∈ allowed visible keys place row ↔
      slot < keys ∧ visible.getJoined (place ++ [row, slot]) = true := by
  unfold allowed
  rw [Finset.mem_filter, Finset.mem_range]

/-- Scores and terms as small as attention expects them. -/
structure Moderate (query key : TypedTensor ℚ) (additive : Option (TypedTensor ℚ)) (stack : Shape)
    (queries keys size : Nat) : Prop where
  product : ∀ place row slot, Shape.Contains stack place → row < queries → slot < keys →
    |exactProduct query key size place row slot| ≤ 4000
  term : ∀ terms ∈ additive, ∀ index, Shape.Contains terms.shape index →
    -10000 ≤ terms.tensor.get index ∧ terms.tensor.get index ≤ 0

omit [Falloff] in
theorem Moderate.exactTerm (moderate : Moderate query key additive stack queries keys size)
    (joins : Joins query key visible additive queryStack keyStack stack queries keys size)
    {index : List Nat} (inside : Shape.Contains (stack ++ [queries, keys]) index) :
    -10000 ≤ exactTerm additive index ∧ exactTerm additive index ≤ 0 := by
  cases additive with
  | none =>
      constructor
      · norm_num [Attended.exactTerm]
      · exact le_refl _
  | some terms =>
      have within := (joins.additiveShape terms rfl).contains_project inside
      exact moderate.term terms rfl _ within

omit [Falloff] in
theorem Moderate.stands (moderate : Moderate query key additive stack queries keys size)
    (joins : Joins query key visible additive queryStack keyStack stack queries keys size)
    (positive : 1 ≤ keys) (deep : level ≤ -1000000000) {place : List Nat} {row : Nat}
    (inside : Shape.Contains stack place) (rowBelow : row < queries) :
    Stands keys (exactScore query key visible level additive size place row)
      (bearers visible keys place row) := by
  by_cases some : (allowed visible keys place row).Nonempty
  · have bear : bearers visible keys place row = allowed visible keys place row := if_pos some
    rw [bear]
    refine ⟨fun slot member => (mem_allowed.mp member).1, some, ?_⟩
    intro slot below hidden high highMember
    rcases mem_allowed.mp highMember with ⟨highBelow, shown⟩
    have unseen : ¬visible.getJoined (place ++ [row, slot]) = true := by
      intro seen
      exact hidden (mem_allowed.mpr ⟨below, seen⟩)
    have product := abs_le.mp (moderate.product place row high inside rowBelow highBelow)
    have slotTerm := moderate.exactTerm joins (inside.pair rowBelow below)
    have highTerm := moderate.exactTerm joins (inside.pair rowBelow highBelow)
    unfold exactScore
    rw [if_neg unseen, if_pos shown]
    linarith [product.1, slotTerm.2, highTerm.1]
  · have bear : bearers visible keys place row = Finset.range keys := if_neg some
    rw [bear]
    refine ⟨fun slot member => Finset.mem_range.mp member, ⟨0, Finset.mem_range.mpr positive⟩, ?_⟩
    intro slot below hidden
    exact absurd (Finset.mem_range.mpr below) hidden

def exactWeight (query key : TypedTensor ℚ) (visible : Tensor Bool) (level : ℚ)
    (additive : Option (TypedTensor ℚ)) (keys size : Nat) (place : List Nat) (row slot : Nat) : ℚ :=
  if slot ∈ bearers visible keys place row then
    liveShare (bearers visible keys place row)
      (exactScore query key visible level additive size place row) slot
  else 0

/-- A row of weights: none is negative, together they are one, and where some keys are allowed the
others have none. -/
structure Distributes (visible : Tensor Bool) (keys : Nat) (place : List Nat) (row : Nat)
    (weight : Nat → ℚ) : Prop where
  nonnegative : ∀ slot, 0 ≤ weight slot
  total : ∑ slot ∈ Finset.range keys, weight slot = 1
  hidden : (allowed visible keys place row).Nonempty →
    ∀ slot, slot ∉ allowed visible keys place row → weight slot = 0

theorem distributes_of_stands {place : List Nat} {row : Nat}
    (stands : Stands keys (exactScore query key visible level additive size place row)
      (bearers visible keys place row)) :
    Distributes visible keys place row
      (exactWeight query key visible level additive keys size place row) := by
  refine ⟨?_, ?_, ?_⟩
  · intro slot
    unfold exactWeight
    split
    · exact liveShare_nonneg _ _ _
    · exact le_refl 0
  · rw [stands.sum_range]
    · rw [← sum_liveShare (exactScore query key visible level additive size place row)
        stands.nonempty]
      apply Finset.sum_congr rfl
      intro slot member
      exact if_pos member
    · intro slot _ hidden
      exact if_neg hidden
  · intro some slot hidden
    have bear : bearers visible keys place row = allowed visible keys place row := if_pos some
    unfold exactWeight
    rw [bear, if_neg hidden]

/-- Without an allowed key and without terms, all keys weigh the same. -/
theorem exactWeight_even {place : List Nat} {row slot : Nat}
    (nothing : allowed visible keys place row = ∅) (below : slot < keys) :
    exactWeight query key visible level none keys size place row slot = 1 / keys := by
  have bear : bearers visible keys place row = Finset.range keys := by
    unfold bearers
    rw [nothing, if_neg Finset.not_nonempty_empty]
  have even : ∀ other ∈ Finset.range keys,
      exactScore query key visible level none size place row other = level := by
    intro other member
    have unseen : ¬visible.getJoined (place ++ [row, other]) = true := by
      intro seen
      have member := mem_allowed.mpr ⟨Finset.mem_range.mp member, seen⟩
      rw [nothing] at member
      exact Finset.notMem_empty other member
    unfold exactScore Attended.exactTerm
    rw [if_neg unseen, Option.elim_none, add_zero]
  have member := Finset.mem_range.mpr below
  unfold exactWeight
  rw [bear, if_pos member, liveShare_even even member, Finset.card_range]

theorem weight_of_stands {scores : TypedTensor (WithBot ℚ)} {type : ElementType}
    (floating : type.isFloating = true) (scoresShape : scores.shape = stack ++ [queries, keys])
    {score : Nat → ℚ} {seen : Finset Nat} (stands : Stands keys score seen) {place : List Nat}
    {row slot : Nat} (inside : Shape.Contains stack place) (rowBelow : row < queries)
    (slotBelow : slot < keys)
    (scoresGet : ∀ other, other < keys →
      scores.tensor.get (place ++ [row, other]) = (score other : ℚ)) :
    (scores.softmax.convert type).tensor.get (place ++ [row, slot]) =
      ((if slot ∈ seen then liveShare seen score slot else 0 : ℚ) : WithBot ℚ) := by
  have within : Shape.Contains scores.softmax.shape (place ++ [row, slot]) := by
    rw [TypedTensor.shape_softmax, scoresShape]
    exact inside.pair rowBelow slotBelow
  have exactRow : ((List.range keys).map fun other => scores.tensor.get (place ++ [row, other])) =
      ((List.range keys).map score).map WithBot.some := by
    rw [List.map_map]
    apply List.map_congr_left
    intro other member
    exact scoresGet other (List.mem_range.mp member)
  have bound : slot < (Exact.softmax ((List.range keys).map score)).length := by
    simp [Exact.softmax, slotBelow]
  rw [← stands.softmax_getD slotBelow, TypedTensor.get_convert _ _ within,
    Extended.cast_floating _ floating,
    TypedTensor.softmax_reads scoresShape inside rowBelow slotBelow, exactRow]
  change (Extended.softmax _).getD slot default = _
  rw [Extended.softmax_coe]
  simp only [List.getD_eq_getElem?_getD, List.getElem?_map, List.getElem?_eq_getElem bound,
    Option.map_some, Option.getD_some]

omit [Falloff] in
/-- Where some keys are allowed, a weighted sum over all keys is one over the allowed keys. -/
theorem Distributes.sum_allowed {place : List Nat} {row : Nat} {weight : Nat → ℚ}
    (distributes : Distributes visible keys place row weight)
    (some : (allowed visible keys place row).Nonempty) (entry : Nat → ℚ) :
    ∑ slot ∈ Finset.range keys, weight slot * entry slot =
      ∑ slot ∈ allowed visible keys place row, weight slot * entry slot := by
  symm
  apply Finset.sum_subset (Finset.filter_subset _ _)
  intro slot _ hidden
  rw [distributes.hidden some slot hidden, zero_mul]

/-- The product of exact weights with exact values, whose stacks repeat along that of the result. -/
theorem dot_of_weights {type : ElementType} (floating : type.isFloating = true)
    {weights : TypedTensor (WithBot ℚ)} {weight : List Nat → Nat → Nat → ℚ}
    (weightsShape : weights.shape = stack ++ [queries, keys])
    (weightsGet : ∀ place row slot, Shape.Contains stack place → row < queries → slot < keys →
      weights.tensor.get (place ++ [row, slot]) = (weight place row slot : ℚ))
    (valueShape : value.shape = valueStack ++ [keys, features])
    (stackRepeats : Shape.Repeats stack whole) (valueRepeats : Shape.Repeats valueStack whole)
    {place : List Nat} {row feature : Nat} (inside : Shape.Contains whole place)
    (rowBelow : row < queries) (featureBelow : feature < features) :
    Arithmetic.dot type
        ((List.range keys).map fun slot => weights.tensor.getJoined (place ++ [row, slot]))
        ((List.range keys).map fun slot =>
          value.extended.tensor.getJoined (place ++ [slot, feature])) =
      ((∑ slot ∈ Finset.range keys, weight (Shape.project stack place) row slot *
        value.tensor.getJoined (place ++ [slot, feature]) : ℚ) : WithBot ℚ) := by
  have enough : stack.length ≤ place.length := by
    rw [inside.length_eq]
    exact stackRepeats.length_le
  have weightRow : ((List.range keys).map fun slot =>
      weights.tensor.getJoined (place ++ [row, slot])) =
      (List.range keys).map fun slot =>
        ((weight (Shape.project stack place) row slot : ℚ) : WithBot ℚ) := by
    apply List.map_congr_left
    intro slot member
    have slotBelow := List.mem_range.mp member
    have pairInside : Shape.Contains [queries, keys] [row, slot] := ⟨rowBelow, slotBelow, trivial⟩
    have weightsSizes : weights.tensor.shape = stack ++ [queries, keys] := weightsShape
    unfold Tensor.getJoined
    rw [weightsSizes, Shape.project_append_inside enough pairInside]
    exact weightsGet _ row slot (stackRepeats.contains_project inside) rowBelow slotBelow
  have valueRow : ((List.range keys).map fun slot =>
      value.extended.tensor.getJoined (place ++ [slot, feature])) =
      (List.range keys).map fun slot =>
        ((value.tensor.getJoined (place ++ [slot, feature]) : ℚ) : WithBot ℚ) := by
    apply List.map_congr_left
    intro slot member
    have repeats : Shape.Repeats value.shape (whole ++ [keys, features]) := by
      rw [valueShape]
      exact valueRepeats.append _
    exact TypedTensor.getJoined_extended repeats
      (inside.pair (List.mem_range.mp member) featureBelow)
  rw [weightRow, valueRow, Extended.dot_range floating]

/-- All scores are exact before they are normalised, and every row of weights is a distribution over
the allowed keys, which mixes their values. A row without an allowed key takes all alike. -/
theorem attention_distributes
    (joins : Joins query key visible additive queryStack keyStack stack queries keys size)
    (positive : 1 ≤ keys) (valueShape : value.shape = valueStack ++ [keys, features])
    (spread : Shape.join? stack valueStack = some whole)
    (floating : value.elementType.isFloating = true)
    (moderate : Moderate query key additive stack queries keys size) (biasShape : bias.shape = [])
    (low : bias.tensor.get [] ≤ ((-1000000000 : ℚ) : WithBot ℚ)) :
    ∃ masked scores attended, ∃ weight : List Nat → Nat → Nat → ℚ,
      maskedScores query.extended key.extended visible bias = .ok masked ∧
      (additive.map TypedTensor.extended).elim (.ok masked) masked.add = .ok scores ∧
      (∀ index, Shape.Contains scores.shape index →
        ∃ score : ℚ, scores.tensor.get index = score) ∧
      ofMasked query.extended key.extended value.extended visible bias .keepAll
        (additive.map TypedTensor.extended) none = .ok attended ∧
      scores.shape = stack ++ [queries, keys] ∧
      attended.weights.shape = stack ++ [queries, keys] ∧
      attended.output.shape = whole ++ [queries, features] ∧
      (∀ place row, Shape.Contains stack place → row < queries →
        Distributes visible keys place row (weight place row) ∧
        (∀ slot, slot < keys →
          attended.weights.tensor.get (place ++ [row, slot]) = (weight place row slot : ℚ)) ∧
        (allowed visible keys place row = ∅ → additive = none →
          ∀ slot, slot < keys → weight place row slot = 1 / keys)) ∧
      ∀ place row feature, Shape.Contains whole place → row < queries → feature < features →
        (allowed visible keys (Shape.project stack place) row).Nonempty →
        attended.output.tensor.get (place ++ [row, feature]) =
          ((∑ slot ∈ allowed visible keys (Shape.project stack place) row,
            weight (Shape.project stack place) row slot *
              value.tensor.getJoined (place ++ [slot, feature]) : ℚ) : WithBot ℚ) := by
  rcases exists_level low with ⟨level, hidden, deep⟩
  obtain ⟨masked, scores, made, added, scoresFloating, scoresShape, scoresGet⟩ :=
    joins.exactScores biasShape hidden
  rcases Shape.repeats_of_join? spread with ⟨stackRepeats, valueRepeats⟩
  let weights := scores.softmax.convert value.elementType
  have stands {place : List Nat} {row : Nat} (inside : Shape.Contains stack place)
      (rowBelow : row < queries) := moderate.stands joins positive deep inside rowBelow
  have weightsGet (place : List Nat) (row slot : Nat) (inside : Shape.Contains stack place)
      (rowBelow : row < queries) (slotBelow : slot < keys) :
      weights.tensor.get (place ++ [row, slot]) =
        ((exactWeight query key visible level additive keys size place row slot : ℚ) :
          WithBot ℚ) :=
    weight_of_stands floating scoresShape (stands inside rowBelow) inside rowBelow slotBelow
      fun other below => scoresGet place row other inside rowBelow below
  have weightsShape : weights.shape = stack ++ [queries, keys] :=
    (TypedTensor.shape_convert _ _).trans scoresShape
  have weightsType : weights.elementType = value.elementType :=
    TypedTensor.elementType_convert _ _
  have numeric : weights.elementType ≠ .bool := by
    rw [weightsType]
    intro truth
    rw [truth] at floating
    contradiction
  have valueSizes : value.extended.shape = valueStack ++ [keys, features] := valueShape
  obtain ⟨output, mixed, _, outputShape, outputGet⟩ :=
    TypedTensor.product_joined_reads weightsType numeric weightsShape valueSizes spread
  refine ⟨masked, scores, ⟨output, weights⟩,
    exactWeight query key visible level additive keys size, made, added, ?_, ?_, scoresShape,
    weightsShape, outputShape, ?_, ?_⟩
  · intro index inside
    rw [scoresShape] at inside
    rcases Shape.contains_append_iff.mp inside with ⟨place, rest, rfl, outside, inner⟩
    rcases Shape.contains_cons_iff.mp inner with ⟨row, tail, rfl, rowBelow, inner⟩
    rcases Shape.contains_cons_iff.mp inner with ⟨slot, tail, rfl, slotBelow, inner⟩
    rw [Shape.contains_nil_iff.mp inner]
    exact ⟨_, scoresGet place row slot outside rowBelow slotBelow⟩
  · exact ofMasked_ok_iff.mpr ⟨masked, scores, made, added, rfl, mixed⟩
  · intro place row inside rowBelow
    refine ⟨distributes_of_stands (stands inside rowBelow), ?_, ?_⟩
    · intro slot slotBelow
      exact weightsGet place row slot inside rowBelow slotBelow
    · rintro nothing rfl slot slotBelow
      exact exactWeight_even nothing slotBelow
  · intro place row feature inside rowBelow featureBelow some
    have placed := stackRepeats.contains_project inside
    have distributes := distributes_of_stands (stands placed rowBelow)
    change output.tensor.get _ = _
    rw [outputGet place row feature inside rowBelow featureBelow, weightsType,
      dot_of_weights floating weightsShape weightsGet valueShape stackRepeats valueRepeats inside
        rowBelow featureBelow, distributes.sum_allowed some]

end

omit [Falloff] in
/-- Two keys without a stack under a batch of two queries, and a bias that has overflowed. The first
query is allowed the first key, whose value it gets; the second is allowed none and takes both
alike. -/
theorem attention_distributes_two_queries :
    let _ : Falloff := Falloff.linear
    let query : TypedTensor ℚ := ⟨.float16, Tensor.replicate [1, 2, 1] 2⟩
    let key : TypedTensor ℚ := ⟨.float32, Tensor.replicate [2, 1] 3⟩
    let value : TypedTensor ℚ := ⟨.float32, Tensor.ofFn [2, 1] fun index =>
      if index = [0, 0] then 5 else 7⟩
    let visible : Tensor Bool := Tensor.ofFn [2, 2] fun index => index = [0, 0]
    let bias : TypedTensor (WithBot ℚ) := ⟨.float16, Tensor.replicate [] ⊥⟩
    ∃ attended,
      ofMasked query.extended key.extended value.extended visible bias .keepAll none none =
        .ok attended ∧
      attended.output.tensor.get [0, 0, 0] = ((5 : ℚ) : WithBot ℚ) ∧
      attended.weights.tensor.get [0, 0, 1] = ((0 : ℚ) : WithBot ℚ) ∧
      attended.weights.tensor.get [0, 1, 0] = ((1 / 2 : ℚ) : WithBot ℚ) := by
  intro falloff query key value visible bias
  have firstAllowed : allowed visible 2 [0] 0 = {0} := by decide +kernel
  have noneAllowed : allowed visible 2 [0] 1 = ∅ := by decide +kernel
  have joins : Joins query key visible none [1] [] [1] 2 2 1 := {
    queryShape := rfl
    keyShape := rfl
    joined := rfl
    visibleShape := ⟨[1], [2, 2], rfl, Shape.Stretches.self _⟩
    additiveShape := fun _ absent => absurd absent (Option.not_mem_none _) }
  have moderate : Moderate query key none [1] 2 2 1 := by
    refine ⟨?_, fun _ absent => absurd absent (Option.not_mem_none _)⟩
    intro place row slot inside rowBelow slotBelow
    rcases Shape.contains_cons_iff.mp inside with ⟨coordinate, rest, rfl, below, inner⟩
    obtain rfl := Shape.contains_nil_iff.mp inner
    interval_cases coordinate
    interval_cases row <;> interval_cases slot <;> decide +kernel
  have valueShape : value.shape = [] ++ [2, 1] := rfl
  have spread : Shape.join? [1] [] = some [1] := rfl
  have floating : value.elementType.isFloating = true := rfl
  have biasShape : bias.shape = [] := rfl
  have low : bias.tensor.get [] ≤ ((-1000000000 : ℚ) : WithBot ℚ) := bot_le
  obtain ⟨masked, scores, attended, weight, _, _, _, made, _, _, _, rows, outputs⟩ :=
    attention_distributes joins (by decide) valueShape spread floating moderate biasShape low
  obtain ⟨first, firstWeights, _⟩ := rows [0] 0 (by decide) (by decide)
  obtain ⟨_, secondWeights, secondEven⟩ := rows [0] 1 (by decide) (by decide)
  have some : (allowed visible 2 [0] 0).Nonempty := by
    rw [firstAllowed]
    exact Finset.singleton_nonempty 0
  have hidden : weight [0] 0 1 = 0 := by
    apply first.hidden some
    rw [firstAllowed]
    decide
  have whole : weight [0] 0 0 = 1 := by
    have total := first.total
    rw [Finset.sum_range_succ, Finset.sum_range_one, hidden, add_zero] at total
    exact total
  refine ⟨attended, made, ?_, ?_, ?_⟩
  · have mixed := outputs [0] 0 0 (by decide) (by decide) (by decide) some
    change attended.output.tensor.get [0, 0, 0] =
      ((∑ slot ∈ allowed visible 2 [0] 0, weight [0] 0 slot *
        value.tensor.getJoined [0, slot, 0] : ℚ) : WithBot ℚ) at mixed
    have read : value.tensor.getJoined [0, 0, 0] = 5 := by decide +kernel
    rw [firstAllowed, Finset.sum_singleton, whole, one_mul, read] at mixed
    exact mixed
  · have read := firstWeights 1 (by decide)
    rw [hidden] at read
    exact read
  · have read := secondWeights 0 (by decide)
    rw [secondEven noneAllowed rfl 0 (by decide)] at read
    exact read

end Attended

end CausalAttention
