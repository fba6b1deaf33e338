import CausalAttention.Proofs.Layer.Construction

/-!
Layers of all configurations. Outside of training a layer that splits features into heads and whose
dropout is defined is regular: it has a positive number of heads that share its width evenly.
-/

set_option autoImplicit false

namespace CausalAttention

theorem Shape.infer?_pair {total : Nat} {front : List Int} {first second : Int} {shape : Shape}
    (inferred : infer? total (front ++ [first, second]) = some shape) :
    -1 ≤ first ∧ -1 ≤ second ∧ (first = -1 → second ≠ -1 ∧ second ≠ 0) := by
  unfold infer? at inferred
  split at inferred
  · contradiction
  · rename_i noneBelow
    have atLeast (size : Int) (member : size ∈ front ++ [first, second]) : -1 ≤ size := by
      apply Decidable.byContradiction
      intro below
      exact noneBelow (List.any_eq_true.mpr ⟨size, member, decide_eq_true (by omega)⟩)
    refine ⟨atLeast first (by simp), atLeast second (by simp), ?_⟩
    rintro rfl
    constructor
    · rintro rfl
      have several : (front ++ [-1, -1]).count (-1) = front.count (-1) + 2 := by simp
      rw [several] at inferred
      contradiction
    · rintro rfl
      have opened : (front ++ [-1, 0]).count (-1) = front.count (-1) + 1 := by simp
      have known :
          volume (((front ++ [-1, 0]).filter (· ≠ -1)).map Int.toNat) = 0 := by
        simp [volume_append, volume]
      rw [opened, known] at inferred
      cases others : front.count (-1) with
      | zero =>
          rw [others] at inferred
          contradiction
      | succ many =>
          rw [others] at inferred
          contradiction

theorem Tensor.nonnegative_of_splitHeads {α : Type} [Inhabited α] {tensor result : Tensor α}
    {heads size : Int} {width : Nat} (nonzero : heads ≠ 0) (product : size * heads = width)
    (made : tensor.splitHeads heads size = .ok result) : 0 < heads ∧ 0 ≤ size := by
  rcases exists_of_bind_ok made with ⟨requested, sized, made⟩
  rcases exists_of_bind_ok made with ⟨grouped, regrouped, _⟩
  rcases exists_of_bind_ok sized with ⟨_, _, sized⟩
  have inferred := infer?_of_reshape regrouped
  simp only at sized
  split at sized
  · contradiction
  · cases sized
    rcases Shape.infer?_pair inferred with ⟨headsLeast, sizeLeast, opened⟩
    have positive : 0 < heads := by
      apply Decidable.byContradiction
      intro below
      obtain rfl : heads = -1 := by omega
      rcases opened rfl with ⟨notOpen, notEmpty⟩
      omega
    refine ⟨positive, ?_⟩
    apply Decidable.byContradiction
    intro below
    obtain rfl : size = -1 := by omega
    omega

theorem Config.division_of_ok {config : Config} {width : Nat} {division : HeadDivision}
    (sized : Setting.size config.hiddenSize = .ok width)
    (made : config.headDivision = .ok division) :
    (∃ heads size : Int, division = .whole heads size ∧ heads ≠ 0 ∧ size * heads = width) ∨
      division = .single width ∨ ∃ heads size, division = .fractional heads size := by
  obtain ⟨number, given, natural⟩ : ∃ number, config.hiddenSize = .int number ∧ number = width := by
    unfold Setting.size at sized
    split at sized
    · split at sized
      · cases sized
        exact ⟨_, by assumption, by omega⟩
      · contradiction
    · contradiction
  subst natural
  unfold headDivision at made
  rw [given] at made
  simp only [Setting.numeral?] at made
  cases kind : config.heads with
  | int heads =>
      simp only [kind] at made
      split at made
      · contradiction
      · rename_i nonzero
        rcases exists_of_bind_ok made with ⟨_, covered, made⟩
        rw [require_eq_ok, decide_eq_true_iff] at covered
        cases made
        exact Or.inl ⟨heads, _, rfl, nonzero, covered⟩
  | bool flag =>
      cases flag with
      | false =>
          simp only [kind] at made
          contradiction
      | true =>
          simp only [kind] at made
          rcases exists_of_bind_ok made with ⟨_, _, made⟩
          cases made
          exact Or.inr (Or.inl (congrArg HeadDivision.single (Int.ediv_one _)))
  | float heads =>
      simp only [kind] at made
      rcases exists_of_bind_ok made with ⟨⟨features, count⟩, _, made⟩
      simp only at made
      split at made
      · contradiction
      · rcases exists_of_bind_ok made with ⟨_, _, made⟩
        cases made
        exact Or.inr (Or.inr ⟨_, _, rfl⟩)
  | _ =>
      simp only [kind] at made
      contradiction

theorem Dropout.keepAll_of_ofSetting {α : Type} {rate : Setting} {draw dropout : Dropout α}
    (made : ofSetting rate false draw = .ok dropout) :
    dropout = .keepAll ∨ dropout = .undefinedRate := by
  unfold ofSetting at made
  split at made
  · contradiction
  · cases made
    exact Or.inr rfl
  · split at made
    · contradiction
    · cases made
      exact Or.inl rfl

theorem LayerPlan.undrawn_of_ofConfig {α : Type} {config : Config} {plan : LayerPlan α}
    (made : ofConfig config false = .ok plan) :
    (plan.attentionDropout = .keepAll ∨ plan.attentionDropout = .undefinedRate) ∧
      (plan.outputDropout = .keepAll ∨ plan.outputDropout = .undefinedRate) := by
  rcases exists_of_bind_ok made with ⟨_, _, made⟩
  rcases exists_of_bind_ok made with ⟨_, attentionMade, made⟩
  rcases exists_of_bind_ok made with ⟨_, outputMade, made⟩
  rcases exists_of_bind_ok made with ⟨_, _, made⟩
  cases made
  exact ⟨Dropout.keepAll_of_ofSetting attentionMade, Dropout.keepAll_of_ofSetting outputMade⟩

theorem Dropout.defined_of_apply {α : Type} [Arithmetic α] {dropout : Dropout α}
    {typed result : TypedTensor α} (made : dropout.apply typed = .ok result) :
    dropout ≠ .undefinedRate := by
  rintro rfl
  contradiction

namespace Layer

open TypedTensor

variable {α : Type} [Arithmetic α] {layer : Layer α} {type : ElementType}
  {heads size : Nat}

theorem parts_of_evaluating {kind : LayerKind} {config : Config} {parameters : Parameters α}
    (built : evaluating kind config type parameters = .ok layer) :
    ∃ plan reach taken, LayerPlan.ofConfig config false = .ok plan ∧
      Reach.ofConfig kind config = .ok reach ∧
      (Parameters.zero type plan.width).assign parameters = .ok taken ∧
      layer = { (ofPlan plan reach type : Layer α) with parameters := taken } := by
  rcases exists_of_bind_ok built with ⟨plain, planned, assigned⟩
  rcases exists_of_bind_ok planned with ⟨plan, planMade, planned⟩
  rcases exists_of_bind_ok planned with ⟨reach, reachMade, planned⟩
  cases planned
  rcases exists_of_map_ok assigned with ⟨taken, made, rfl⟩
  exact ⟨plan, reach, taken, planMade, reachMade, made, rfl⟩

theorem eq_of_evaluating {kind : LayerKind} {config : Config} {parameters others : Parameters α}
    {other : Layer α} (built : evaluating kind config type parameters = .ok layer)
    (again : evaluating kind config type others = .ok other) :
    other = { layer with parameters := other.parameters } := by
  obtain ⟨plan, reach, _, planMade, reachMade, _, rfl⟩ := parts_of_evaluating built
  obtain ⟨plan', reach', _, planAgain, reachAgain, _, rfl⟩ := parts_of_evaluating again
  obtain rfl : plan = plan' := Except.ok.inj (planMade.symm.trans planAgain)
  obtain rfl : reach = reach' := Except.ok.inj (reachMade.symm.trans reachAgain)
  rfl

theorem sized_of_overwrite {target source result : TypedTensor α} {shape : Shape}
    (sized : target.Sized type shape) (made : target.overwrite source = .ok result) :
    result.Sized type shape := by
  unfold TypedTensor.overwrite at made
  split at made
  · rename_i same
    cases made
    refine ⟨?_, ?_⟩
    · rw [elementType_convert, sized.type_eq]
    · rw [shape_convert, same, sized.shape_eq]
  · contradiction

theorem sized_of_assign {target source taken : Parameters α} {width : Nat}
    (sized : target.Sized type width) (made : target.assign source = .ok taken) :
    taken.Sized type width := by
  rcases exists_of_bind_ok made with ⟨query, queryMade, made⟩
  rcases exists_of_bind_ok made with ⟨key, keyMade, made⟩
  rcases exists_of_bind_ok made with ⟨value, valueMade, made⟩
  rcases exists_of_bind_ok made with ⟨output, outputMade, made⟩
  rcases exists_of_bind_ok made with ⟨outputBias, biasMade, made⟩
  cases made
  exact {
    query := sized_of_overwrite sized.query queryMade
    key := sized_of_overwrite sized.key keyMade
    value := sized_of_overwrite sized.value valueMade
    output := sized_of_overwrite sized.output outputMade
    outputBias := sized_of_overwrite sized.outputBias biasMade }

theorem Regular.of_withParameters (regular : layer.Regular type heads size)
    {parameters : Parameters α} {other : Layer α}
    (assigned : layer.withParameters parameters = .ok other) :
    other.Regular type heads size ∧ other.reach = layer.reach := by
  rcases exists_of_map_ok assigned with ⟨taken, made, rfl⟩
  exact ⟨⟨regular.floating, regular.width, regular.division,
    sized_of_assign regular.parameters made, regular.maskedBias, regular.attentionDropout,
    regular.outputDropout⟩, rfl⟩

theorem sized_of_evaluating {kind : LayerKind} {config : Config} {parameters : Parameters α}
    (built : evaluating kind config type parameters = .ok layer) :
    layer.parameters.Sized type layer.width := by
  obtain ⟨plan, reach, taken, _, _, made, rfl⟩ := parts_of_evaluating built
  exact sized_of_assign (Parameters.zero_sized type plan.width) made

theorem Regular.of_evaluating {kind : LayerKind} {config : Config}
    {parameters others : Parameters α} {other : Layer α} (regular : layer.Regular type heads size)
    (built : evaluating kind config type parameters = .ok layer)
    (again : evaluating kind config type others = .ok other) :
    other.Regular type heads size := by
  have sized := sized_of_evaluating again
  rw [eq_of_evaluating built again] at sized ⊢
  refine ⟨regular.floating, regular.width, regular.division, ?_, regular.maskedBias,
    regular.attentionDropout, regular.outputDropout⟩
  rw [← regular.width]
  exact sized

theorem regular_of_evaluating {kind : LayerKind} {config : Config} {parameters : Parameters α}
    {projected result : TypedTensor α} (floating : type.isFloating = true)
    (built : evaluating kind config type parameters = .ok layer)
    (attention : layer.attentionDropout ≠ .undefinedRate)
    (output : layer.outputDropout ≠ .undefinedRate)
    (splits : layer.split projected = .ok result) :
    ∃ heads size, 0 < heads ∧ layer.Regular type heads size := by
  have parametersSized := sized_of_evaluating built
  obtain ⟨plan, reach, taken, planMade, _, _, rfl⟩ := parts_of_evaluating built
  rcases exists_of_bind_ok planMade with ⟨division, divided, planMade⟩
  rcases exists_of_bind_ok planMade with ⟨attentionDropout, attentionMade, planMade⟩
  rcases exists_of_bind_ok planMade with ⟨outputDropout, outputMade, planMade⟩
  rcases exists_of_bind_ok planMade with ⟨width, sized, planMade⟩
  cases planMade
  have noneDropped := (Dropout.keepAll_of_ofSetting attentionMade).resolve_right attention
  have allAnswered := (Dropout.keepAll_of_ofSetting outputMade).resolve_right output
  rcases Config.division_of_ok sized divided with
    ⟨heads, size, rfl, nonzero, product⟩ | rfl | ⟨heads, size, rfl⟩
  · rcases exists_of_map_ok splits with ⟨tensor, changed, _⟩
    rcases Tensor.nonnegative_of_splitHeads nonzero product changed with ⟨positive, nonnegative⟩
    obtain ⟨count, rfl⟩ := Int.eq_ofNat_of_zero_le (Int.le_of_lt positive)
    obtain ⟨many, rfl⟩ := Int.eq_ofNat_of_zero_le nonnegative
    obtain rfl : width = count * many := by
      rw [← Int.natCast_mul] at product
      rw [Nat.mul_comm]
      exact (Int.ofNat_inj.mp product).symm
    exact ⟨count, many, by omega, floating, rfl, Or.inl rfl, parametersSized, rfl, noneDropped,
      allAnswered⟩
  · refine ⟨1, width, Nat.one_pos, floating, (Nat.one_mul _).symm, Or.inr ⟨rfl, rfl⟩, ?_, rfl,
      noneDropped, allAnswered⟩
    rw [Nat.one_mul]
    exact parametersSized
  · rcases exists_of_bind_ok splits with ⟨_, _, splits⟩
    contradiction

end Layer

end CausalAttention
