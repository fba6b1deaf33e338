import CausalAttention.Proofs.Config.Acceptance
import CausalAttention.Proofs.Layer.Regular
import CausalAttention.Proofs.Number.Order

/-!
Layers of accepted configurations. What the checks of a configuration leave over is what a layer
needs: a positive number of heads that divides the width, and rates that drop nothing outside of
training.
-/

set_option autoImplicit false

namespace CausalAttention

/-- A rate that a configuration accepts drops nothing outside of training. In training it has the
effect of what is drawn, unless it is zero. -/
theorem Dropout.ofSetting_of_rate {α : Type} {name : String} {rate : Setting}
    (accepted : ConfigArguments.requireRate name rate = .ok ()) (training : Bool)
    (draw : Dropout α) :
    ofSetting rate training draw = .ok .keepAll ∨
      training = true ∧ ofSetting rate training draw = .ok draw := by
  unfold ConfigArguments.requireRate at accepted
  rcases exists_of_bind_ok accepted with ⟨number, read, inRange⟩
  rw [require_eq_ok, Bool.and_eq_true] at inRange
  rcases inRange with ⟨atLeast, below⟩
  have notAbove := DyadicValue.isLess_asymm below
  have notOne := DyadicValue.isEqual_eq_false_of_isLess below
  have notBelow := DyadicValue.isLess_eq_false_of_isAtMost atLeast
  have given : rate.number? = some number := by
    unfold Setting.number at read
    cases found : rate.number? with
    | none => simp [found] at read
    | some other =>
        simp only [found] at read
        cases read
        rfl
  have effect : ofSetting rate training draw =
      if !training || number.isEqual (.ofInteger 0) then .ok .keepAll else .ok draw := by
    unfold ofSetting
    rw [given]
    cases number with
    | undefined => contradiction
    | finite negative magnitude exponent => simp [notAbove, notBelow, notOne]
    | infinite negative => simp [notAbove, notBelow, notOne]
  rw [effect]
  split
  · exact Or.inl rfl
  · rename_i drops
    simp only [Bool.not_eq_true, Bool.or_eq_false_iff, Bool.not_eq_false'] at drops
    exact Or.inr ⟨drops.1, rfl⟩

theorem Dropout.ofSetting_evaluating {α : Type} {name : String} {rate : Setting}
    (accepted : ConfigArguments.requireRate name rate = .ok ()) :
    ofSetting rate false = .ok (.keepAll : Dropout α) :=
  (ofSetting_of_rate accepted false .keepAll).resolve_right fun trained => by
    cases trained.1

/-- Arguments with integers for the sizes of a layer and no other name for the heads. -/
structure ConfigArguments.Whole (arguments : ConfigArguments) (width heads window limit : Int) :
    Prop where
  hiddenSize : arguments.hiddenSize = .int width
  heads : arguments.heads = .int heads
  headsAlias : arguments.headsAlias = none
  windowSize : arguments.windowSize = .int window
  maxPositions : arguments.maxPositions = .int limit

/-- What an accepted configuration is known to hold. -/
structure Config.Settled (config : Config) (heads size : Nat) (window limit : Int) : Prop where
  headsPositive : 0 < heads
  windowPositive : 1 ≤ window
  limitPositive : 1 ≤ limit
  hiddenSize : config.hiddenSize = .int (heads * size : Nat)
  heads : config.heads = .int heads
  windowSize : config.windowSize = .int window
  maxPositions : config.maxPositions = .int limit
  attentionDropout : ∀ {α : Type},
    Dropout.ofSetting config.attentionDropout false = .ok (.keepAll : Dropout α)
  outputDropout : ∀ {α : Type},
    Dropout.ofSetting config.outputDropout false = .ok (.keepAll : Dropout α)

theorem requirePositive_int_eq_ok {number : Int} {failure : Failure}
    (required : requirePositive (.int number) failure = .ok ()) : 1 ≤ number := by
  rw [requirePositive_int] at required
  by_cases positive : 1 ≤ number
  · exact positive
  · rw [if_neg positive] at required
    contradiction

theorem Config.settled_of_accepted {arguments : ConfigArguments} {config : Config}
    {width heads window limit : Int} (accepted : ofArguments arguments = .ok config)
    (whole : arguments.Whole width heads window limit) (nonnegative : 0 ≤ width) :
    ∃ count size : Nat, heads = count ∧ width = (count * size : Nat) ∧
      config.Settled count size window limit := by
  rcases passes_of_accepted accepted with ⟨layout, kinds, passes, rfl⟩
  have headsRequired := passes.heads
  have divisible := passes.divisible
  have windowRequired := passes.window
  have limitRequired := passes.positions
  rw [whole.heads] at headsRequired
  rw [whole.windowSize] at windowRequired
  rw [whole.maxPositions] at limitRequired
  have headsPositive := requirePositive_int_eq_ok headsRequired
  have remainder : width % heads = 0 := by
    unfold ConfigArguments.requireDivisible at divisible
    rcases exists_of_bind_ok divisible with ⟨answer, asked, required⟩
    rw [whole.hiddenSize, whole.heads] at asked
    rw [require_eq_ok] at required
    subst required
    exact of_decide_eq_true (Except.ok.inj asked)
  have product := Int.ediv_mul_cancel (Int.dvd_of_emod_eq_zero remainder)
  have quotientNonnegative : 0 ≤ width / heads := Int.ediv_nonneg nonnegative (by omega)
  have headsNonnegative : 0 ≤ heads := by omega
  rcases Int.eq_ofNat_of_zero_le headsNonnegative with ⟨count, counted⟩
  rcases Int.eq_ofNat_of_zero_le quotientNonnegative with ⟨size, sized⟩
  have widthEq : width = (count * size : Nat) := by
    rw [← product, sized, counted, Int.mul_comm, Int.natCast_mul]
  refine ⟨count, size, counted, widthEq, ?_⟩
  exact {
    headsPositive := by omega
    windowPositive := requirePositive_int_eq_ok windowRequired
    limitPositive := requirePositive_int_eq_ok limitRequired
    hiddenSize := by
      simp only [ConfigArguments.stored, whole.hiddenSize, widthEq]
    heads := by
      simp only [ConfigArguments.stored, whole.headsAlias, whole.heads, counted, Option.getD_none]
    windowSize := whole.windowSize
    maxPositions := whole.maxPositions
    attentionDropout := Dropout.ofSetting_evaluating passes.attentionRate
    outputDropout := Dropout.ofSetting_evaluating passes.outputRate }

variable {α : Type} [Arithmetic α]

structure Parameters.Shaped (parameters : Parameters α) (width : Nat) : Prop where
  query : parameters.query.shape = [width, width]
  key : parameters.key.shape = [width, width]
  value : parameters.value.shape = [width, width]
  output : parameters.output.shape = [width, width]
  outputBias : parameters.outputBias.shape = [width]

def Parameters.convert (type : ElementType) (parameters : Parameters α) : Parameters α :=
  { query := parameters.query.convert type
    key := parameters.key.convert type
    value := parameters.value.convert type
    output := parameters.output.convert type
    outputBias := parameters.outputBias.convert type }

theorem Parameters.Shaped.convert_sized {parameters : Parameters α} {width : Nat}
    (shaped : parameters.Shaped width) (type : ElementType) :
    (parameters.convert type).Sized type width := by
  have converted {typed : TypedTensor α} {shape : Shape} (shapeEq : typed.shape = shape) :
      (typed.convert type).Sized type shape :=
    ⟨TypedTensor.elementType_convert type typed,
      (TypedTensor.shape_convert type typed).trans shapeEq⟩
  exact ⟨converted shaped.query, converted shaped.key, converted shaped.value,
    converted shaped.output, converted shaped.outputBias⟩

theorem Parameters.zero_sized (type : ElementType) (width : Nat) :
    (zero type width : Parameters α).Sized type width :=
  ⟨⟨rfl, rfl⟩, ⟨rfl, rfl⟩, ⟨rfl, rfl⟩, ⟨rfl, rfl⟩, ⟨rfl, rfl⟩⟩

def Parameters.constant (type : ElementType) (width : Nat) (value : α) : Parameters α :=
  let matrix : TypedTensor α := ⟨type, Tensor.replicate [width, width] value⟩
  { query := matrix
    key := matrix
    value := matrix
    output := matrix
    outputBias := ⟨type, Tensor.replicate [width] value⟩ }

omit [Arithmetic α] in
theorem Parameters.constant_shaped (type : ElementType) (width : Nat) (value : α) :
    (constant type width value).Shaped width :=
  ⟨rfl, rfl, rfl, rfl, rfl⟩

namespace Layer

def evaluating (kind : LayerKind) (config : Config) (type : ElementType)
    (parameters : Parameters α) : Except Failure (Layer α) := do
  let layer ← ofConfig kind config type false
  layer.withParameters parameters

variable {type : ElementType} {heads size : Nat}

theorem regular_ofWhole (floating : type.isFloating = true) (heads size : Nat) (reach : Reach) :
    (ofPlan ⟨heads * size, .whole heads size, .keepAll, .keepAll⟩ reach type : Layer α).Regular type
      heads size :=
  ⟨floating, rfl, Or.inl rfl, Parameters.zero_sized type (heads * size), rfl, rfl, rfl⟩

theorem Regular.withParameters {layer : Layer α} (regular : layer.Regular type heads size)
    {parameters : Parameters α} (shaped : parameters.Shaped (heads * size)) :
    layer.withParameters parameters =
        .ok { layer with parameters := parameters.convert type } ∧
      ({ layer with parameters := parameters.convert type } : Layer α).Regular type heads size := by
  have overwritten {target source : TypedTensor α} {shape : Shape}
      (targetSized : target.Sized type shape) (sourceShape : source.shape = shape) :
      target.overwrite source = .ok (source.convert type) := by
    unfold TypedTensor.overwrite
    rw [if_pos (sourceShape.trans targetSized.shape_eq.symm), targetSized.type_eq]
  rcases regular.parameters with ⟨query, key, value, output, outputBias⟩
  constructor
  · simp only [Layer.withParameters, Parameters.assign, overwritten query shaped.query,
      overwritten key shaped.key, overwritten value shaped.value,
      overwritten output shaped.output, overwritten outputBias shaped.outputBias, bind,
      Except.bind, pure, Except.pure, Except.map]
    rfl
  · exact ⟨regular.floating, regular.width, regular.division, shaped.convert_sized type,
      regular.maskedBias, regular.attentionDropout, regular.outputDropout⟩

def constant (type : ElementType) (heads size : Nat) (reach : Reach) (value : α) : Layer α :=
  { (ofPlan ⟨heads * size, .whole heads size, .keepAll, .keepAll⟩ reach type : Layer α) with
    parameters := (Parameters.constant type (heads * size) value).convert type }

theorem regular_constant (floating : type.isFloating = true) (reach : Reach) (value : α) :
    (constant type heads size reach value).Regular type heads size :=
  ((regular_ofWhole floating heads size reach).withParameters
    (Parameters.constant_shaped type (heads * size) value)).2

theorem Regular.withReach {layer : Layer α} (regular : layer.Regular type heads size)
    (reach : Reach) : ({ layer with reach } : Layer α).Regular type heads size :=
  ⟨regular.floating, regular.width, regular.division, regular.parameters, regular.maskedBias,
    regular.attentionDropout, regular.outputDropout⟩

omit [Arithmetic α] in
theorem plan_of_settled {config : Config} {window limit : Int}
    (settled : config.Settled heads size window limit) :
    LayerPlan.ofConfig config false =
      .ok (⟨heads * size, .whole heads size, .keepAll, .keepAll⟩ : LayerPlan α) := by
  have headsPositive := settled.headsPositive
  have nonzero : (heads : Int) ≠ 0 := by omega
  have quotient : ((heads * size : Nat) : Int) / heads = size := by
    rw [Int.natCast_mul, Int.mul_ediv_cancel_left _ nonzero]
  have product : (size : Int) * heads = (heads * size : Nat) := by
    rw [Int.natCast_mul, Int.mul_comm]
  have division : config.headDivision = .ok (.whole heads size) := by
    simp only [Config.headDivision, settled.hiddenSize, settled.heads, Setting.numeral?,
      if_neg nonzero, quotient, product, decide_true, require, if_true, bind, Except.bind, pure,
      Except.pure]
  have width : Setting.size config.hiddenSize = .ok (heads * size) := by
    rw [settled.hiddenSize]
    simp only [Setting.size]
    rw [if_pos (Int.natCast_nonneg _), Int.toNat_natCast]
  simp only [LayerPlan.ofConfig, division, settled.attentionDropout, settled.outputDropout, width,
    bind, Except.bind, pure, Except.pure]

theorem reach_of_settled {config : Config} {window limit : Int}
    (settled : config.Settled heads size window limit) :
    Reach.ofConfig .everything config = .ok (.everything limit.toNat) ∧
      Reach.ofConfig .window config = .ok (.window (.int window)) := by
  have nonnegative : 0 ≤ limit := by
    have positive := settled.limitPositive
    omega
  constructor
  · simp only [Reach.ofConfig, settled.maxPositions, Setting.size, if_pos nonnegative, Except.map]
  · simp only [Reach.ofConfig, settled.windowSize]

/-- Layers of both kinds of a settled configuration, with the values of the same parameters, are
regular and differ in their reach only. -/
theorem evaluating_of_settled {config : Config} {window limit : Int}
    (settled : config.Settled heads size window limit) (floating : type.isFloating = true)
    {parameters : Parameters α} (shaped : parameters.Shaped (heads * size)) :
    ∃ layer : Layer α, layer.Regular type heads size ∧
      layer.parameters = parameters.convert type ∧
      evaluating .everything config type parameters =
        .ok { layer with reach := .everything limit.toNat } ∧
      evaluating .window config type parameters =
        .ok { layer with reach := .window (.int window) } := by
  rcases reach_of_settled settled with ⟨everything, windowed⟩
  have planned := plan_of_settled (α := α) settled
  have regular := regular_ofWhole (α := α) floating heads size
  rcases (regular (.everything limit.toNat)).withParameters shaped with ⟨assigned, layerRegular⟩
  refine ⟨_, layerRegular, rfl, ?_, ?_⟩
  · simp only [evaluating, ofConfig, planned, everything, bind, Except.bind, pure, Except.pure]
    exact assigned
  · simp only [evaluating, ofConfig, planned, windowed, bind, Except.bind, pure, Except.pure]
    exact ((regular (.window (.int window))).withParameters shaped).1

end Layer

end CausalAttention
