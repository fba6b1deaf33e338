import CausalAttention.Proofs.Config.Acceptance
import CausalAttention.Proofs.Number.Order

/-!
The rules of a configuration. The checks are the rules for the arguments in their own names. An
alias replaces its field after the checks, so what it brings along has met no rule.
-/

set_option autoImplicit false

namespace CausalAttention

namespace Setting

def AtLeastOne (setting : Setting) : Prop :=
  ∃ number, setting.number? = some number ∧ ∀ place ∈ number.place?, 1 ≤ place

def IsRate (setting : Setting) : Prop :=
  ∃ number, setting.number? = some number ∧
    ∃ rate : ℚ, number.place? = some (rate : WithTop ℚ) ∧ 0 ≤ rate ∧ rate < 1

def IsCount (setting : Setting) (count : Nat) : Prop :=
  ∃ number, setting.number? = some number ∧ number.place? = some ((count : ℚ) : WithTop ℚ)

theorem number_eq_ok {setting : Setting} {number : DyadicValue} :
    Setting.number setting = .ok number ↔ setting.number? = some number := by
  unfold Setting.number
  cases setting.number? with
  | none => simp
  | some other => simp

end Setting

theorem Setting.atLeastOne_of_required {setting : Setting} {failure : Failure}
    (required : requirePositive setting failure = .ok ()) : Setting.AtLeastOne setting := by
  rcases exists_of_bind_ok required with ⟨number, read, notBelow⟩
  rw [require_eq_ok, Bool.not_eq_true', ← Bool.not_eq_true, DyadicValue.isLess_iff] at notBelow
  refine ⟨number, Setting.number_eq_ok.mp read, ?_⟩
  intro place found
  by_contra below
  exact notBelow ⟨place, found, 1, DyadicValue.place?_ofInteger 1, lt_of_not_ge below⟩

theorem Setting.isRate_of_required {name : String} {setting : Setting}
    (required : ConfigArguments.requireRate name setting = .ok ()) : Setting.IsRate setting := by
  rcases exists_of_bind_ok required with ⟨number, read, inRange⟩
  rw [require_eq_ok, Bool.and_eq_true, DyadicValue.isAtMost_iff, DyadicValue.isLess_iff,
    DyadicValue.place?_ofInteger, DyadicValue.place?_ofInteger] at inRange
  simp only [Option.mem_some_iff, exists_eq_left'] at inRange
  rcases inRange with ⟨⟨place, found, atLeast⟩, other, otherFound, below⟩
  obtain rfl : place = other := Option.mem_unique found otherFound
  obtain ⟨rate, rfl, nonnegative, belowOne⟩ := DyadicValue.exists_rational atLeast below
  exact ⟨number, Setting.number_eq_ok.mp read, rate, found, by simpa using nonnegative,
    by simpa using belowOne⟩

theorem Setting.isCount_of_required {arguments : ConfigArguments} {kinds : List Setting}
    (required : arguments.requireLayerCount kinds = .ok ()) :
    Setting.IsCount arguments.layerCount kinds.length := by
  unfold ConfigArguments.requireLayerCount at required
  rw [require_eq_ok] at required
  cases read : arguments.layerCount.number? with
  | none =>
      rw [read] at required
      contradiction
  | some number =>
      rw [read] at required
      rcases DyadicValue.isEqual_iff.mp required with ⟨place, found, same⟩
      rw [DyadicValue.place?_ofInteger] at found
      cases found
      exact ⟨number, read, same⟩

/-- What the checks are for: sizes that fit, rates in range, and one layer of a known kind for every
entry of the expanded layout. -/
structure Config.Consistent (config : Config) (kinds : List Setting) : Prop where
  heads : Setting.AtLeastOne config.heads
  divisible : Setting.isMultipleOf config.hiddenSize config.heads = .ok true
  window : Setting.AtLeastOne config.windowSize
  positions : Setting.AtLeastOne config.maxPositions
  attentionRate : Setting.IsRate config.attentionDropout
  outputRate : Setting.IsRate config.outputDropout
  expanded : expandLayout config.layout = .ok kinds
  listed : config.layers = .list kinds
  counted : Setting.IsCount config.layerCount kinds.length
  known : ∀ kind ∈ kinds, kind = .text "global" ∨ kind = .text "local"

theorem Config.Consistent.dvd {config : Config} {kinds : List Setting}
    (consistent : config.Consistent kinds) {width heads : Int}
    (hiddenSize : config.hiddenSize = .int width) (given : config.heads = .int heads) :
    heads ∣ width := by
  have divisible := consistent.divisible
  rw [hiddenSize, given] at divisible
  have remainder : decide (width % heads = 0) = true := Except.ok.inj divisible
  exact Int.dvd_of_emod_eq_zero (of_decide_eq_true remainder)

theorem ConfigArguments.Passes.consistent {arguments : ConfigArguments} {layout : Setting}
    {kinds : List Setting} (passes : arguments.Passes layout kinds)
    (heads : arguments.headsAlias = none) (layerCount : arguments.layerCountAlias = none) :
    (arguments.stored layout kinds).Consistent kinds := by
  have divisible : Setting.isMultipleOf arguments.hiddenSize arguments.heads = .ok true := by
    rcases exists_of_bind_ok passes.divisible with ⟨answer, asked, required⟩
    rw [require_eq_ok] at required
    rw [asked, required]
  unfold stored
  rw [heads, layerCount]
  exact {
    heads := Setting.atLeastOne_of_required passes.heads
    divisible
    window := Setting.atLeastOne_of_required passes.window
    positions := Setting.atLeastOne_of_required passes.positions
    attentionRate := Setting.isRate_of_required passes.attentionRate
    outputRate := Setting.isRate_of_required passes.outputRate
    expanded := passes.expanded
    listed := rfl
    counted := Setting.isCount_of_required passes.counted
    known := known_of_required passes.known }

namespace ConfigArguments

def unaliased (arguments : ConfigArguments) : ConfigArguments :=
  { arguments with headsAlias := none, layerCountAlias := none }

def rename (arguments : ConfigArguments) (config : Config) : Config :=
  { config with
    heads := arguments.headsAlias.getD config.heads
    layerCount := arguments.layerCountAlias.getD config.layerCount }

end ConfigArguments

/-- Aliases take no part in the checks: arguments are accepted, or fail, as without them. -/
theorem Config.ofArguments_eq (arguments : ConfigArguments) :
    ofArguments arguments = arguments.rename <$> ofArguments arguments.unaliased := by
  unfold ofArguments
  simp only [map_bind, map_pure]
  rfl

/-- What is left of the rules when aliases replace their fields. -/
theorem Config.Consistent.rename_iff {arguments : ConfigArguments} {checked : Config}
    {kinds : List Setting} (consistent : checked.Consistent kinds) :
    (arguments.rename checked).Consistent kinds ↔
      (∀ heads ∈ arguments.headsAlias, Setting.AtLeastOne heads ∧
        Setting.isMultipleOf checked.hiddenSize heads = .ok true) ∧
      ∀ layerCount ∈ arguments.layerCountAlias, Setting.IsCount layerCount kinds.length := by
  constructor
  · intro renamed
    have headsRule := renamed.heads
    have divisible := renamed.divisible
    have counted := renamed.counted
    unfold ConfigArguments.rename at headsRule divisible counted
    constructor
    · intro heads given
      rw [Option.mem_def] at given
      rw [given] at headsRule divisible
      exact ⟨headsRule, divisible⟩
    · intro layerCount given
      rw [Option.mem_def] at given
      rw [given] at counted
      exact counted
  · rintro ⟨headsFit, layerCountFits⟩
    have headsRule : Setting.AtLeastOne (arguments.rename checked).heads ∧
        Setting.isMultipleOf checked.hiddenSize (arguments.rename checked).heads = .ok true := by
      unfold ConfigArguments.rename
      cases given : arguments.headsAlias with
      | none => exact ⟨consistent.heads, consistent.divisible⟩
      | some heads => exact headsFit heads given
    have counted : Setting.IsCount (arguments.rename checked).layerCount kinds.length := by
      unfold ConfigArguments.rename
      cases given : arguments.layerCountAlias with
      | none => exact consistent.counted
      | some layerCount => exact layerCountFits layerCount given
    exact { consistent with
      heads := headsRule.1
      divisible := headsRule.2
      counted }

/-- An accepted configuration is a consistent one, in which aliases have replaced their fields. It
is consistent itself exactly when they happen to meet the rules that nothing has checked. -/
theorem Config.consistent_of_accepted {arguments : ConfigArguments} {config : Config}
    (accepted : ofArguments arguments = .ok config) :
    ∃ checked kinds, ofArguments arguments.unaliased = .ok checked ∧ checked.Consistent kinds ∧
      config = arguments.rename checked ∧
      (config.Consistent kinds ↔
        (∀ heads ∈ arguments.headsAlias, Setting.AtLeastOne heads ∧
          Setting.isMultipleOf config.hiddenSize heads = .ok true) ∧
        ∀ layerCount ∈ arguments.layerCountAlias, Setting.IsCount layerCount kinds.length) := by
  rw [ofArguments_eq] at accepted
  rcases exists_of_map_ok accepted with ⟨checked, made, rfl⟩
  rcases passes_of_accepted made with ⟨layout, kinds, passes, rfl⟩
  have consistent := passes.consistent rfl rfl
  exact ⟨_, kinds, made, consistent, rfl, consistent.rename_iff⟩

/-- Aliases that meet the rules: four heads for 768 features, and twelve layers. -/
theorem Config.consistent_of_accepted_twelve_layers :
    let arguments : ConfigArguments :=
      { headsAlias := some (.int 4), layerCountAlias := some (.int 12),
        attentionDropout := .int 0, outputDropout := .int 0 }
    ∃ config kinds, ofArguments arguments = .ok config ∧ config.heads = .int 4 ∧
      config.Consistent kinds := by
  intro arguments
  obtain ⟨config, accepted⟩ : ∃ config, ofArguments arguments = .ok config := ⟨_, rfl⟩
  obtain ⟨checked, kinds, made, consistent, renamed, rules⟩ := consistent_of_accepted accepted
  have size : config.hiddenSize = .int 768 := by
    cases accepted
    rfl
  have counted : Setting.IsCount (.int 12) kinds.length := by
    have same := consistent.counted
    cases made
    exact same
  refine ⟨config, kinds, accepted, ?_, rules.mpr ⟨?_, ?_⟩⟩
  · rw [renamed]
    rfl
  · intro heads given
    cases given
    rw [size]
    exact ⟨⟨_, rfl, by simp [DyadicValue.place?_ofInteger]⟩, rfl⟩
  · intro layerCount given
    cases given
    exact counted

/-- Five heads do not divide 768 features, yet as an alias they are accepted. -/
theorem Config.alias_breaks_rules :
    let arguments : ConfigArguments :=
      { headsAlias := some (.int 5), attentionDropout := .int 0, outputDropout := .int 0 }
    ∃ config, ofArguments arguments = .ok config ∧ ∀ kinds, ¬config.Consistent kinds := by
  intro arguments
  obtain ⟨config, accepted⟩ : ∃ config, ofArguments arguments = .ok config := ⟨_, rfl⟩
  refine ⟨config, accepted, ?_⟩
  intro kinds consistent
  cases accepted
  have divides : (5 : Int) ∣ 768 := consistent.dvd rfl rfl
  contradiction

end CausalAttention
