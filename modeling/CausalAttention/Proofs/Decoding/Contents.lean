import CausalAttention.Number.Machine
import CausalAttention.Proofs.Decoding.Feed
import CausalAttention.Proofs.Layer.Construction
import CausalAttention.Proofs.Layer.Global
import CausalAttention.Proofs.Layer.Local

/-!
The cache that a run leaves. It holds the keys and the values of all positions, or their hidden
states, and depends on the positions alone: neither on the steps in which they were fed, nor on
masks, nor on dropout.
-/

set_option autoImplicit false

namespace CausalAttention

namespace Layer

variable {α : Type} [Arithmetic α] {layer : Layer α} {type : ElementType}
  {heads size batch sequence first count : Nat} {hidden : TypedTensor α} {input : LayerInput α}
  {answer : LayerOutput α}

/-- The cache of a sequence: its keys and values by head, or its hidden states. -/
def contents (layer : Layer α) (hidden : TypedTensor α) : Except Failure (Cache α) :=
  match layer.reach with
  | .everything _ => do
      let keyFeatures ← hidden.linear layer.parameters.key
      let valueFeatures ← hidden.linear layer.parameters.value
      let key ← layer.split keyFeatures
      let value ← layer.split valueFeatures
      return [key, value]
  | .window _ => .ok [hidden]

theorem present_of_runGlobal {limit : Nat} (ran : layer.runGlobal limit input = .ok answer) :
    ∃ keyFeatures valueFeatures newKey newValue key value,
      input.hidden.linear layer.parameters.key = .ok keyFeatures ∧
      input.hidden.linear layer.parameters.value = .ok valueFeatures ∧
      layer.split keyFeatures = .ok newKey ∧ layer.split valueFeatures = .ok newValue ∧
      extendKeysValues input.past newKey newValue = .ok (key, value) ∧
      answer.present = if input.useCache then some [key, value] else none := by
  unfold runGlobal at ran
  rcases exists_of_bind_ok ran with ⟨_, _, ran⟩
  rcases exists_of_bind_ok ran with ⟨keyFeatures, keyMade, ran⟩
  rcases exists_of_bind_ok ran with ⟨valueFeatures, valueMade, ran⟩
  rcases exists_of_bind_ok ran with ⟨_, _, ran⟩
  rcases exists_of_bind_ok ran with ⟨newKey, keySplit, ran⟩
  rcases exists_of_bind_ok ran with ⟨newValue, valueSplit, ran⟩
  rcases exists_of_bind_ok ran with ⟨⟨key, value⟩, extended, ran⟩
  refine ⟨keyFeatures, valueFeatures, newKey, newValue, key, value, keyMade, valueMade, keySplit,
    valueSplit, extended, ?_⟩
  simp only at ran
  split at ran
  · contradiction
  · split at ran
    all_goals
      rcases exists_of_bind_ok ran with ⟨_, _, ran⟩
      rcases exists_of_bind_ok ran with ⟨_, _, ran⟩
      rcases exists_of_bind_ok ran with ⟨_, _, ran⟩
      cases ran
      rfl

theorem Regular.remembers_next (regular : layer.Regular type heads size)
    (attentionDropout outputDropout : Dropout α)
    (sized : hidden.Sized type [batch, sequence, heads * size]) (within : first + count ≤ sequence)
    (same : input.hidden = hidden.slice 1 first count) (cached : input.useCache = true)
    (remembers : layer.Remembers type heads size hidden batch first input.past) {limit : Nat}
    (ran : ({ layer with attentionDropout, outputDropout } : Layer α).runGlobal limit input =
      .ok answer) :
    layer.Remembers type heads size hidden batch (first + count) answer.present := by
  obtain ⟨keyFeatures, valueFeatures, newKey, newValue, key, value, keyMade, valueMade, keySplit,
    valueSplit, extended, present⟩ := present_of_runGlobal ran
  change layer.split keyFeatures = .ok newKey at keySplit
  change layer.split valueFeatures = .ok newValue at valueSplit
  rw [same] at keyMade valueMade
  have partSized : (hidden.slice 1 first count).Sized type [batch, count, heads * size] :=
    sized.slice 1 first count
  obtain ⟨_, heldKey, keyFeaturesMade, keyHeld, keyHolds⟩ :=
    regular.splitHeads_reads partSized regular.parameters.key
  obtain ⟨_, heldValue, valueFeaturesMade, valueHeld, valueHolds⟩ :=
    regular.splitHeads_reads partSized regular.parameters.value
  cases keyFeaturesMade.symm.trans keyMade
  cases valueFeaturesMade.symm.trans valueMade
  cases keyHeld.symm.trans keySplit
  cases valueHeld.symm.trans valueSplit
  obtain ⟨keys, values, made, keysHold, valuesHold⟩ :=
    extendKeysValues_reads sized within remembers keyHolds valueHolds
  cases made.symm.trans extended
  rw [present, cached]
  exact ⟨key, value, rfl, keysHold, valuesHold⟩

def pastStates (hidden : TypedTensor α) (first : Nat) : Option (Cache α) :=
  if first = 0 then none else some [hidden.slice 1 0 first]

theorem rememberHidden_next (sized : hidden.Sized type [batch, sequence, heads * size])
    (positive : 1 ≤ count) (same : input.hidden = hidden.slice 1 first count)
    (cached : input.useCache = true) (past : input.past = pastStates hidden first) :
    rememberHidden input = .ok (pastStates hidden (first + count)) := by
  have later : first + count ≠ 0 := by omega
  unfold rememberHidden pastStates
  rw [if_pos cached, if_neg later, past, same]
  by_cases start : first = 0
  · subst start
    rw [Nat.zero_add]
    rfl
  · have rankEq : hidden.rank = 3 := congrArg List.length sized.shape_eq
    have joined := TypedTensor.append_slice first count (by omega : 2 ≤ hidden.rank)
      (by omega : 1 < hidden.rank)
    simp only [pastStates, if_neg start]
    change ((hidden.slice 1 0 first).append (1 : Nat) (hidden.slice 1 first count)).map _ = _
    rw [joined]
    rfl

theorem rememberHidden_of_run {setting : Setting} (reach : layer.reach = .window setting)
    (ran : layer.run input = .ok answer) : rememberHidden input = .ok answer.present := by
  simp only [Layer.run, reach] at ran
  rcases exists_of_bind_ok ran with ⟨_, _, ran⟩
  rcases exists_of_bind_ok ran with ⟨present, remembered, ran⟩
  cases ran
  exact remembered

/-- What a layer of either kind keeps in the cache of the first positions. -/
def Keeps (layer : Layer α) (type : ElementType) (heads size : Nat) (hidden : TypedTensor α)
    (batch first : Nat) (past : Option (Cache α)) : Prop :=
  match layer.reach with
  | .everything _ => layer.Remembers type heads size hidden batch first past
  | .window _ => past = pastStates hidden first

theorem keeps_everything {limit : Nat} (reach : layer.reach = .everything limit)
    {past : Option (Cache α)} :
    layer.Keeps type heads size hidden batch first past ↔
      layer.Remembers type heads size hidden batch first past := by
  simp only [Keeps, reach]

theorem keeps_window {setting : Setting} (reach : layer.reach = .window setting)
    {past : Option (Cache α)} :
    layer.Keeps type heads size hidden batch first past ↔ past = pastStates hidden first := by
  simp only [Keeps, reach]

theorem keeps_nothing : layer.Keeps type heads size hidden batch 0 none := by
  cases reach : layer.reach with
  | everything limit => exact (keeps_everything reach).mpr rfl
  | window setting => exact (keeps_window reach).mpr rfl

theorem Regular.keeps_next (regular : layer.Regular type heads size)
    (attentionDropout outputDropout : Dropout α)
    (sized : hidden.Sized type [batch, sequence, heads * size]) {step : Step α}
    (positive : 1 ≤ step.size) (within : first + step.size ≤ sequence) {past : Option (Cache α)}
    (keeps : layer.Keeps type heads size hidden batch first past)
    (ran : ({ layer with attentionDropout, outputDropout } : Layer α).run
      (step.input hidden past first) = .ok answer) :
    layer.Keeps type heads size hidden batch (first + step.size) answer.present := by
  have same : (step.input hidden past first).hidden = hidden.slice 1 first step.size := rfl
  have cached : (step.input hidden past first).useCache = true := rfl
  cases reach : layer.reach with
  | everything limit =>
      rw [keeps_everything reach] at keeps ⊢
      simp only [Layer.run, reach] at ran
      exact regular.remembers_next attentionDropout outputDropout sized within same cached keeps ran
  | window setting =>
      rw [keeps_window reach] at keeps ⊢
      have dropping : ({ layer with attentionDropout, outputDropout } : Layer α).reach =
          .window setting := reach
      have remembered := rememberHidden_of_run dropping ran
      have next := rememberHidden_next sized positive same cached keeps
      exact Except.ok.inj (remembered.symm.trans next)

theorem pastStates_all (sized : hidden.Sized type [batch, sequence, heads * size])
    (nonempty : 1 ≤ sequence) : pastStates hidden sequence = some [hidden] := by
  have some : sequence ≠ 0 := by omega
  have extent : hidden.tensor.extent 1 = sequence := by
    have sizes : hidden.tensor.shape = [batch, sequence, heads * size] := sized.shape_eq
    simp [Tensor.extent, sizes]
  unfold pastStates
  rw [if_neg some, TypedTensor.slice_all extent]

theorem Regular.contents_keeps (regular : layer.Regular type heads size)
    (sized : hidden.Sized type [batch, sequence, heads * size]) (nonempty : 1 ≤ sequence) :
    ∃ cache, layer.contents hidden = .ok cache ∧
      layer.Keeps type heads size hidden batch sequence (some cache) := by
  cases reach : layer.reach with
  | everything limit =>
      obtain ⟨keyFeatures, key, keyMade, keySplit, keyHolds⟩ :=
        regular.splitHeads_reads sized regular.parameters.key
      obtain ⟨valueFeatures, value, valueMade, valueSplit, valueHolds⟩ :=
        regular.splitHeads_reads sized regular.parameters.value
      have keeps : layer.Keeps type heads size hidden batch sequence (some [key, value]) :=
        (keeps_everything reach).mpr ⟨key, value, rfl, keyHolds, valueHolds⟩
      refine ⟨[key, value], ?_, keeps⟩
      simp only [contents, reach, keyMade, valueMade, keySplit, valueSplit, bind, Except.bind, pure,
        Except.pure]
  | window setting =>
      refine ⟨[hidden], ?_, (keeps_window reach).mpr (pastStates_all sized nonempty).symm⟩
      simp only [contents, reach]

theorem Keeps.unique {past : Option (Cache α)} {cache : Cache α} (nonempty : 1 ≤ first)
    (keeps : layer.Keeps type heads size hidden batch first past)
    (keepsCache : layer.Keeps type heads size hidden batch first (some cache)) :
    past = some cache := by
  cases reach : layer.reach with
  | everything limit =>
      rw [keeps_everything reach] at keeps keepsCache
      refine keeps.unique keepsCache ?_
      cases past with
      | none =>
          have nothing : first = 0 := keeps
          omega
      | some held => rfl
  | window setting =>
      rw [keeps_window reach] at keeps keepsCache
      exact keeps.trans keepsCache.symm

theorem Regular.run_keeps (regular : layer.Regular type heads size)
    (sized : hidden.Sized type [batch, sequence, heads * size]) (nonempty : 1 ≤ sequence)
    (admits : layer.reach.Admits sequence) :
    ∃ answer, layer.run { hidden, useCache := true } = .ok answer ∧
      layer.Keeps type heads size hidden batch sequence answer.present := by
  cases reach : layer.reach with
  | everything limit =>
      rw [reach] at admits
      have run : layer.GlobalRun type heads size hidden batch sequence 0 sequence
          { hidden, useCache := true } := GlobalRun.whole sized forall_mem_none forall_mem_none true
      have reached : 0 + sequence ≤ limit := by
        rw [Nat.zero_add]
        exact admits
      rcases run.answers regular reached forall_mem_none with ⟨answer, ran, answered⟩
      refine ⟨answer, ?_, ?_⟩
      · simp only [Layer.run, reach]
        exact ran
      · have remembers := answered.remembers rfl
        rw [Nat.zero_add] at remembers
        exact (keeps_everything reach).mpr remembers
  | window setting =>
      rw [reach] at admits
      rcases admits with ⟨window, rfl, wide⟩
      rcases Blocks.exists_cut nonempty wide with ⟨blocks, cut⟩
      have run : LocalRun type heads size hidden batch sequence blocks window
          { hidden, useCache := true } :=
        ⟨sized, cut, Or.inl ⟨rfl, rfl⟩, forall_mem_none, forall_mem_none⟩
      obtain ⟨answer, ran, _, present⟩ := run.run_answers regular reach forall_mem_none
      refine ⟨answer, ran, (keeps_window reach).mpr ?_⟩
      rw [present, pastStates_all sized nonempty]
      rfl

/-- Runs a layer step by step in training, where every step draws for its own dropouts. -/
def feedDrawn (layer : Layer α) (hidden : TypedTensor α) (past : Option (Cache α)) (start : Nat) :
    List (Step α × Dropout α × Dropout α) →
      Except Failure (List (LayerOutput α) × Option (Cache α))
  | [] => .ok ([], past)
  | (step, attentionDropout, outputDropout) :: steps => do
      let answer ← ({ layer with attentionDropout, outputDropout } : Layer α).run
        (step.input hidden past start)
      let (answers, last) ← feedDrawn layer hidden answer.present (start + step.size) steps
      return (answer :: answers, last)

theorem feedDrawn_const (attentionDropout outputDropout : Dropout α) (past : Option (Cache α))
    (start : Nat) (steps : List (Step α)) :
    layer.feedDrawn hidden past start
        (steps.map fun step => (step, attentionDropout, outputDropout)) =
      ({ layer with attentionDropout, outputDropout } : Layer α).feed hidden past start steps := by
  induction steps generalizing past start with
  | nil => rfl
  | cons step steps ih => simp only [List.map_cons, feedDrawn, feed, ih]

/-- What is drawn in the steps of a run does not matter for what the layer keeps. -/
theorem Regular.feedDrawn_keeps (regular : layer.Regular type heads size)
    (sized : hidden.Sized type [batch, sequence, heads * size])
    {steps : List (Step α × Dropout α × Dropout α)}
    (positive : ∀ step ∈ steps, 1 ≤ step.1.size) {past last : Option (Cache α)}
    {answers : List (LayerOutput α)} (within : first + Step.total (steps.map Prod.fst) ≤ sequence)
    (keeps : layer.Keeps type heads size hidden batch first past)
    (fed : layer.feedDrawn hidden past first steps = .ok (answers, last)) :
    layer.Keeps type heads size hidden batch (first + Step.total (steps.map Prod.fst)) last := by
  induction steps generalizing first past answers with
  | nil =>
      cases fed
      exact keeps
  | cons drawn steps ih =>
      rcases drawn with ⟨step, attentionDropout, outputDropout⟩
      rcases exists_of_bind_ok fed with ⟨answer, ran, fed⟩
      rcases exists_of_bind_ok fed with ⟨⟨later, lastCache⟩, fedLater, fed⟩
      cases fed
      simp only [List.map_cons, Step.total_cons, ← Nat.add_assoc] at within ⊢
      have some : 1 ≤ step.size := positive _ List.mem_cons_self
      have next := regular.keeps_next attentionDropout outputDropout sized some (by omega) keeps ran
      exact ih (fun step member => positive step (List.mem_cons_of_mem _ member)) within next
        fedLater

/-- Whatever every step of a run in training drops, the run leaves the cache of the positions. -/
theorem cache_of_drawn_steps (regular : layer.Regular type heads size)
    (sized : hidden.Sized type [batch, sequence, heads * size]) (nonempty : 1 ≤ sequence)
    {steps : List (Step α × Dropout α × Dropout α)}
    (total : Step.total (steps.map Prod.fst) = sequence)
    (positive : ∀ step ∈ steps, 1 ≤ step.1.size) {answers : List (LayerOutput α)}
    {last : Option (Cache α)}
    (fed : layer.feedDrawn hidden none 0 steps = .ok (answers, last)) :
    ∃ cache, layer.contents hidden = .ok cache ∧ last = some cache := by
  rcases regular.contents_keeps sized nonempty with ⟨cache, made, keepsCache⟩
  have keeps := regular.feedDrawn_keeps sized positive (by omega) keeps_nothing fed
  rw [Nat.zero_add, total] at keeps
  exact ⟨cache, made, keeps.unique nonempty keepsCache⟩

/-- Every successful run over the positions of a sequence leaves the same cache: that of one run on
all of them at once. -/
theorem cache_of_positions (regular : layer.Regular type heads size)
    (attentionDropout outputDropout : Dropout α)
    (sized : hidden.Sized type [batch, sequence, heads * size]) (nonempty : 1 ≤ sequence) :
    ∃ cache, layer.contents hidden = .ok cache ∧
      (∀ steps answers last, Step.total steps = sequence → (∀ step ∈ steps, 1 ≤ step.size) →
        ({ layer with attentionDropout, outputDropout } : Layer α).feed hidden none 0 steps =
          .ok (answers, last) →
        last = some cache) ∧
      (layer.reach.Admits sequence → ∃ answer, layer.run { hidden, useCache := true } = .ok answer ∧
        answer.present = some cache) := by
  rcases regular.contents_keeps sized nonempty with ⟨cache, made, keepsCache⟩
  refine ⟨cache, made, ?_, ?_⟩
  · intro steps answers last total positive fed
    have sizes : (steps.map fun step => (step, attentionDropout, outputDropout)).map Prod.fst =
        steps := by
      simp [Function.comp_def]
    rw [← feedDrawn_const] at fed
    rcases cache_of_drawn_steps regular sized nonempty (by rw [sizes, total])
      (by simpa using positive) fed with ⟨held, heldMade, left⟩
    rw [left, Except.ok.inj (heldMade.symm.trans made)]
  · intro admits
    rcases regular.run_keeps sized nonempty admits with ⟨answer, ran, keeps⟩
    exact ⟨answer, ran, keeps.unique nonempty keepsCache⟩

/-- Three positions in steps of two and one, of which the first step masks all, in machine
arithmetic. -/
theorem cache_of_positions_three_positions :
    let layer (reach : Reach) : Layer MachineNumber := constant .float32 1 2 reach default
    let hidden : TypedTensor MachineNumber := ⟨.float32, Tensor.replicate [1, 3, 2] default⟩
    let mask : TypedTensor MachineNumber := ⟨.int64, Tensor.replicate [1, 2] default⟩
    let steps : List (Step MachineNumber) := [⟨2, some mask, none⟩, ⟨1, none, none⟩]
    (∃ cache answers, (layer (.everything 3)).contents hidden = .ok cache ∧
      (layer (.everything 3)).feed hidden none 0 steps = .ok (answers, some cache)) ∧
    ∃ cache answers, (layer (.window (.int 2))).contents hidden = .ok cache ∧
      (layer (.window (.int 2))).feed hidden none 0 steps = .ok (answers, some cache) := by
  intro layer hidden mask steps
  have ends (reach : Reach)
      (succeeds : ((layer reach).feed hidden none 0 steps).toOption.isSome = true) :
      ∃ cache answers, (layer reach).contents hidden = .ok cache ∧
        (layer reach).feed hidden none 0 steps = .ok (answers, some cache) := by
    have regular : (layer reach).Regular .float32 1 2 := regular_constant rfl reach default
    have sized : hidden.Sized .float32 [1, 3, 1 * 2] := ⟨rfl, rfl⟩
    obtain ⟨cache, made, same, _⟩ :=
      cache_of_positions regular .keepAll .keepAll sized (by decide)
    cases fed : (layer reach).feed hidden none 0 steps with
    | error failure =>
        rw [fed] at succeeds
        contradiction
    | ok result =>
        rcases result with ⟨answers, last⟩
        have left : last = some cache := same steps answers last rfl (by decide) fed
        exact ⟨cache, answers, made, by rw [left]⟩
  exact ⟨ends _ (by decide +kernel), ends _ (by decide +kernel)⟩

end Layer

end CausalAttention
