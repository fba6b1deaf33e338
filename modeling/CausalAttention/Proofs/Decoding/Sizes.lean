import CausalAttention.Number.Machine
import CausalAttention.Proofs.Decoding.Contents

/-!
Layers of accepted configurations in every run. No step of a run fails, and all tensors that the
steps answer with have the sizes that follow from the number of positions fed so far.
-/

set_option autoImplicit false

namespace CausalAttention

variable {α : Type} [Arithmetic α]

/-- A step of at least one position, with masks that go with the positions fed so far. -/
structure Step.Fits (place : Nat × Step α) (type : ElementType) (batch heads : Nat) : Prop where
  positive : 1 ≤ place.2.size
  attentionMask : ∀ mask ∈ place.2.attentionMask, mask.shape = [batch, place.1 + place.2.size]
  headMask : ∀ factors ∈ place.2.headMask, factors.Sized type [1, heads, 1, 1]

namespace Step.Fits

variable {place : Nat × Step α} {type : ElementType} {batch heads : Nat}

omit [Arithmetic α] in
theorem perHead (fits : Step.Fits place type batch heads) :
    ∀ factors ∈ place.2.headMask, Layer.PerHead factors heads :=
  fun factors given => Or.inr (fits.headMask factors given).shape_eq

omit [Arithmetic α] in
theorem narrow (fits : Step.Fits place type batch heads) :
    ∀ factors ∈ place.2.headMask, type.join factors.elementType = type := by
  intro factors given
  rw [(fits.headMask factors given).type_eq]
  exact ElementType.join_self type

end Step.Fits

structure GlobalSizes (type : ElementType) (batch heads size : Nat) (place : Nat × Step α)
    (answer : LayerOutput α) : Prop where
  output : answer.output.Sized type [batch, place.2.size, heads * size]
  present : ∃ key value, answer.present = some [key, value] ∧
    key.Sized type [batch, heads, place.1 + place.2.size, size] ∧
    value.Sized type [batch, heads, place.1 + place.2.size, size]
  weights : answer.weights.Sized type [batch, heads, place.2.size, place.1 + place.2.size]

/-- The sizes of what a local layer answers a step with. The weights are those of all blocks when
nothing is cached, and those of one query otherwise. -/
structure LocalSizes (type : ElementType) (batch heads size window : Nat) (place : Nat × Step α)
    (answer : LayerOutput α) : Prop where
  output : answer.output.Sized type [batch, place.2.size, heads * size]
  present : ∃ states, answer.present = some [states] ∧
    states.Sized type [batch, place.1 + place.2.size, heads * size]
  weights : ∃ blocks, Blocks.ofSequence (place.1 + place.2.size) window = .ok blocks ∧
    answer.weights.Sized type
      (if place.1 = 0 then [batch, blocks.count, heads, blocks.length, window + blocks.length]
      else [batch, 1, heads, 1, window + blocks.length])

namespace Layer

variable {layer : Layer α} {type : ElementType} {heads size batch sequence window limit : Nat}
  {hidden : TypedTensor α} {place : Nat × Step α} {past : Option (Cache α)}

theorem Regular.global_step (regular : layer.Regular type heads size)
    (reach : layer.reach = .everything limit)
    (sized : hidden.Sized type [batch, sequence, heads * size])
    (within : place.1 + place.2.size ≤ sequence) (admitted : sequence ≤ limit)
    (fits : Step.Fits place type batch heads)
    (remembers : layer.Remembers type heads size hidden batch place.1 past) :
    ∃ answer, layer.run (place.2.input hidden past place.1) = .ok answer ∧
      GlobalSizes type batch heads size place answer ∧
      layer.Remembers type heads size hidden batch (place.1 + place.2.size) answer.present := by
  have run : layer.GlobalRun type heads size hidden batch sequence place.1 place.2.size
      (place.2.input hidden past place.1) :=
    ⟨sized, within, rfl, remembers, (fun mask given => Or.inl (fits.attentionMask mask given)),
      fits.perHead⟩
  obtain ⟨answer, ran, answered⟩ :=
    run.answers regular (Nat.le_trans within admitted) fits.narrow
  have remembersNext := answered.remembers rfl
  refine ⟨answer, ?_, ⟨answered.outputSized, ?_, answered.weightsSized⟩, remembersNext⟩
  · simp only [Layer.run, reach]
    exact ran
  · rcases Option.isSome_iff_exists.mp answered.presentSome with ⟨cache, given⟩
    rw [given] at remembersNext
    rcases remembersNext with ⟨key, value, rfl, keyHolds, valueHolds⟩
    exact ⟨key, value, given, keyHolds.sized, valueHolds.sized⟩

/-- A first step, and every later step of one position, is a run on the positions fed so far. -/
theorem localRun_step {blocks : Blocks} (sized : hidden.Sized type [batch, sequence, heads * size])
    (cut : blocks.Cut (place.1 + place.2.size) window)
    (single : place.1 = 0 ∨ place.2.size = 1) (fits : Step.Fits place type batch heads)
    (keeps : past = pastStates hidden place.1) :
    LocalRun type heads size (hidden.slice 1 0 (place.1 + place.2.size)) batch
      (place.1 + place.2.size) blocks window (place.2.input hidden past place.1) := by
  rcases place with ⟨start, step⟩
  refine ⟨sized.slice 1 0 (start + step.size), cut, ?_,
    (fun mask given => Or.inl (fits.attentionMask mask given)), fits.perHead⟩
  by_cases first : start = 0
  · subst first
    left
    refine ⟨keeps, ?_⟩
    change hidden.slice 1 0 step.size = hidden.slice 1 0 (0 + step.size)
    rw [Nat.zero_add]
  · right
    have one : step.size = 1 := single.resolve_left first
    have rankEq : hidden.rank = 3 := congrArg List.length sized.shape_eq
    have within : 1 < hidden.rank := by omega
    simp only [one, Nat.add_sub_cancel]
    rw [TypedTensor.slice_slice within (by omega : 0 + start ≤ start + 1),
      TypedTensor.slice_slice within (Nat.le_refl (start + 1)), Nat.zero_add, Nat.zero_add]
    refine ⟨?_, ?_⟩
    · change past = _
      rw [keeps]
      exact if_neg first
    · change hidden.slice 1 start step.size = _
      rw [one]

theorem queryCut_pastStates (blocks : Blocks) (hidden : TypedTensor α) (start : Nat) :
    queryCut blocks (pastStates hidden start) =
      if start = 0 then blocks.allQueries else blocks.lastQuery := by
  unfold queryCut pastStates
  by_cases first : start = 0
  · rw [if_pos first, if_pos first]
    rfl
  · rw [if_neg first, if_neg first]
    rfl

theorem Regular.local_step (regular : layer.Regular type heads size)
    (reach : layer.reach = .window (.int window)) (wide : 1 ≤ window)
    (sized : hidden.Sized type [batch, sequence, heads * size])
    (single : place.1 = 0 ∨ place.2.size = 1) (fits : Step.Fits place type batch heads)
    (keeps : past = pastStates hidden place.1) :
    ∃ answer, layer.run (place.2.input hidden past place.1) = .ok answer ∧
      LocalSizes type batch heads size window place answer ∧
      answer.present = pastStates hidden (place.1 + place.2.size) := by
  have positive := fits.positive
  have nonempty : 0 < place.1 + place.2.size := by omega
  have some : place.1 + place.2.size ≠ 0 := by omega
  rcases Blocks.exists_cut nonempty wide with ⟨blocks, cut⟩
  have run := localRun_step sized cut single fits keeps
  obtain ⟨answer, ran, answered, present⟩ := run.run_answers regular reach fits.narrow
  have left : answer.present = Option.some [hidden.slice 1 0 (place.1 + place.2.size)] := present
  have outputSized := answered.outputSized
  have weightsSized := answered.weightsSized
  have cutEq : queryCut blocks (place.2.input hidden past place.1).past =
      if place.1 = 0 then blocks.allQueries else blocks.lastQuery := by
    rw [← queryCut_pastStates blocks hidden, ← keeps]
    rfl
  rw [cutEq] at outputSized weightsSized
  refine ⟨answer, ran, ⟨?_, ⟨_, left, sized.slice 1 0 _⟩, blocks, cut.found, ?_⟩, ?_⟩
  · by_cases first : place.1 = 0
    · rw [if_pos first] at outputSized
      have whole := cut.whole
      rw [first, Nat.zero_add] at whole
      rw [← whole]
      exact outputSized
    · rw [if_neg first] at outputSized
      rw [single.resolve_left first]
      exact outputSized
  · by_cases first : place.1 = 0
    · rw [if_pos first] at weightsSized ⊢
      exact weightsSized
    · rw [if_neg first] at weightsSized ⊢
      exact weightsSized
  · rw [left]
    exact (if_neg some).symm

variable {steps : List (Step α)}

theorem Regular.feed_global (regular : layer.Regular type heads size)
    (reach : layer.reach = .everything limit)
    (sized : hidden.Sized type [batch, Step.total steps, heads * size])
    (admitted : Step.total steps ≤ limit)
    (fits : ∀ place ∈ Step.placed 0 steps, Step.Fits place type batch heads) :
    ∃ answers last, layer.feed hidden none 0 steps = .ok (answers, last) ∧
      List.Forall₂ (GlobalSizes type batch heads size) (Step.placed 0 steps) answers := by
  refine feed_succeeds ?_ (keeps_nothing : layer.Keeps type heads size hidden batch 0 none)
  intro place member past keeps
  have within := (Step.placed_within member).2
  rw [Nat.zero_add] at within
  simp only [keeps_everything reach] at keeps ⊢
  exact regular.global_step reach sized within admitted (fits place member) keeps

theorem Regular.feed_local (regular : layer.Regular type heads size)
    (reach : layer.reach = .window (.int window)) (wide : 1 ≤ window)
    (sized : hidden.Sized type [batch, Step.total steps, heads * size])
    (fits : ∀ place ∈ Step.placed 0 steps, Step.Fits place type batch heads)
    (single : ∀ place ∈ Step.placed 0 steps, place.1 = 0 ∨ place.2.size = 1) :
    ∃ answers last, layer.feed hidden none 0 steps = .ok (answers, last) ∧
      List.Forall₂ (LocalSizes type batch heads size window) (Step.placed 0 steps) answers := by
  refine feed_succeeds ?_ (keeps_nothing : layer.Keeps type heads size hidden batch 0 none)
  intro place member past keeps
  simp only [keeps_window reach] at keeps ⊢
  exact regular.local_step reach wide sized (single place member) (fits place member) keeps

/-- Every layer of an accepted configuration is built, takes over parameters of its width, and
answers every step of every run: a global layer while the positions are within the limit, a local
one in a first step of any size and single positions after it. -/
theorem accepted_layers_answer {arguments : ConfigArguments} {config : Config}
    {width heads window limit layers index : Int}
    (whole : arguments.Whole width heads window limit)
    (counted : arguments.layerCount = .int layers) (positive : 1 ≤ width)
    (accepted : Config.ofArguments arguments = .ok config) (atLeast : -layers ≤ index)
    (below : index < layers) {parameters : Parameters α}
    (shaped : parameters.Shaped width.toNat) :
    ∃ (count size : Nat) (kind : LayerKind) (layer : Layer α), heads = count ∧
      width = (count * size : Nat) ∧ LayerKind.ofConfig config (.int index) = .ok kind ∧
      evaluating kind config .float32 parameters = .ok layer ∧
      ∀ (batch : Nat) (hidden : TypedTensor α) (steps : List (Step α)),
        hidden.Sized .float32 [batch, Step.total steps, width.toNat] →
        (∀ place ∈ Step.placed 0 steps, Step.Fits place .float32 batch count) →
        match kind with
        | .everything => Step.total steps ≤ limit →
            ∃ answers last, layer.feed hidden none 0 steps = .ok (answers, last) ∧
              List.Forall₂ (GlobalSizes .float32 batch count size) (Step.placed 0 steps) answers
        | .window => (∀ place ∈ Step.placed 0 steps, place.1 = 0 ∨ place.2.size = 1) →
            ∃ answers last, layer.feed hidden none 0 steps = .ok (answers, last) ∧
              List.Forall₂ (LocalSizes .float32 batch count size window.toNat)
                (Step.placed 0 steps) answers := by
  obtain ⟨count, size, headsEq, product, settled⟩ :=
    Config.settled_of_accepted accepted whole (by omega)
  rcases LayerKind.ofConfig_of_accepted accepted counted atLeast below with ⟨kind, chosen⟩
  have widthEq : width.toNat = count * size := by omega
  have windowPositive := settled.windowPositive
  have windowEq : window = (window.toNat : Int) := by omega
  have floating : ElementType.float32.isFloating = true := rfl
  rw [widthEq] at shaped ⊢
  obtain ⟨layer, regular, _, everythingMade, windowedMade⟩ :=
    evaluating_of_settled settled floating shaped
  cases kind with
  | everything =>
      refine ⟨count, size, .everything, _, headsEq, product, chosen, everythingMade, ?_⟩
      intro batch hidden steps sized fits admitted
      exact (regular.withReach (.everything limit.toNat)).feed_global rfl sized (by omega) fits
  | window =>
      refine ⟨count, size, .window, _, headsEq, product, chosen, windowedMade, ?_⟩
      intro batch hidden steps sized fits single
      have wide : 1 ≤ window.toNat := by omega
      have reach : ({ layer with reach := .window (.int window) } : Layer α).reach =
          .window (.int (window.toNat : Int)) := by rw [← windowEq]
      exact (regular.withReach (.window (.int window))).feed_local reach wide sized fits single

/-- Three positions in steps of two and one through the first two layers, in machine arithmetic. -/
theorem accepted_layers_answer_three_positions :
    let arguments : ConfigArguments :=
      { hiddenSize := .int 2, heads := .int 1, layerCount := .int 2, windowSize := .int 2,
        maxPositions := .int 3, attentionDropout := .int 0, outputDropout := .int 0 }
    let parameters : Parameters MachineNumber := Parameters.constant .float32 2 default
    let hidden : TypedTensor MachineNumber := ⟨.float32, Tensor.replicate [1, 3, 2] default⟩
    let mask : TypedTensor MachineNumber := ⟨.int64, Tensor.replicate [1, 2] default⟩
    let steps : List (Step MachineNumber) := [⟨2, some mask, none⟩, ⟨1, none, none⟩]
    ∃ config, Config.ofArguments arguments = .ok config ∧
      (∃ layer answers last, evaluating .everything config .float32 parameters = .ok layer ∧
        layer.feed hidden none 0 steps = .ok (answers, last) ∧
        List.Forall₂ (GlobalSizes .float32 1 1 2) [(0, ⟨2, some mask, none⟩), (2, ⟨1, none, none⟩)]
          answers) ∧
      ∃ layer answers last, evaluating .window config .float32 parameters = .ok layer ∧
        layer.feed hidden none 0 steps = .ok (answers, last) ∧
        List.Forall₂ (LocalSizes .float32 1 1 2 2) [(0, ⟨2, some mask, none⟩), (2, ⟨1, none, none⟩)]
          answers := by
  intro arguments parameters hidden mask steps
  obtain ⟨config, accepted⟩ : ∃ config, Config.ofArguments arguments = .ok config := ⟨_, rfl⟩
  have whole : arguments.Whole 2 1 2 3 := ⟨rfl, rfl, rfl, rfl, rfl⟩
  have counted : arguments.layerCount = .int 2 := rfl
  have shaped : parameters.Shaped (2 : Int).toNat := Parameters.constant_shaped .float32 2 default
  have sized : hidden.Sized .float32 [1, Step.total steps, (2 : Int).toNat] := ⟨rfl, rfl⟩
  have fits : ∀ place ∈ Step.placed 0 steps, Step.Fits place .float32 1 1 := by
    refine List.forall_mem_cons.mpr ⟨?_, List.forall_mem_singleton.mpr ?_⟩
    · exact ⟨by decide, forall_mem_some rfl, forall_mem_none⟩
    · exact ⟨by decide, forall_mem_none, forall_mem_none⟩
  have single : ∀ place ∈ Step.placed 0 steps, place.1 = 0 ∨ place.2.size = 1 :=
    List.forall_mem_cons.mpr ⟨Or.inl rfl, List.forall_mem_singleton.mpr (Or.inr rfl)⟩
  refine ⟨config, accepted, ?_, ?_⟩
  · obtain ⟨count, size, kind, layer, headsEq, product, chosen, made, answers⟩ :=
      accepted_layers_answer whole counted (by decide) accepted
        (by decide : -2 ≤ (0 : Int)) (by decide) shaped
    obtain rfl : count = 1 := by omega
    obtain rfl : size = 2 := by omega
    have first : LayerKind.ofConfig config (.int 0) = .ok .everything := by
      cases accepted
      rfl
    cases chosen.symm.trans first
    obtain ⟨given, last, fed, good⟩ := answers 1 hidden steps sized fits (by decide)
    exact ⟨layer, given, last, made, fed, good⟩
  · obtain ⟨count, size, kind, layer, headsEq, product, chosen, made, answers⟩ :=
      accepted_layers_answer whole counted (by decide) accepted
        (by decide : -2 ≤ (-1 : Int)) (by decide) shaped
    obtain rfl : count = 1 := by omega
    obtain rfl : size = 2 := by omega
    have second : LayerKind.ofConfig config (.int (-1)) = .ok .window := by
      cases accepted
      rfl
    cases chosen.symm.trans second
    obtain ⟨given, last, fed, good⟩ := answers 1 hidden steps sized fits single
    exact ⟨layer, given, last, made, fed, good⟩

end Layer

end CausalAttention
