import CausalAttention.Number.Machine
import CausalAttention.Proofs.Decoding.Run
import CausalAttention.Proofs.Decoding.Sizes
import CausalAttention.Proofs.Layer.Dispatch
import CausalAttention.Proofs.Layer.Evaluated
import CausalAttention.Session

/-!
The cached length in a stack of layers. All layers are fed chunks of the same sizes, each of its own
states and with its own masks. A global layer caches keys and values by head and a local one hidden
states, but in both the positions are read off the last axis but one of the first tensor. So after
every chunk any cache, and the caches of all layers together, tell the number of positions fed.
-/

set_option autoImplicit false

namespace CausalAttention

section Items

variable {β γ : Type} {image : β → Except Failure γ} {items : List β} {images : List γ}

theorem forall₂_of_mapM (made : items.mapM image = .ok images) :
    List.Forall₂ (fun item result => image item = .ok result) items images := by
  induction items generalizing images with
  | nil =>
      cases made
      exact List.Forall₂.nil
  | cons item items ih =>
      rw [List.mapM_cons] at made
      rcases exists_of_bind_ok made with ⟨first, firstMade, made⟩
      rcases exists_of_bind_ok made with ⟨later, laterMade, made⟩
      cases made
      exact List.Forall₂.cons firstMade (ih laterMade)

theorem exists_of_mem_mapM (made : items.mapM image = .ok images) {result : γ}
    (member : result ∈ images) : ∃ item ∈ items, image item = .ok result := by
  have all := forall₂_of_mapM made
  clear made
  induction all with
  | nil => contradiction
  | cons firstMade _ ih =>
      rcases List.mem_cons.mp member with rfl | later
      · exact ⟨_, List.mem_cons_self, firstMade⟩
      · rcases ih later with ⟨item, found, itemMade⟩
        exact ⟨item, List.mem_cons_of_mem _ found, itemMade⟩

theorem exists_mapM (each : ∀ item ∈ items, ∃ result, image item = .ok result) :
    ∃ images, items.mapM image = .ok images := by
  induction items with
  | nil => exact ⟨[], rfl⟩
  | cons item items ih =>
      rcases each item List.mem_cons_self with ⟨first, firstMade⟩
      rcases ih fun other member => each other (List.mem_cons_of_mem item member) with
        ⟨later, laterMade⟩
      refine ⟨first :: later, ?_⟩
      rw [List.mapM_cons, firstMade, laterMade]
      rfl

end Items

variable {α : Type} [Arithmetic α]

def Cached (past : Option (Cache α)) (count : Nat) : Prop :=
  ∃ first rest, past = some (first :: rest) ∧ first.positionCount = count

namespace Cached

variable {past : Option (Cache α)} {count : Nat}

omit [Arithmetic α] in
theorem cachedLength_eq (cached : Cached past count) :
    (Session.slotValue past).cachedLength = .ok count := by
  rcases cached with ⟨first, rest, rfl, rfl⟩
  exact Cache.cachedLength_toValue (first :: rest)

omit [Arithmetic α] in
theorem cachedLength_all (cached : Cached past count) (others : List (Value (TypedTensor α))) :
    (Value.list (Session.slotValue past :: others)).cachedLength = .ok count ∧
      (Value.tuple (Session.slotValue past :: others)).cachedLength = .ok count := by
  rcases cached with ⟨first, rest, rfl, rfl⟩
  exact ⟨rfl, rfl⟩

end Cached

namespace Layer

variable {layer : Layer α} {type : ElementType} {heads size batch sequence first : Nat}
  {hidden : TypedTensor α} {past : Option (Cache α)}

theorem Keeps.cached (keeps : layer.Keeps type heads size hidden batch first past)
    (sized : hidden.Sized type [batch, sequence, heads * size]) (nonempty : 1 ≤ first) :
    Cached past first := by
  have some : first ≠ 0 := by omega
  cases reach : layer.reach with
  | everything limit =>
      rw [keeps_everything reach] at keeps
      cases past with
      | none => exact absurd keeps some
      | some cache =>
          rcases keeps with ⟨key, value, rfl, keyHolds, _⟩
          exact ⟨key, [value], rfl, keyHolds.positionCount_eq⟩
  | window setting =>
      rw [keeps_window reach, pastStates, if_neg some] at keeps
      have partShape : (hidden.slice 1 0 first).tensor.shape = [batch, first, heads * size] :=
        (sized.slice 1 0 first).shape_eq
      refine ⟨hidden.slice 1 0 first, [], keeps, ?_⟩
      simp [TypedTensor.positionCount, TypedTensor.rank, Tensor.rank, Tensor.extent, partShape]

/-- A layer that stands at an index of an accepted configuration of whole sizes, with parameters of
its own. -/
inductive Chosen (layer : Layer α) (type : ElementType) (heads size : Nat) : Prop where
  | intro {arguments : ConfigArguments} {config : Config} {window limit : Int} {index : Setting}
      {training : Bool} {plain : Layer α} {parameters : Parameters α}
      (accepted : Config.ofArguments arguments = .ok config)
      (settled : config.Settled heads size window limit)
      (picked : atIndex config index type training = .ok plain)
      (assigned : plain.withParameters parameters = .ok layer)

theorem Chosen.regular (chosen : layer.Chosen type heads size) (floating : type.isFloating = true) :
    layer.Regular type heads size ∧
      ((∃ limit, layer.reach = .everything limit) ∨
        ∃ window : Nat, layer.reach = .window (.int window) ∧ 1 ≤ window) := by
  rcases chosen with @⟨_, config, window, limit, _, training, plain, parameters, accepted, settled,
    picked, assigned⟩
  have wide := settled.windowPositive
  rcases exists_of_bind_ok picked with ⟨kind, _, made⟩
  rw [ofConfig_of_settled accepted settled] at made
  cases made
  rcases (regular_ofWhole floating heads size _).of_withParameters assigned with
    ⟨regular, reached⟩
  refine ⟨regular, ?_⟩
  rw [reached]
  cases kind with
  | everything => exact Or.inl ⟨limit.toNat, rfl⟩
  | window =>
      obtain ⟨positions, rfl⟩ := Int.eq_ofNat_of_zero_le (by omega : 0 ≤ window)
      exact Or.inr ⟨positions, rfl, by omega⟩

end Layer

/-- A layer with the states of a whole sequence, with masks by the position at which a chunk starts,
and with the cache that the chunks so far left. -/
structure RunningLayer (α : Type) where
  layer : Layer α
  hidden : TypedTensor α
  attentionMask : Nat → Option (TypedTensor α) := fun _ => none
  headMask : Nat → Option (TypedTensor α) := fun _ => none
  past : Option (Cache α) := none

namespace RunningLayer

def step (running : RunningLayer α) (chunk : Nat × Nat) : Step α :=
  ⟨chunk.2, running.attentionMask chunk.1, running.headMask chunk.1⟩

def feed (running : RunningLayer α) (chunk : Nat × Nat) : Except Failure (RunningLayer α) := do
  let answer ← running.layer.run
    ((running.step chunk).input running.hidden running.past chunk.1)
  return { running with past := answer.present }

structure Fed (running : RunningLayer α) (type : ElementType) (heads size batch total first : Nat) :
    Prop where
  regular : running.layer.Regular type heads size
  hidden : running.hidden.Sized type [batch, total, heads * size]
  keeps : running.layer.Keeps type heads size running.hidden batch first running.past

variable {running next : RunningLayer α} {type : ElementType}
  {heads size batch total : Nat} {chunk : Nat × Nat}

theorem eq_of_feed (made : running.feed chunk = .ok next) :
    ∃ answer, running.layer.run
        ((running.step chunk).input running.hidden running.past chunk.1) = .ok answer ∧
      next = { running with past := answer.present } := by
  rcases exists_of_bind_ok made with ⟨answer, ran, made⟩
  cases made
  exact ⟨answer, ran, rfl⟩

theorem Fed.next_chunk (fed : running.Fed type heads size batch total chunk.1)
    (positive : 1 ≤ chunk.2) (within : chunk.1 + chunk.2 ≤ total)
    (made : running.feed chunk = .ok next) :
    next.Fed type heads size batch total (chunk.1 + chunk.2) := by
  obtain ⟨answer, ran, rfl⟩ := eq_of_feed made
  exact ⟨fed.regular, fed.hidden,
    fed.regular.keeps_next running.layer.attentionDropout running.layer.outputDropout fed.hidden
      positive within fed.keeps ran⟩

/-- A chunk that a layer takes: its masks fit, all positions are within the limit of a global layer,
and it is the first one or has a single position for a local layer. -/
structure Takes (running : RunningLayer α) (type : ElementType) (heads batch total : Nat)
    (chunk : Nat × Nat) : Prop where
  fits : Step.Fits (chunk.1, running.step chunk) type batch heads
  admits : running.layer.reach.Admits total
  single : ∀ window, running.layer.reach = .window window → chunk.1 = 0 ∨ chunk.2 = 1

theorem Fed.succeeds (fed : running.Fed type heads size batch total chunk.1)
    (takes : running.Takes type heads batch total chunk) (within : chunk.1 + chunk.2 ≤ total) :
    ∃ next, running.feed chunk = .ok next := by
  have admits := takes.admits
  have keeps := fed.keeps
  have answers : ∃ answer, running.layer.run
      ((running.step chunk).input running.hidden running.past chunk.1) = .ok answer := by
    cases reach : running.layer.reach with
    | everything limit =>
        rw [reach] at admits
        rw [Layer.keeps_everything reach] at keeps
        obtain ⟨answer, ran, _⟩ :=
          fed.regular.global_step reach fed.hidden within admits takes.fits keeps
        exact ⟨answer, ran⟩
    | window setting =>
        rw [reach] at admits
        rcases admits with ⟨window, rfl, wide⟩
        rw [Layer.keeps_window reach] at keeps
        obtain ⟨answer, ran, _⟩ :=
          fed.regular.local_step reach wide fed.hidden (takes.single _ reach) takes.fits keeps
        exact ⟨answer, ran⟩
  rcases answers with ⟨answer, ran⟩
  refine ⟨{ running with past := answer.present }, ?_⟩
  unfold feed
  rw [ran]
  rfl

/-! ### Feeding a stack -/

/-- Feeds chunk after chunk to all layers of a stack, and answers with the layers after every
chunk. -/
def trace (stack : List (RunningLayer α)) :
    List (Nat × Nat) → Except Failure (List (List (RunningLayer α)))
  | [] => .ok []
  | chunk :: chunks => do
      let fed ← stack.mapM fun running => running.feed chunk
      let later ← trace fed chunks
      return fed :: later

/-- The caches of a stack, one by one and all together, tell how many positions were fed. -/
structure CachedPositions (stack : List (RunningLayer α)) (count : Nat) : Prop where
  each : ∀ running ∈ stack, (Session.slotValue running.past).cachedLength = .ok count
  listed : (Value.list (stack.map fun running => Session.slotValue running.past)).cachedLength =
    .ok count
  tupled : (Value.tuple (stack.map fun running => Session.slotValue running.past)).cachedLength =
    .ok count

variable {stack : List (RunningLayer α)} {states : List (List (RunningLayer α))} {start : Nat}
  {sizes : List Nat}

omit [Arithmetic α] in
theorem CachedPositions.of_cached {count : Nat} (some : stack ≠ [])
    (cached : ∀ running ∈ stack, Cached running.past count) : CachedPositions stack count := by
  cases stack with
  | nil => contradiction
  | cons running others =>
      rcases (cached running List.mem_cons_self).cachedLength_all
        (others.map fun running => Session.slotValue running.past) with ⟨listed, tupled⟩
      exact ⟨fun running member => (cached running member).cachedLength_eq, listed, tupled⟩

theorem cachedPositions_of_trace (some : stack ≠ []) (positive : ∀ size ∈ sizes, 1 ≤ size)
    (within : start + sizes.sum ≤ total)
    (fed : ∀ running ∈ stack, ∃ type heads width batch,
      running.Fed type heads width batch total start)
    (made : trace stack (chunks start sizes) = .ok states) :
    List.Forall₂ (fun chunk state => CachedPositions state (chunk.1 + chunk.2))
      (chunks start sizes) states := by
  -- The induction is on the sizes; the layers that one chunk leaves take the next one.
  induction sizes generalizing start stack states with
  | nil =>
      cases made
      exact List.Forall₂.nil
  | cons size sizes ih =>
      rw [List.sum_cons, ← Nat.add_assoc] at within
      rcases exists_of_bind_ok made with ⟨after, afterMade, made⟩
      rcases exists_of_bind_ok made with ⟨later, laterMade, made⟩
      cases made
      have first : 1 ≤ size := positive size List.mem_cons_self
      have fedAfter : ∀ running ∈ after, ∃ type heads width batch,
          running.Fed type heads width batch total (start + size) := by
        intro running member
        rcases exists_of_mem_mapM afterMade member with ⟨before, found, runningMade⟩
        rcases fed before found with ⟨type, heads, width, batch, beforeFed⟩
        exact ⟨type, heads, width, batch, beforeFed.next_chunk first (by omega) runningMade⟩
      have someAfter : after ≠ [] := by
        rw [← List.length_pos_iff, ← (forall₂_of_mapM afterMade).length_eq, List.length_pos_iff]
        exact some
      refine List.Forall₂.cons (CachedPositions.of_cached someAfter ?_) ?_
      · intro running member
        rcases fedAfter running member with ⟨type, heads, width, batch, runningFed⟩
        exact runningFed.keeps.cached runningFed.hidden (by omega)
      · exact ih someAfter (fun later member => positive later (List.mem_cons_of_mem size member))
          within fedAfter laterMade

/-- A stack whose layers take all chunks is fed all of them. -/
theorem exists_trace (within : start + sizes.sum ≤ total)
    (ready : ∀ running ∈ stack, ∃ type heads width batch,
      running.Fed type heads width batch total start ∧
      ∀ chunk ∈ chunks start sizes, running.Takes type heads batch total chunk) :
    ∃ states, trace stack (chunks start sizes) = .ok states := by
  induction sizes generalizing start stack with
  | nil => exact ⟨[], rfl⟩
  | cons size sizes ih =>
      rw [List.sum_cons, ← Nat.add_assoc] at within
      have each : ∀ running ∈ stack, ∃ fed, running.feed (start, size) = .ok fed := by
        intro running member
        rcases ready running member with ⟨type, heads, width, batch, fed, takes⟩
        exact fed.succeeds (takes _ List.mem_cons_self) (by omega)
      rcases exists_mapM each with ⟨after, afterMade⟩
      have laterReady : ∃ later, trace after (chunks (start + size) sizes) = .ok later := by
        apply ih within
        intro running member
        rcases exists_of_mem_mapM afterMade member with ⟨before, found, runningMade⟩
        rcases ready before found with ⟨type, heads, width, batch, fed, takes⟩
        have first := takes (start, size) List.mem_cons_self
        have fedNext := fed.next_chunk first.fits.positive (by omega) runningMade
        obtain ⟨answer, _, rfl⟩ := eq_of_feed runningMade
        refine ⟨type, heads, width, batch, fedNext, ?_⟩
        intro chunk later
        rcases takes chunk (List.mem_cons_of_mem _ later) with ⟨fits, admits, single⟩
        exact ⟨fits, admits, single⟩
      rcases laterReady with ⟨later, laterMade⟩
      refine ⟨after :: later, ?_⟩
      change (stack.mapM fun running : RunningLayer α => running.feed (start, size)).bind _ = _
      rw [afterMade]
      change (trace after (chunks (start + size) sizes)).bind _ = _
      rw [laterMade]
      rfl

/-- A layer of an accepted configuration before the first chunk of its sequence. -/
structure Ready (running : RunningLayer α) (type : ElementType) (heads size batch total : Nat) :
    Prop where
  floating : type.isFloating = true
  chosen : running.layer.Chosen type heads size
  hidden : running.hidden.Sized type [batch, total, heads * size]
  fresh : running.past = none

theorem Ready.fed (ready : running.Ready type heads size batch total) :
    running.Fed type heads size batch total 0 := by
  refine ⟨(ready.chosen.regular ready.floating).1, ready.hidden, ?_⟩
  rw [ready.fresh]
  exact Layer.keeps_nothing

theorem Ready.takes (ready : running.Ready type heads size batch total)
    (fits : Step.Fits (chunk.1, running.step chunk) type batch heads)
    (admitted : ∀ limit, running.layer.reach = .everything limit → total ≤ limit)
    (single : ∀ window, running.layer.reach = .window window → chunk.1 = 0 ∨ chunk.2 = 1) :
    running.Takes type heads batch total chunk := by
  refine ⟨fits, ?_, single⟩
  rcases (ready.chosen.regular ready.floating).2 with ⟨limit, reach⟩ | ⟨window, reach, wide⟩
  · have within := admitted limit reach
    rw [reach]
    exact within
  · rw [reach]
    exact ⟨window, rfl, wide⟩

/-- In a stack of layers of accepted configurations, global and local ones in any order, any cache
and the caches of all layers together tell after every chunk how many positions were fed so far. A
stack is fed all chunks when the masks fit, the positions are within the limits of its global layers
and, with a local layer in it, all chunks after the first have one position. -/
theorem cachedLength_after_chunks (some : stack ≠ []) (positive : ∀ size ∈ sizes, 1 ≤ size)
    (ready : ∀ running ∈ stack, ∃ type heads size batch,
      running.Ready type heads size batch sizes.sum) :
    (∀ states, trace stack (chunks 0 sizes) = .ok states →
      List.Forall₂ (fun chunk state => CachedPositions state (chunk.1 + chunk.2)) (chunks 0 sizes)
        states) ∧
    ((∀ running ∈ stack, ∃ type heads size batch,
        running.Ready type heads size batch sizes.sum ∧
        ∀ chunk ∈ chunks 0 sizes, Step.Fits (chunk.1, running.step chunk) type batch heads) →
      (∀ running ∈ stack, ∀ limit, running.layer.reach = .everything limit → sizes.sum ≤ limit) →
      (∀ running ∈ stack, ∀ window, running.layer.reach = .window window →
        ∀ size ∈ sizes.tail, size = 1) →
      ∃ states, trace stack (chunks 0 sizes) = .ok states) := by
  have within : 0 + sizes.sum ≤ sizes.sum := by omega
  constructor
  · intro states made
    apply cachedPositions_of_trace some positive within _ made
    intro running member
    rcases ready running member with ⟨type, heads, size, batch, runningReady⟩
    exact ⟨type, heads, size, batch, runningReady.fed⟩
  · intro fitting admitted singles
    apply exists_trace within
    intro running member
    rcases fitting running member with ⟨type, heads, size, batch, runningReady, fits⟩
    refine ⟨type, heads, size, batch, runningReady.fed, ?_⟩
    intro chunk later
    exact runningReady.takes (fits chunk later) (admitted running member)
      fun window reach => first_or_single (singles running member window reach) later

/-- A local layer on top of a global one, with a mask for the first two of three positions of the
local one, in machine arithmetic. -/
theorem cachedLength_after_chunks_three_positions :
    let arguments : ConfigArguments :=
      { hiddenSize := .int 2, heads := .int 1, layerCount := .int 2, windowSize := .int 2,
        maxPositions := .int 3, attentionDropout := .int 0, outputDropout := .int 0 }
    let parameters : Parameters MachineNumber := Parameters.constant .float32 2 default
    let hidden : TypedTensor MachineNumber := ⟨.float32, Tensor.replicate [1, 3, 2] default⟩
    let mask : TypedTensor MachineNumber := ⟨.int64, Tensor.replicate [1, 2] default⟩
    let masks (start : Nat) : Option (TypedTensor MachineNumber) :=
      if start = 0 then some mask else none
    let stack (windowed everything : Layer MachineNumber) : List (RunningLayer MachineNumber) :=
      [{ layer := windowed, hidden, attentionMask := masks }, { layer := everything, hidden }]
    ∃ config plainLocal plainGlobal windowed everything states,
      Config.ofArguments arguments = .ok config ∧
      Layer.atIndex config (.int 1) .float32 true = .ok plainLocal ∧
      plainLocal.withParameters parameters = .ok windowed ∧
      Layer.atIndex config (.int 0) .float32 true = .ok plainGlobal ∧
      plainGlobal.withParameters parameters = .ok everything ∧
      trace (stack windowed everything) [(0, 2), (2, 1)] = .ok states ∧
      List.Forall₂ (fun chunk state => CachedPositions state (chunk.1 + chunk.2)) [(0, 2), (2, 1)]
        states := by
  intro arguments parameters hidden mask masks stack
  obtain ⟨config, accepted⟩ : ∃ config, Config.ofArguments arguments = .ok config := ⟨_, rfl⟩
  have whole : arguments.Whole 2 1 2 3 := ⟨rfl, rfl, rfl, rfl, rfl⟩
  obtain ⟨heads, size, headsEq, product, settled⟩ :=
    Config.settled_of_accepted accepted whole (by decide)
  obtain rfl : heads = 1 := by omega
  obtain rfl : size = 2 := by omega
  have shaped : parameters.Shaped (1 * 2) := Parameters.constant_shaped .float32 2 default
  have floating : ElementType.float32.isFloating = true := rfl
  have second : LayerKind.ofConfig config (.int 1) = .ok .window := by
    cases accepted
    rfl
  have first : LayerKind.ofConfig config (.int 0) = .ok .everything := by
    cases accepted
    rfl
  obtain ⟨plainLocal, windowed, localPicked, localAssigned, localReach⟩ :=
    Layer.exists_assigned accepted settled second floating true shaped
  obtain ⟨plainGlobal, everything, globalPicked, globalAssigned, globalReach⟩ :=
    Layer.exists_assigned accepted settled first floating true shaped
  have sized : hidden.Sized .float32 [1, 3, 1 * 2] := ⟨rfl, rfl⟩
  have localReady : Ready { layer := windowed, hidden, attentionMask := masks } .float32 1 2 1 3 :=
    ⟨rfl, .intro accepted settled localPicked localAssigned, sized, rfl⟩
  have globalReady : Ready { layer := everything, hidden } .float32 1 2 1 3 :=
    ⟨rfl, .intro accepted settled globalPicked globalAssigned, sized, rfl⟩
  have localFits : ∀ chunk ∈ chunks 0 [2, 1], Step.Fits (chunk.1, RunningLayer.step
      { layer := windowed, hidden, attentionMask := masks } chunk) .float32 1 1 :=
    List.forall_mem_cons.mpr ⟨⟨Nat.le_succ 1, forall_mem_some rfl, forall_mem_none⟩,
      List.forall_mem_singleton.mpr ⟨Nat.le_refl 1, forall_mem_none, forall_mem_none⟩⟩
  have globalFits : ∀ chunk ∈ chunks 0 [2, 1], Step.Fits (chunk.1, RunningLayer.step
      { layer := everything, hidden } chunk) .float32 1 1 :=
    List.forall_mem_cons.mpr ⟨⟨Nat.le_succ 1, forall_mem_none, forall_mem_none⟩,
      List.forall_mem_singleton.mpr ⟨Nat.le_refl 1, forall_mem_none, forall_mem_none⟩⟩
  have some : stack windowed everything ≠ [] := List.cons_ne_nil _ _
  have positive : ∀ size ∈ [2, 1], 1 ≤ size := by decide
  obtain ⟨counted, succeeds⟩ := cachedLength_after_chunks some positive
    (List.forall_mem_cons.mpr ⟨⟨_, _, _, _, localReady⟩,
      List.forall_mem_singleton.mpr ⟨_, _, _, _, globalReady⟩⟩)
  obtain ⟨states, made⟩ : ∃ states, trace (stack windowed everything) (chunks 0 [2, 1]) =
      .ok states := by
    apply succeeds
    · exact List.forall_mem_cons.mpr ⟨⟨_, _, _, _, localReady, localFits⟩,
        List.forall_mem_singleton.mpr ⟨_, _, _, _, globalReady, globalFits⟩⟩
    · refine List.forall_mem_cons.mpr ⟨?_, List.forall_mem_singleton.mpr ?_⟩
      · intro limit reach
        cases localReach.symm.trans reach
      · intro limit reach
        cases globalReach.symm.trans reach
        decide
    · intro _ _ _ _
      decide
  exact ⟨config, plainLocal, plainGlobal, windowed, everything, states, accepted, localPicked,
    localAssigned, globalPicked, globalAssigned, made, counted states made⟩

end RunningLayer

end CausalAttention
