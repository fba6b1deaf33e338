import CausalAttention.Number.Machine
import CausalAttention.Proofs.Config.Layout
import CausalAttention.Proofs.Config.Reload
import CausalAttention.Proofs.Layer.Construction
import CausalAttention.Session

/-!
Which layer stands at an index. A configuration picks the kind of a layer from the expanded layout,
so the pattern of the run that covers the index decides, at the remainder of the index in that run.
An index from the back picks the same layer, and an index beyond both ends picks none.
-/

set_option autoImplicit false

namespace CausalAttention

namespace Setting

variable {β : Type} {items : List β} {item : β} {position : Nat}

theorem itemAt_of_getElem? (found : items[position]? = some item) :
    itemAt items position = .ok item := by
  have fromFront : ¬(position : Int) < 0 := by omega
  unfold itemAt
  simp only [if_neg fromFront, Int.toNat_natCast, found]

theorem itemAt_from_back (found : items[position]? = some item) :
    itemAt items (position - items.length) = .ok item := by
  obtain ⟨below, _⟩ := List.getElem?_eq_some_iff.mp found
  have fromBack : (position : Int) - items.length < 0 := by omega
  have counted : (position : Int) - items.length + items.length = position := by omega
  have inside : ¬(position : Int) < 0 := by omega
  unfold itemAt
  simp only [if_pos fromBack, counted, if_neg inside, Int.toNat_natCast, found]

theorem itemAt_outside {index : Int} (outside : index < -items.length ∨ items.length ≤ index) :
    itemAt items index = .error .indexOutOfRange := by
  unfold itemAt
  by_cases fromBack : index < 0
  · have before : index + items.length < 0 := by omega
    simp only [if_pos fromBack, if_pos before]
  · have behind : items.length ≤ index.toNat := by omega
    simp only [if_neg fromBack, List.getElem?_eq_none behind]

end Setting

namespace LayerKind

def name : LayerKind → Setting
  | .everything => .text "global"
  | .window => .text "local"

def reach (kind : LayerKind) (window limit : Int) : Reach :=
  match kind with
  | .everything => .everything limit.toNat
  | .window => .window (.int window)

theorem exists_name {named : Setting} (known : named = .text "global" ∨ named = .text "local") :
    ∃ kind : LayerKind, named = kind.name := by
  cases known with
  | inl same => exact ⟨.everything, same⟩
  | inr same => exact ⟨.window, same⟩

variable {config : Config} {kinds : List Setting} {index : Int}

theorem ofConfig_of_name {kind : LayerKind} (listed : config.layers = .list kinds)
    (found : Setting.itemAt kinds index = .ok kind.name) :
    ofConfig config (.int index) = .ok kind := by
  have part : Setting.partAt config.layers (.int index) = .ok kind.name := by
    rw [listed]
    exact found
  unfold ofConfig
  rw [part]
  cases kind with
  | everything => rfl
  | window => rfl

theorem ofConfig_outside (listed : config.layers = .list kinds)
    (outside : index < -kinds.length ∨ kinds.length ≤ index) :
    ofConfig config (.int index) = .error .indexOutOfRange := by
  have part : Setting.partAt config.layers (.int index) = .error .indexOutOfRange := by
    rw [listed]
    exact Setting.itemAt_outside outside
  unfold ofConfig
  rw [part]
  rfl

end LayerKind

/-- In training a layer of an accepted configuration differs from one outside of training in what
is drawn for its dropouts. -/
theorem LayerPlan.ofConfig_of_accepted {α : Type} {arguments : ConfigArguments} {config : Config}
    (accepted : Config.ofArguments arguments = .ok config) (training : Bool)
    (attentionDraw outputDraw : Dropout α) :
    ∃ attentionDropout outputDropout,
      (attentionDropout = .keepAll ∨ attentionDropout = attentionDraw) ∧
      (outputDropout = .keepAll ∨ outputDropout = outputDraw) ∧
      ofConfig config training attentionDraw outputDraw =
        (ofConfig config false).map fun plan : LayerPlan α =>
          { plan with attentionDropout, outputDropout } := by
  obtain ⟨layout, kinds, passes, rfl⟩ := Config.passes_of_accepted accepted
  have effect {name : String} {rate : Setting}
      (accepted : ConfigArguments.requireRate name rate = .ok ()) (draw : Dropout α) :
      ∃ dropout, (dropout = .keepAll ∨ dropout = draw) ∧
        Dropout.ofSetting rate training draw = .ok dropout := by
    rcases Dropout.ofSetting_of_rate accepted training draw with kept | ⟨_, drawn⟩
    · exact ⟨.keepAll, Or.inl rfl, kept⟩
    · exact ⟨draw, Or.inr rfl, drawn⟩
  obtain ⟨attentionDropout, attention, attentionMade⟩ := effect passes.attentionRate attentionDraw
  obtain ⟨outputDropout, output, outputMade⟩ := effect passes.outputRate outputDraw
  refine ⟨attentionDropout, outputDropout, attention, output, ?_⟩
  unfold ofConfig
  simp only [ConfigArguments.stored, attentionMade, outputMade,
    Dropout.ofSetting_evaluating passes.attentionRate,
    Dropout.ofSetting_evaluating passes.outputRate]
  cases Config.headDivision _ with
  | error failure => rfl
  | ok division =>
      cases Setting.size _ with
      | error failure => rfl
      | ok width => rfl

namespace Layer

variable {α : Type} [Arithmetic α]

/-- The layer that stands at an index of a configuration. -/
def atIndex (config : Config) (index : Setting) (type : ElementType) (training : Bool) :
    Except Failure (Layer α) := do
  let kind ← LayerKind.ofConfig config index
  ofConfig kind config type training

/-- A layer in training is that outside of training with dropouts of its own. -/
theorem ofConfig_drawn {arguments : ConfigArguments} {config : Config}
    (accepted : Config.ofArguments arguments = .ok config) (kind : LayerKind) (type : ElementType)
    (training : Bool) (attentionDraw outputDraw : Dropout α) :
    ∃ attentionDropout outputDropout,
      ofConfig kind config type training attentionDraw outputDraw =
        (ofConfig kind config type false).map fun layer : Layer α =>
          { layer with attentionDropout, outputDropout } := by
  obtain ⟨attentionDropout, outputDropout, _, _, planned⟩ :=
    LayerPlan.ofConfig_of_accepted accepted training attentionDraw outputDraw
  refine ⟨attentionDropout, outputDropout, ?_⟩
  unfold ofConfig
  rw [planned]
  cases LayerPlan.ofConfig config false with
  | error failure => rfl
  | ok plan =>
      cases Reach.ofConfig kind config with
      | error failure => rfl
      | ok reach => rfl

/-- An accepted configuration of whole sizes makes layers of both kinds, in training too. -/
theorem ofConfig_of_settled {arguments : ConfigArguments} {config : Config} {heads size : Nat}
    {window limit : Int} (accepted : Config.ofArguments arguments = .ok config)
    (settled : config.Settled heads size window limit) (kind : LayerKind) (type : ElementType)
    (training : Bool) :
    ofConfig kind config type training =
      .ok (ofPlan ⟨heads * size, .whole heads size, .keepAll, .keepAll⟩ (kind.reach window limit)
        type : Layer α) := by
  obtain ⟨_, _, attention, output, planned⟩ :=
    LayerPlan.ofConfig_of_accepted (α := α) accepted training .keepAll .keepAll
  obtain rfl := attention.elim id id
  obtain rfl := output.elim id id
  rw [plan_of_settled settled] at planned
  have reached : Reach.ofConfig kind config = .ok (kind.reach window limit) := by
    cases kind with
    | everything => exact (reach_of_settled settled).1
    | window => exact (reach_of_settled settled).2
  unfold ofConfig
  rw [planned, reached]
  rfl

theorem layers_of_accepted {arguments : ConfigArguments} {config : Config}
    (accepted : Config.ofArguments arguments = .ok config) {layers : Int}
    (counted : arguments.layerCount = .int layers) :
    ∃ kinds, expandLayout config.layout = .ok kinds ∧ config.layers = .list kinds ∧
      (∀ kind ∈ kinds, kind = .text "global" ∨ kind = .text "local") ∧
      (kinds.length : Int) = layers := by
  obtain ⟨layout, kinds, passes, rfl⟩ := Config.passes_of_accepted accepted
  exact ⟨kinds, passes.expanded, rfl, known_of_required passes.known, passes.length_eq counted⟩

theorem atIndex_of_kind {config : Config} {index : Setting} {kind : LayerKind}
    (picked : LayerKind.ofConfig config index = .ok kind) (type : ElementType) (training : Bool) :
    (atIndex config index type training : Except Failure (Layer α)) =
      ofConfig kind config type training := by
  unfold atIndex
  rw [picked]
  rfl

/-- The layer at an index is of the kind that is listed there, and it takes over parameters of its
width. -/
theorem exists_assigned {arguments : ConfigArguments} {config : Config} {index : Setting}
    {kind : LayerKind} {type : ElementType} {heads size : Nat} {window limit : Int}
    (accepted : Config.ofArguments arguments = .ok config)
    (settled : config.Settled heads size window limit)
    (picked : LayerKind.ofConfig config index = .ok kind) (floating : type.isFloating = true)
    (training : Bool) {parameters : Parameters α} (shaped : parameters.Shaped (heads * size)) :
    ∃ plain layer : Layer α, atIndex config index type training = .ok plain ∧
      plain.withParameters parameters = .ok layer ∧ layer.reach = kind.reach window limit := by
  have made := ofConfig_of_settled (α := α) accepted settled kind type training
  have regular := regular_ofWhole (α := α) floating heads size (kind.reach window limit)
  exact ⟨_, _, (atIndex_of_kind picked type training).trans made,
    (regular.withParameters shaped).1, rfl⟩

/-- Layouts that differ in barren runs only are layouts of the same layers. -/
theorem ofArguments_of_barren {arguments : ConfigArguments} {config : Config}
    (accepted : Config.ofArguments arguments = .ok config) {runs others : List PatternRun}
    (laidOut : config.layout = .list (runs.map PatternRun.toSetting))
    (same : (others.filter fun run => !run.isBarren) = runs.filter fun run => !run.isBarren) :
    Config.ofArguments { arguments with layout := .list (others.map PatternRun.toSetting) } =
      .ok { config with layout := .list (others.map PatternRun.toSetting) } := by
  obtain ⟨layout, kinds, passes, rfl⟩ := Config.passes_of_accepted accepted
  obtain rfl : layout = .list (runs.map PatternRun.toSetting) := laidOut
  have layers : others.flatMap PatternRun.layers = runs.flatMap PatternRun.layers := by
    rw [← PatternRun.flatMap_filter_isBarren others, same, PatternRun.flatMap_filter_isBarren]
  have expanded : expandLayout (.list (others.map PatternRun.toSetting)) = .ok kinds := by
    rw [expandLayout_runs, layers, ← expandLayout_runs]
    exact passes.expanded
  have again : ConfigArguments.Passes
      { arguments with layout := .list (others.map PatternRun.toSetting) }
      (.list (others.map PatternRun.toSetting)) kinds :=
    { passes with
      laidOut := rfl
      expanded }
  exact again.accepted

/-- The layers of an accepted configuration follow its layout. The runs fill as many positions as
there are layers. At an index, from the front or from the back, stands a layer of the kind that the
pattern of the covering run names; beyond the ends there is none. Barren runs, whatever their
patterns hold, can be put in or left out. -/
theorem atIndex_follows_layout {arguments : ConfigArguments} {config : Config}
    {width heads window limit layers : Int} (whole : arguments.Whole width heads window limit)
    (counted : arguments.layerCount = .int layers) (positive : 1 ≤ width)
    (accepted : Config.ofArguments arguments = .ok config) {runs : List PatternRun}
    (laidOut : config.layout = .list (runs.map PatternRun.toSetting)) (type : ElementType)
    (training : Bool) :
    (PatternRun.offset runs runs.length : Int) = layers ∧
    (∀ index : Nat, index < layers → ∃ place run, PatternRun.Covers runs place run index) ∧
    (∀ place run index, PatternRun.Covers runs place run index →
      ∃ (kind : LayerKind) (layer : Layer α),
        run.pattern[(index - PatternRun.offset runs place) % run.pattern.length]? =
          some kind.name ∧
        atIndex config (.int index) type training = .ok layer ∧
        atIndex config (.int (index - layers)) type training = .ok layer ∧
        layer.reach = kind.reach window limit) ∧
    (∀ index : Int, -layers ≤ index → index < layers →
      ∃ layer : Layer α, atIndex config (.int index) type training = .ok layer) ∧
    (∀ index : Int, index < -layers ∨ layers ≤ index →
      (atIndex config (.int index) type training : Except Failure (Layer α)) =
        .error .indexOutOfRange) ∧
    ∀ others : List PatternRun,
      (others.filter fun run => !run.isBarren) = (runs.filter fun run => !run.isBarren) →
      Config.ofArguments { arguments with layout := .list (others.map PatternRun.toSetting) } =
        .ok { config with layout := .list (others.map PatternRun.toSetting) } := by
  obtain ⟨kinds, expanded, listed, known, lengthEq⟩ := layers_of_accepted accepted counted
  rw [laidOut, expandLayout_runs] at expanded
  obtain rfl : runs.flatMap PatternRun.layers = kinds := Except.ok.inj expanded
  have filled : (PatternRun.offset runs runs.length : Int) = layers := by
    rw [← PatternRun.length_flatMap_layers]
    exact lengthEq
  obtain ⟨count, size, _, _, settled⟩ := Config.settled_of_accepted accepted whole (by omega)
  have made (kind : LayerKind) := ofConfig_of_settled (α := α) accepted settled kind type training
  refine ⟨filled, ?_, ?_, ?_, ?_, fun others same => ofArguments_of_barren accepted laidOut same⟩
  · intro index below
    exact PatternRun.exists_covers (by omega)
  · intro place run index covers
    have item := List.getElem?_eq_getElem covers.lt_length
    obtain ⟨kind, named⟩ := LayerKind.exists_name (known _ (List.getElem_mem covers.lt_length))
    rw [named] at item
    refine ⟨kind, ofPlan ⟨count * size, .whole count size, .keepAll, .keepAll⟩
      (kind.reach window limit) type, covers.getElem?_layers.symm.trans item, ?_, ?_, rfl⟩
    · have picked := LayerKind.ofConfig_of_name listed (Setting.itemAt_of_getElem? item)
      exact (atIndex_of_kind picked type training).trans (made kind)
    · have picked := LayerKind.ofConfig_of_name listed (Setting.itemAt_from_back item)
      rw [← lengthEq]
      exact (atIndex_of_kind picked type training).trans (made kind)
  · intro index atLeast below
    obtain ⟨kind, picked⟩ := LayerKind.ofConfig_of_accepted accepted counted atLeast below
    exact ⟨_, (atIndex_of_kind picked type training).trans (made kind)⟩
  · intro index outside
    rw [← lengthEq] at outside
    unfold atIndex
    rw [LayerKind.ofConfig_outside listed outside]
    rfl

/-- Three layers in two runs, with an unknown kind in a run that is not repeated, an empty pattern
and a run that is repeated less than never between them. -/
theorem atIndex_follows_layout_three_layers :
    let runs : List PatternRun :=
      [⟨Failure.knownKinds, 1⟩, ⟨[.text "other"], 0⟩, ⟨[], 5⟩, ⟨[.null], -2⟩, ⟨[.text "local"], 1⟩]
    let arguments : ConfigArguments :=
      { hiddenSize := .int 2, heads := .int 1, layerCount := .int 3,
        layout := .list (runs.map PatternRun.toSetting), windowSize := .int 2,
        maxPositions := .int 4, attentionDropout := .int 0, outputDropout := .int 0 }
    ∃ config, Config.ofArguments arguments = .ok config ∧
      (∃ layer : Layer MachineNumber, atIndex config (.int 2) .float32 true = .ok layer ∧
        atIndex config (.int (-1)) .float32 true = .ok layer ∧
        layer.reach = .window (.int 2)) ∧
      (atIndex config (.int 3) .float32 true : Except Failure (Layer MachineNumber)) =
        .error .indexOutOfRange ∧
      ∃ shorter, Config.ofArguments { arguments with
          layout := .list (([⟨Failure.knownKinds, 1⟩, ⟨[.text "local"], 1⟩] : List PatternRun).map
            PatternRun.toSetting) } = .ok shorter ∧ shorter.layers = config.layers := by
  intro runs arguments
  obtain ⟨config, accepted⟩ : ∃ config, Config.ofArguments arguments = .ok config := ⟨_, rfl⟩
  have whole : arguments.Whole 2 1 2 4 := ⟨rfl, rfl, rfl, rfl, rfl⟩
  have laidOut : config.layout = .list (runs.map PatternRun.toSetting) := by
    cases accepted
    rfl
  obtain ⟨_, _, covered, _, outside, barren⟩ :=
    atIndex_follows_layout (α := MachineNumber) whole rfl (by decide) accepted laidOut .float32 true
  have covers : PatternRun.Covers runs 4 ⟨[.text "local"], 1⟩ 2 :=
    ⟨rfl, by decide, by decide⟩
  obtain ⟨kind, layer, named, front, back, reached⟩ := covered 4 _ 2 covers
  have windowed : kind = .window := by
    cases kind with
    | everything =>
        have same : "local" = "global" := Value.text.inj (Option.some.inj named)
        contradiction
    | window => rfl
  subst windowed
  exact ⟨config, accepted, ⟨layer, front, back, reached⟩, outside 3 (Or.inr (by decide)), _,
    barren _ rfl, rfl⟩

end Layer

namespace Session

variable {α : Type} [Arithmetic α] {session : Session α} {config : Config} {choice : LayerChoice}
  {type : ElementType} {training : Bool}

def chosenLayer (config : Config) (choice : LayerChoice) (type : ElementType) (training : Bool) :
    Except Failure (Layer α) := do
  let kind ← chosenKind config choice
  Layer.ofConfig kind config type training

/-- A machine can hold the first parameters of a layer and its table of positions. -/
def RoomFor (layer : Layer α) : Prop :=
  Memory.requireSquare .float32 layer.width = .ok () ∧ requireTable layer.reach = .ok ()

/-- A session builds the layer of its configuration whenever a machine can hold it, and no other
layer. -/
theorem build_eq_ok_iff (name : String) (replace : Parameters α → Parameters α) {layer : Layer α} :
    (session.build name choice type training replace).map (·.1.layer) = .ok layer ↔
      ∃ config plain, session.current = .ok config ∧
        chosenLayer config choice type training = .ok plain ∧ RoomFor plain ∧
        plain.withParameters (replace plain.parameters) = .ok layer := by
  constructor
  · intro built
    rcases exists_of_map_ok built with ⟨⟨made, next⟩, ran, rfl⟩
    rcases exists_of_bind_ok ran with ⟨config, current, ran⟩
    rcases exists_of_bind_ok ran with ⟨kind, chosen, ran⟩
    rcases exists_of_bind_ok ran with ⟨plan, planned, ran⟩
    rcases exists_of_bind_ok ran with ⟨_, square, ran⟩
    rcases exists_of_bind_ok ran with ⟨reach, reached, ran⟩
    rcases exists_of_bind_ok ran with ⟨_, table, ran⟩
    rcases exists_of_bind_ok ran with ⟨taken, assigned, ran⟩
    cases ran
    refine ⟨config, Layer.ofPlan plan reach type, current, ?_, ⟨square, table⟩, assigned⟩
    simp only [chosenLayer, Layer.ofConfig, chosen, planned, reached, bind, Except.bind, pure,
      Except.pure]
  · rintro ⟨config, plain, current, chose, room, assigned⟩
    rcases exists_of_bind_ok chose with ⟨kind, chosen, made⟩
    rcases exists_of_bind_ok made with ⟨plan, planned, made⟩
    rcases exists_of_bind_ok made with ⟨reach, reached, made⟩
    cases made
    simp only [RoomFor, Layer.ofPlan] at room
    rcases room with ⟨square, table⟩
    obtain ⟨made, built, same⟩ : ∃ made,
        session.build name choice type training replace = .ok made ∧ made.1.layer = layer :=
      ⟨_, (bind_of_ok current).trans <| (bind_of_ok chosen).trans <| (bind_of_ok planned).trans <|
        (bind_of_ok square).trans <| (bind_of_ok reached).trans <| (bind_of_ok table).trans <|
        bind_of_ok assigned, rfl⟩
    rw [built, ← same]
    rfl

/-- A session with room builds the layer that stands at an index. -/
theorem build_atIndex (name : String) {index : Setting} {plain layer : Layer α}
    (current : session.current = .ok config)
    (made : Layer.atIndex config index type training = .ok plain) (room : RoomFor plain)
    {replace : Parameters α → Parameters α}
    (assigned : plain.withParameters (replace plain.parameters) = .ok layer) :
    (session.build name (.byIndex index) type training replace).map (·.1.layer) = .ok layer :=
  (build_eq_ok_iff name replace).mpr ⟨config, plain, current, made, room, assigned⟩

/-- A session with room builds a layer of a kind with given parameters. -/
theorem build_evaluating (name : String) {kind : LayerKind} {parameters : Parameters α}
    {layer : Layer α} (current : session.current = .ok config)
    (made : Layer.evaluating kind config type parameters = .ok layer) (room : RoomFor layer) :
    (session.build name (.ofKind kind) type false fun _ => parameters).map (·.1.layer) =
      .ok layer := by
  rcases exists_of_bind_ok made with ⟨plain, planned, assigned⟩
  rcases exists_of_map_ok assigned with ⟨_, _, rfl⟩
  exact (build_eq_ok_iff name _).mpr ⟨config, plain, current, planned, room, assigned⟩

end Session

end CausalAttention
