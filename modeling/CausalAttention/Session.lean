import CausalAttention.Config.Validation
import CausalAttention.Layer.OfConfig

/-!
Sessions: one current configuration, layers by name, and cache slots by name.

Every operation answers with a result and the session after it. A failed operation leaves the
session as it was.
-/

set_option autoImplicit false

namespace CausalAttention

/-- A layer as it was built. Layers that a configuration chose by index hand out a cache for
the next positions whatever their kind; a local layer on its own does not. -/
structure BuiltLayer (α : Type) where
  layer : Layer α
  chosenByIndex : Bool

/-- The state of a session. `listed` holds the names of the extra arguments of the current
configuration. -/
structure Session (α : Type) where
  config : Option Config := none
  listed : List String := []
  layers : List (String × BuiltLayer α) := []
  caches : List (String × Option (Cache α)) := []

inductive LayerChoice where
  | byIndex (index : Setting)
  | ofKind (kind : LayerKind)

inductive PastSource (α : Type) where
  | none
  | slot (name : String)
  | given (cache : Cache α)

structure RunReport (α : Type) where
  output : TypedTensor α
  present : Option (Option (Cache α))
  weights : TypedTensor α

def lookupNamed {β : Type} (name : String) (entries : List (String × β)) : Option β :=
  (entries.find? fun entry => entry.1 == name).map Prod.snd

def parameterNames : List String :=
  ["k_proj.weight", "out_proj.bias", "out_proj.weight", "q_proj.weight", "v_proj.weight"]

namespace BuiltLayer

variable {α : Type} [Arithmetic α]

def run (built : BuiltLayer α) (input : LayerInput α) : Except Failure (RunReport α) :=
  match built.layer.reach, built.chosenByIndex with
  | .window size, false => do
      let attended ← built.layer.runLocal size input
      return { output := attended.output, present := none, weights := attended.weights }
  | _, _ => do
      let answer ← built.layer.run input
      return { output := answer.output, present := some answer.present, weights := answer.weights }

end BuiltLayer

namespace Session

variable {α : Type} [Arithmetic α]

def current (session : Session α) : Except Failure Config :=
  match session.config with
  | some config => .ok config
  | none => .error .missingAttribute

def listedExtras (session : Session α) (config : Config) : List (String × Setting) :=
  session.listed.filterMap fun name => (config.get? name).map fun value => (name, value)

def configure (session : Session α) (named : List (String × Setting)) :
    Except Failure (Config × Session α) := do
  let arguments := ConfigArguments.ofList named
  let config ← Config.ofArguments arguments
  return (config, { session with
    config := some config
    listed := arguments.extras.map Prod.fst })

def configurePreset (session : Session α) (name : Setting) :
    Except Failure (Config × Session α) := do
  let config ← Config.ofPreset name
  return (config, { session with config := some config, listed := [] })

def reload (session : Session α) : Except Failure (Config × Session α) := do
  let config ← session.current
  let reloaded ← config.reload
  return (reloaded, { session with config := some reloaded })

def assign (session : Session α) (name : String) (value : Setting) :
    Except Failure (Config × Session α) := do
  let config ← session.current
  let changed := config.assign name value
  return (changed, { session with config := some changed })

def read (session : Session α) (name : String) : Except Failure Setting := do
  let config ← session.current
  match config.get? name with
  | some value => return value
  | none => .error .missingAttribute

def chosenKind (config : Config) : LayerChoice → Except Failure LayerKind
  | .byIndex index => LayerKind.ofConfig config index
  | .ofKind kind => .ok kind

def requireTable : Reach → Except Failure Unit
  | .everything limit => Memory.requireSquare .uint8 limit
  | .window _ => .ok ()

/-- Builds a layer under a name, with parameters that replace those given at zero. The layer
first has its parameters in single precision, and a global one a table of the positions that
every position reaches, for both of which there has to be room. -/
def build (session : Session α) (name : String) (choice : LayerChoice)
    (elementType : ElementType) (training : Bool) (replace : Parameters α → Parameters α) :
    Except Failure (BuiltLayer α × Session α) := do
  let config ← session.current
  let kind ← chosenKind config choice
  let plan ← LayerPlan.ofConfig config training
  Memory.requireSquare .float32 plan.width
  let reach ← Reach.ofConfig kind config
  requireTable reach
  let empty := Layer.ofPlan plan reach elementType
  let layer ← empty.withParameters (replace empty.parameters)
  let chosenByIndex := match choice with
    | .byIndex _ => true
    | .ofKind _ => false
  let built : BuiltLayer α := ⟨layer, chosenByIndex⟩
  return (built, { session with layers := (name, built) :: session.layers })

def layerNamed (session : Session α) (name : String) : Except Failure (BuiltLayer α) :=
  match lookupNamed name session.layers with
  | some built => .ok built
  | none => .error .missingKey

def cacheNamed (session : Session α) (name : String) : Except Failure (Option (Cache α)) :=
  match lookupNamed name session.caches with
  | some cache => .ok cache
  | none => .error .missingKey

def share (session : Session α) (source target : String) :
    Except Failure (List String × Session α) := do
  let sourceLayer ← session.layerNamed source
  let targetLayer ← session.layerNamed target
  let layer ← targetLayer.layer.withParameters sourceLayer.layer.parameters
  return (parameterNames,
    { session with layers := (target, { targetLayer with layer }) :: session.layers })

def pastOf (session : Session α) : PastSource α → Except Failure (Option (Cache α))
  | .none => .ok none
  | .slot name => session.cacheNamed name
  | .given cache => .ok (some cache)

/-- Runs a layer on an input, with a cache from its source, and saves the cache of the answer
in a slot if one is named. -/
def run (session : Session α) (name : String) (input : LayerInput α) (past : PastSource α)
    (saveAs : Option String) : Except Failure (RunReport α × Session α) := do
  let built ← session.layerNamed name
  let cache ← session.pastOf past
  let report ← built.run { input with past := cache }
  let caches := match saveAs with
    | some slot => (slot, report.present.getD none) :: session.caches
    | none => session.caches
  return (report, { session with caches })

def slotValue (cache : Option (Cache α)) : Value (TypedTensor α) :=
  match cache with
  | some tensors => tensors.toValue
  | none => .null

def cachedLength (session : Session α) (slot : String) : Except Failure Nat := do
  let cache ← session.cacheNamed slot
  (slotValue cache).cachedLength

def cachedLengthOfAll (session : Session α) (slots : List String) : Except Failure Nat := do
  let caches ← slots.mapM session.cacheNamed
  (Value.list (caches.map slotValue)).cachedLength

end Session

end CausalAttention
