import CausalAttention.Config.Validation
import CausalAttention.Layer.Run

/-!
Layers of a configuration.

A layer takes its sizes from the settings as they are when it is built and keeps them. All
parameters start at zero.
-/

set_option autoImplicit false

namespace CausalAttention

inductive LayerKind where
  | everything
  | window
deriving DecidableEq

namespace Setting

def itemAt {β : Type} (items : List β) (index : Int) : Except Failure β :=
  let position := if index < 0 then index + items.length else index
  if position < 0 then .error .indexOutOfRange
  else
    match items[position.toNat]? with
    | some item => .ok item
    | none => .error .indexOutOfRange

/-- The part of a setting at an index: an item of a sequence, a character of a text, or the
value of a mapping at a key. -/
def partAt (setting index : Setting) : Except Failure Setting :=
  match setting with
  | .list items | .tuple items =>
      match index.integer? with
      | some position => itemAt items position
      | none => .error .wrongKind
  | .text content =>
      match index.integer? with
      | some position =>
          (itemAt content.toList position).map fun character => .text (String.singleton character)
      | none => .error .wrongKind
  | .mapping entries =>
      if !index.isMember then .error .wrongKind
      else
        match entries.find? fun entry => isSame (.text entry.1) index with
        | some entry => .ok entry.2
        | none => .error .missingKey
  | _ => .error .wrongKind

def size (setting : Setting) : Except Failure Nat :=
  match setting with
  | .int number =>
      if 0 ≤ number then .ok number.toNat
      else .error (if Memory.isWord number then .invalidSize else .sizeOutOfRange)
  | _ => .error .wrongKind

end Setting

namespace LayerKind

def ofConfig (config : Config) (index : Setting) : Except Failure LayerKind := do
  let named ← Setting.partAt config.layers index
  match named with
  | .text "global" => return .everything
  | .text "local" => return .window
  | _ => .error (.unknownLayerKind config.layers)

end LayerKind

namespace Config

/-- The division of the features among the heads. The features have to be covered by the heads
when each has the quotient, rounded down. -/
def headDivision (config : Config) : Except Failure HeadDivision :=
  let failure : Failure := .indivisibleWidth config.hiddenSize config.heads
  match Setting.numeral? config.hiddenSize, Setting.numeral? config.heads with
  | some (.whole width), some (.whole heads) =>
      if heads = 0 then .error .divisionByZero
      else do
        let headSize := width / heads
        require (headSize * heads = width) failure
        match config.heads with
        | .bool _ => return .single headSize
        | _ => return .whole heads headSize
  | some width, some heads => do
      let (features, count) ← width.toFloats heads
      if count == 0.0 then .error .divisionByZero
      else do
        let headSize := Numeral.floorQuotient features count
        require ((DyadicValue.ofFloat (headSize * count)).isEqual width.value) failure
        return .fractional count headSize
  | _, _ => .error .wrongKind

end Config

/-- The sizes of a layer and the effects of its dropout, before it has parameters. -/
structure LayerPlan (α : Type) where
  width : Nat
  division : HeadDivision
  attentionDropout : Dropout α
  outputDropout : Dropout α

namespace LayerPlan

def ofConfig {α : Type} (config : Config) (training : Bool)
    (attentionDraw outputDraw : Dropout α := .keepAll) : Except Failure (LayerPlan α) := do
  let division ← config.headDivision
  let attentionDropout ← Dropout.ofSetting config.attentionDropout training attentionDraw
  let outputDropout ← Dropout.ofSetting config.outputDropout training outputDraw
  let width ← Setting.size config.hiddenSize
  return { width, division, attentionDropout, outputDropout }

end LayerPlan

namespace Reach

def ofConfig (kind : LayerKind) (config : Config) : Except Failure Reach :=
  match kind with
  | .everything => (Setting.size config.maxPositions).map everything
  | .window => .ok (window config.windowSize)

end Reach

namespace Layer

variable {α : Type} [Arithmetic α]

def ofPlan (plan : LayerPlan α) (reach : Reach) (elementType : ElementType) : Layer α :=
  let hiddenScoreValue : TypedTensor α :=
    .scalar .float32 (Arithmetic.ofInteger .float32 hiddenScore)
  { width := plan.width
    division := plan.division
    reach
    parameters := Parameters.zero elementType plan.width
    maskedBias := hiddenScoreValue.convert elementType
    attentionDropout := plan.attentionDropout
    outputDropout := plan.outputDropout }

/-- Builds a layer of a kind from the settings of a configuration. Without draws nothing is
dropped at a rate below one. -/
def ofConfig (kind : LayerKind) (config : Config) (elementType : ElementType)
    (training : Bool) (attentionDraw outputDraw : Dropout α := .keepAll) :
    Except Failure (Layer α) := do
  let plan ← LayerPlan.ofConfig config training attentionDraw outputDraw
  let reach ← Reach.ofConfig kind config
  return ofPlan plan reach elementType

def withParameters (layer : Layer α) (source : Parameters α) : Except Failure (Layer α) :=
  (layer.parameters.assign source).map fun parameters => { layer with parameters }

end Layer

end CausalAttention
