import CausalAttention.Config.Basic
import CausalAttention.Text.Template

/-!
Making a configuration from arguments.

The arguments are checked one after the other, and the first violated condition decides the
failure. The default layout is computed before any check. The aliases replace their fields
after the checks. The presets are
configurations that have names.
-/

set_option autoImplicit false

namespace CausalAttention

namespace Setting

def half (setting : Setting) : Except Failure Setting :=
  match Setting.numeral? setting with
  | some (.whole number) => .ok (.int (number / 2))
  | some (.fractional number) => .ok (.float (Numeral.floorQuotient number 2.0))
  | none => .error .wrongKind

/-- Whether a setting is a multiple of another, which is not zero. A text is a template that the
other setting fills, and is never a multiple. -/
def isMultipleOf (dividend divisor : Setting) : Except Failure Bool :=
  match dividend, Setting.numeral? divisor with
  | .text template, some number => do
      Text.Template.requireFillable template number
      return false
  | _, some number =>
      match Setting.numeral? dividend with
      | some multiple => multiple.isMultipleOf number
      | none => .error .wrongKind
  | _, none => .error .wrongKind

end Setting

namespace ConfigArguments

def layoutOrDefault (arguments : ConfigArguments) : Except Failure Setting :=
  match arguments.layout with
  | .null => do
      let repetitions ← Setting.half arguments.layerCount
      return .list [.list [.list Failure.knownKinds, repetitions]]
  | layout => .ok layout

def requireDivisible (arguments : ConfigArguments) : Except Failure Unit := do
  let divisible ← Setting.isMultipleOf arguments.hiddenSize arguments.heads
  require divisible (.indivisibleHiddenSize arguments.hiddenSize arguments.heads)

def requireRate (name : String) (setting : Setting) : Except Failure Unit := do
  let rate ← Setting.number setting
  require ((DyadicValue.ofInteger 0).isAtMost rate && rate.isLess (.ofInteger 1))
    (.dropoutOutOfRange name setting)

def requireLayerCount (arguments : ConfigArguments) (kinds : List Setting) :
    Except Failure Unit :=
  let matching := match arguments.layerCount.number? with
    | some count => (DyadicValue.ofInteger kinds.length).isEqual count
    | none => false
  require matching (.layerCountMismatch kinds.length arguments.layerCount)

end ConfigArguments

namespace Setting

/-- Whether two members of a set are the same: equal numbers are, whatever their notation, and
so are two undefined ones. -/
def isSame (left right : Setting) : Bool :=
  match left, right with
  | .text leftText, .text rightText => leftText == rightText
  | _, _ =>
      match left.number?, right.number? with
      | some .undefined, some .undefined => true
      | some leftNumber, some rightNumber => leftNumber.isEqual rightNumber
      | none, none => left.literal == right.literal
      | _, _ => false

def distinct : List Setting → List Setting
  | [] => []
  | first :: rest => first :: (distinct rest).filter fun other => !isSame first other

def isKnownKind : Setting → Bool
  | .text name => name == "global" || name == "local"
  | _ => false

def precedes? (left right : Setting) : Option Bool :=
  match left, right with
  | .text leftText, .text rightText => some (leftText < rightText)
  | _, _ =>
      match left.number?, right.number? with
      | some leftNumber, some rightNumber => some (leftNumber.isLess rightNumber)
      | _, _ => none

def sort (settings : List Setting) : Except Failure (List Setting) :=
  match settings with
  | [] => .ok []
  | [single] => .ok [single]
  | first :: rest =>
      if rest.all fun other => (precedes? first other).isSome then
        .ok (settings.mergeSort fun earlier later => precedes? later earlier ≠ some true)
      else .error .wrongKind

end Setting

/-- Requires every kind to be a known one. Kinds that cannot be members of a set cannot be
told apart from the known ones. -/
def requireKnownKinds (kinds : List Setting) : Except Failure Unit :=
  if !Value.areMembers kinds then .error .wrongKind
  else do
    let unknown ← Setting.sort
      (Setting.distinct (kinds.filter fun kind => !Setting.isKnownKind kind))
    require unknown.isEmpty (.unknownLayerKinds unknown)

namespace Config

def ofArguments (arguments : ConfigArguments) : Except Failure Config := do
  let layout ← arguments.layoutOrDefault
  requirePositive arguments.heads (.tooFewHeads arguments.heads)
  arguments.requireDivisible
  requirePositive arguments.windowSize (.windowTooSmall arguments.windowSize)
  requirePositive arguments.maxPositions
    (.tooFewPositions arguments.maxPositions)
  ConfigArguments.requireRate "attention_dropout" arguments.attentionDropout
  ConfigArguments.requireRate "resid_dropout" arguments.outputDropout
  let kinds ← expandLayout layout
  arguments.requireLayerCount kinds
  requireKnownKinds kinds
  return {
    hiddenSize := arguments.hiddenSize
    heads := arguments.headsAlias.getD arguments.heads
    layerCount := arguments.layerCountAlias.getD arguments.layerCount
    layout
    layers := .list kinds
    windowSize := arguments.windowSize
    maxPositions := arguments.maxPositions
    attentionDropout := arguments.attentionDropout
    outputDropout := arguments.outputDropout
    extras := arguments.extras }

def reload (config : Config) : Except Failure Config :=
  ofArguments config.arguments

end Config

def alternating (hiddenSize heads layerCount windowSize maxPositions : Int) : ConfigArguments :=
  { hiddenSize := .int hiddenSize
    heads := .int heads
    layerCount := .int layerCount
    layout := .list [.list [.list Failure.knownKinds, .int (layerCount / 2)]]
    windowSize := .int windowSize
    maxPositions := .int maxPositions }

def presets : List (String × ConfigArguments) :=
  [("tiny", alternating 64 4 2 4 64),
   ("gpt-neo-125M", alternating 768 12 12 256 2048),
   ("gpt-neo-1.3B", alternating 2048 16 24 256 2048),
   ("gpt-neo-2.7B", alternating 2560 20 32 256 2048)]

theorem presetNames_eq :
    Failure.presetNames = presets.map fun preset => Value.text preset.1 := rfl

/-- The configuration of a preset. A name that cannot be looked up is of the wrong kind; every
other unknown name is reported. -/
def Config.ofPreset (name : Setting) : Except Failure Config :=
  if !name.isMember then .error .wrongKind
  else
    match name with
    | .text key =>
        match presets.find? fun preset => preset.1 == key with
        | some preset => Config.ofArguments preset.2
        | none => .error (.unknownPreset name)
    | _ => .error (.unknownPreset name)

end CausalAttention
