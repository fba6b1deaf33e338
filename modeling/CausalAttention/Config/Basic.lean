import CausalAttention.Failure

/-!
Configurations of a stack of attention layers.

A configuration holds its settings as they were given. It is made from arguments, which have
defaults; two settings can also be named by an alias. Fields can be read and assigned by name,
and an assignment checks nothing.

The layout of the layers is a sequence of runs, each a pattern of layer kinds and a number of
repetitions. Its expansion names one kind per layer.
-/

set_option autoImplicit false

namespace CausalAttention

structure PatternRun where
  pattern : List Setting
  repetitions : Int

namespace PatternRun

/-- The layers of a run. A run without repetitions, or with a negative number of them, has
none, and neither has an empty pattern. -/
def layers (run : PatternRun) : List Setting :=
  match run.pattern with
  | [] => []
  | pattern => (List.replicate run.repetitions.toNat pattern).flatten

/-- Reads a run from a pair of a pattern and an integer. The pattern is looked at only when
it is repeated. -/
def ofSetting (entry : Setting) : Except Failure PatternRun :=
  match entry.items? with
  | none => .error .wrongKind
  | some [pattern, repetitions] =>
      match repetitions.integer? with
      | none => .error .wrongKind
      | some count =>
          if count ≤ 0 then .ok ⟨[], count⟩
          else
            match pattern.items? with
            | none => .error .wrongKind
            | some items => .ok ⟨items, count⟩
  | some _ => .error .wrongCount

theorem layers_eq_flatten (run : PatternRun) :
    run.layers = (List.replicate run.repetitions.toNat run.pattern).flatten := by
  obtain ⟨pattern, repetitions⟩ := run
  cases pattern with
  | nil => simp [layers]
  | cons _ _ => rfl

theorem length_layers (run : PatternRun) :
    run.layers.length = run.repetitions.toNat * run.pattern.length := by
  simp [layers_eq_flatten]

end PatternRun

def expandLayout (layout : Setting) : Except Failure (List Setting) :=
  match layout.items? with
  | none => .error .wrongKind
  | some entries => do
      let runs ← entries.mapM PatternRun.ofSetting
      return runs.flatMap PatternRun.layers

structure Config where
  hiddenSize : Setting
  heads : Setting
  layerCount : Setting
  layout : Setting
  layers : Setting
  windowSize : Setting
  maxPositions : Setting
  attentionDropout : Setting
  outputDropout : Setting
  extras : List (String × Setting)

structure ConfigArguments where
  hiddenSize : Setting := .int 768
  heads : Setting := .int 12
  layerCount : Setting := .int 12
  layout : Setting := .null
  windowSize : Setting := .int 256
  maxPositions : Setting := .int 2048
  attentionDropout : Setting := .float 0.0
  outputDropout : Setting := .float 0.0
  headsAlias : Option Setting := none
  layerCountAlias : Option Setting := none
  extras : List (String × Setting) := []

def assignNamed (name : String) (value : Setting) : List (String × Setting) → List (String × Setting)
  | [] => [(name, value)]
  | entry :: rest =>
      if entry.1 = name then (name, value) :: rest else entry :: assignNamed name value rest

namespace ConfigArguments

/-- Adds one named argument. The kinds of the layers follow from the layout, so an argument
that names them is left out. -/
def add (arguments : ConfigArguments) (name : String) (value : Setting) : ConfigArguments :=
  match name with
  | "hidden_size" => { arguments with hiddenSize := value }
  | "num_heads" => { arguments with heads := value }
  | "num_layers" => { arguments with layerCount := value }
  | "attention_types" => { arguments with layout := value }
  | "window_size" => { arguments with windowSize := value }
  | "max_position_embeddings" => { arguments with maxPositions := value }
  | "attention_dropout" => { arguments with attentionDropout := value }
  | "resid_dropout" => { arguments with outputDropout := value }
  | "num_attention_heads" => { arguments with headsAlias := some value }
  | "num_hidden_layers" => { arguments with layerCountAlias := some value }
  | "attention_layers" => arguments
  | _ => { arguments with extras := assignNamed name value arguments.extras }

def ofList (named : List (String × Setting)) : ConfigArguments :=
  named.foldl (fun arguments entry => arguments.add entry.1 entry.2) {}

end ConfigArguments

namespace Config

def modelField : String := "model_type"

def arguments (config : Config) : ConfigArguments :=
  { hiddenSize := config.hiddenSize
    heads := config.heads
    layerCount := config.layerCount
    layout := config.layout
    windowSize := config.windowSize
    maxPositions := config.maxPositions
    attentionDropout := config.attentionDropout
    outputDropout := config.outputDropout
    extras := config.extras.filter fun entry => entry.1 ≠ modelField }

/-- The value of a field. An alias reads the field that it stands for. The model has a name
unless it was assigned another. -/
def get? (config : Config) (name : String) : Option Setting :=
  match name with
  | "hidden_size" => some config.hiddenSize
  | "num_heads" | "num_attention_heads" => some config.heads
  | "num_layers" | "num_hidden_layers" => some config.layerCount
  | "attention_types" => some config.layout
  | "attention_layers" => some config.layers
  | "window_size" => some config.windowSize
  | "max_position_embeddings" => some config.maxPositions
  | "attention_dropout" => some config.attentionDropout
  | "resid_dropout" => some config.outputDropout
  | _ =>
      match config.extras.find? fun entry => entry.1 == name with
      | some entry => some entry.2
      | none => if name = modelField then some (.text "neo_attention") else none

def assign (config : Config) (name : String) (value : Setting) : Config :=
  match name with
  | "hidden_size" => { config with hiddenSize := value }
  | "num_heads" | "num_attention_heads" => { config with heads := value }
  | "num_layers" | "num_hidden_layers" => { config with layerCount := value }
  | "attention_types" => { config with layout := value }
  | "attention_layers" => { config with layers := value }
  | "window_size" => { config with windowSize := value }
  | "max_position_embeddings" => { config with maxPositions := value }
  | "attention_dropout" => { config with attentionDropout := value }
  | "resid_dropout" => { config with outputDropout := value }
  | _ => { config with extras := assignNamed name value config.extras }

end Config

end CausalAttention
