import CausalAttention.Value

/-!
What can go wrong, as causes. A cause that the library itself detects carries what its
message names; the others arise in the operations underneath and have no message.
-/

set_option autoImplicit false

namespace CausalAttention

inductive Failure where
  | windowTooSmall (given : Setting)
  | negativeLength (given : Int)
  | unexpectedRank (lower upper given : Nat)
  | headsMismatch (last : Nat) (heads headSize : Setting)
  | paddingShapeMismatch (expected given : List Nat)
  | unsupportedMaskShape (given : List Nat)
  | unsupportedBlockMaskShape (given : List Nat)
  | indivisibleWidth (width heads : Setting)
  | sequenceTooLong (length limit : Nat)
  | notSingleToken (given : Nat)
  | unknownLayerKind (layers : Setting)
  | tooFewHeads (given : Setting)
  | indivisibleHiddenSize (hiddenSize heads : Setting)
  | tooFewPositions (given : Setting)
  | dropoutOutOfRange (name : String) (given : Setting)
  | layerCountMismatch (found : Nat) (expected : Setting)
  | unknownLayerKinds (kinds : List Setting)
  | unknownPreset (given : Setting)
  | unsupportedCache (kind written : String)
  | sizesDisagree
  | elementTypesDisagree
  | invalidSize
  | windowDoesNotFit
  | unsupportedElementType
  | undefinedDropout
  | axisOutOfRange
  | indexOutOfRange
  | wrongKind
  | wrongCount
  | invalidProbability
  | divisionByZero
  | valueOutOfRange
  | numberTooLarge
  | undefinedNumber
  | malformedTemplate
  | sizeOutOfRange
  | countOutOfRange
  | tensorTooLarge
  | outOfMemory
  | missingAttribute
  | missingKey

namespace Failure

def knownKinds : List Setting :=
  [.text "global", .text "local"]

def presetNames : List Setting :=
  [.text "tiny", .text "gpt-neo-125M", .text "gpt-neo-1.3B", .text "gpt-neo-2.7B"]

def message? : Failure → Option String
  | windowTooSmall given => some ("window_size must be >= 1, got " ++ given.plain)
  | negativeLength given => some ("sequence_length must be >= 0, got " ++ toString given)
  | unexpectedRank lower upper given =>
      some ("Invalid tensor rank, expected " ++ toString lower ++ " or " ++ toString upper ++
        ", got " ++ toString given)
  | headsMismatch last heads headSize =>
      some ("Last dimension " ++ toString last ++ " does not match num_heads (" ++
        heads.plain ++ ") * attention_head_size (" ++ headSize.plain ++ ")")
  | paddingShapeMismatch expected given =>
      some ("attention_mask must have shape " ++ (Value.sizes expected).plain ++ ", got " ++
        (Value.sizes given).plain)
  | unsupportedMaskShape given =>
      some ("Unsupported attention mask shape: " ++ (Value.sizes given).plain)
  | unsupportedBlockMaskShape given =>
      some ("Local attention mask must be a [batch, seq] padding mask or a 5-D block mask, " ++
        "got shape " ++ (Value.sizes given).plain)
  | indivisibleWidth width heads =>
      some ("embed_dim must be divisible by num_heads (got `embed_dim`: " ++ width.plain ++
        " and `num_heads`: " ++ heads.plain ++ ").")
  | sequenceTooLong length limit =>
      some ("Sequence length " ++ toString length ++ " exceeds max_position_embeddings (" ++
        toString limit ++ ")")
  | notSingleToken given =>
      some ("Local attention with layer_past expects a single new token, got " ++ toString given)
  | unknownLayerKind layers =>
      some ("Only attn layer types 'global' and 'local' exist, but got " ++
        "`config.attention_layers`: " ++ layers.plain ++
        ". Select attn layer types from ['global', 'local'] only.")
  | tooFewHeads given => some ("num_heads must be >= 1, got " ++ given.plain)
  | indivisibleHiddenSize hiddenSize heads =>
      some ("hidden_size (" ++ hiddenSize.plain ++ ") must be divisible by num_heads (" ++
        heads.plain ++ ")")
  | tooFewPositions given => some ("max_position_embeddings must be >= 1, got " ++ given.plain)
  | dropoutOutOfRange name given =>
      some (name ++ " must be in [0.0, 1.0), got " ++ given.plain)
  | layerCountMismatch found expected =>
      some ("attention_types does not describe one attention type per layer. " ++
        "`len(attention_layers)` == " ++ toString found ++ " but `num_layers` == " ++
        expected.plain ++ ".")
  | unknownLayerKinds kinds =>
      some ("Unknown attention types " ++ (Value.list kinds).plain ++ ", expected one of " ++
        (Value.list knownKinds).plain)
  | unknownPreset given =>
      some ("Invalid preset '" ++ given.plain ++ "'. Available presets: " ++
        (Value.list presetNames).plain)
  | unsupportedCache kind written =>
      some ("Unsupported layer_past type: <class '" ++ kind ++ "'>. " ++
        "Expected a tuple of tensors or a list of such tuples, got " ++ written)
  | sizesDisagree | elementTypesDisagree | invalidSize | windowDoesNotFit
  | unsupportedElementType | undefinedDropout | axisOutOfRange | indexOutOfRange | wrongKind
  | wrongCount | invalidProbability | divisionByZero | valueOutOfRange | numberTooLarge
  | undefinedNumber | malformedTemplate | sizeOutOfRange | countOutOfRange | tensorTooLarge
  | outOfMemory | missingAttribute | missingKey => none

end Failure

def require (condition : Bool) (failure : Failure) : Except Failure Unit :=
  if condition then .ok () else .error failure

@[simp] theorem require_eq_ok {condition : Bool} {failure : Failure} :
    require condition failure = .ok () ↔ condition = true := by
  cases condition <;> simp [require]

section Results

variable {β γ : Type}

theorem bind_of_ok {first : Except Failure β} {next : β → Except Failure γ} {value : β}
    (succeeded : first = .ok value) : first.bind next = next value := by
  rw [succeeded]
  rfl

theorem exists_of_bind_ok {first : Except Failure β} {next : β → Except Failure γ} {result : γ}
    (succeeded : first.bind next = .ok result) :
    ∃ value, first = .ok value ∧ next value = .ok result := by
  cases first with
  | error failure => contradiction
  | ok value => exact ⟨value, rfl, succeeded⟩

theorem exists_of_map_ok {first : Except Failure β} {image : β → γ} {result : γ}
    (succeeded : first.map image = .ok result) :
    ∃ value, first = .ok value ∧ image value = result := by
  cases first with
  | error failure => contradiction
  | ok value => exact ⟨value, rfl, Except.ok.inj succeeded⟩

theorem exists_of_map_toOption {result : Except Failure β} {read : β → γ} {value : γ}
    (same : result.toOption.map read = some value) :
    ∃ answer, result = .ok answer ∧ read answer = value := by
  cases result with
  | error failure => contradiction
  | ok answer => exact ⟨answer, rfl, Option.some.inj same⟩

end Results

end CausalAttention
