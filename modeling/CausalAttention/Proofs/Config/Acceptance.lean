import CausalAttention.Layer.OfConfig

/-!
Accepted configurations. A configuration is accepted when all of its checks pass, one after the
other. Its layers are then as many as asked for, and each of them is of a known kind.
-/

set_option autoImplicit false

namespace CausalAttention

/-- Arguments that pass all checks, with the layout and the kinds of layers that it expands to. -/
structure ConfigArguments.Passes (arguments : ConfigArguments) (layout : Setting)
    (kinds : List Setting) : Prop where
  laidOut : arguments.layoutOrDefault = .ok layout
  heads : requirePositive arguments.heads (.tooFewHeads arguments.heads) = .ok ()
  divisible : arguments.requireDivisible = .ok ()
  window : requirePositive arguments.windowSize (.windowTooSmall arguments.windowSize) = .ok ()
  positions : requirePositive arguments.maxPositions (.tooFewPositions arguments.maxPositions) =
    .ok ()
  attentionRate : ConfigArguments.requireRate "attention_dropout" arguments.attentionDropout =
    .ok ()
  outputRate : ConfigArguments.requireRate "resid_dropout" arguments.outputDropout = .ok ()
  expanded : expandLayout layout = .ok kinds
  counted : arguments.requireLayerCount kinds = .ok ()
  known : requireKnownKinds kinds = .ok ()

def ConfigArguments.stored (arguments : ConfigArguments) (layout : Setting)
    (kinds : List Setting) : Config :=
  { hiddenSize := arguments.hiddenSize
    heads := arguments.headsAlias.getD arguments.heads
    layerCount := arguments.layerCountAlias.getD arguments.layerCount
    layout
    layers := .list kinds
    windowSize := arguments.windowSize
    maxPositions := arguments.maxPositions
    attentionDropout := arguments.attentionDropout
    outputDropout := arguments.outputDropout
    extras := arguments.extras }

theorem Config.passes_of_accepted {arguments : ConfigArguments} {config : Config}
    (accepted : ofArguments arguments = .ok config) :
    ∃ layout kinds, arguments.Passes layout kinds ∧ config = arguments.stored layout kinds := by
  unfold ofArguments at accepted
  rcases exists_of_bind_ok accepted with ⟨layout, layoutMade, accepted⟩
  rcases exists_of_bind_ok accepted with ⟨_, heads, accepted⟩
  rcases exists_of_bind_ok accepted with ⟨_, divisible, accepted⟩
  rcases exists_of_bind_ok accepted with ⟨_, window, accepted⟩
  rcases exists_of_bind_ok accepted with ⟨_, positions, accepted⟩
  rcases exists_of_bind_ok accepted with ⟨_, attentionRate, accepted⟩
  rcases exists_of_bind_ok accepted with ⟨_, outputRate, accepted⟩
  rcases exists_of_bind_ok accepted with ⟨kinds, expanded, accepted⟩
  rcases exists_of_bind_ok accepted with ⟨_, counted, accepted⟩
  rcases exists_of_bind_ok accepted with ⟨_, known, accepted⟩
  cases accepted
  exact ⟨layout, kinds, ⟨layoutMade, heads, divisible, window, positions, attentionRate, outputRate,
    expanded, counted, known⟩, rfl⟩

namespace Setting

theorem eq_nil_of_sort {settings : List Setting} (sorted : sort settings = .ok []) :
    settings = [] := by
  cases settings with
  | nil => rfl
  | cons first rest =>
      cases rest with
      | nil => cases sorted
      | cons second others =>
          simp only [sort] at sorted
          split at sorted
          · have lengths := congrArg List.length (Except.ok.inj sorted)
            rw [List.length_mergeSort] at lengths
            contradiction
          · contradiction

theorem isKnownKind_eq {kind : Setting} (known : isKnownKind kind = true) :
    kind = .text "global" ∨ kind = .text "local" := by
  cases kind with
  | text name =>
      simp only [isKnownKind, Bool.or_eq_true, beq_iff_eq] at known
      rcases known with same | same
      · exact Or.inl (congrArg Value.text same)
      · exact Or.inr (congrArg Value.text same)
  | _ => contradiction

theorem itemAt_of_range {β : Type} {items : List β} {index : Int}
    (atLeast : -(items.length : Int) ≤ index) (below : index < items.length) :
    ∃ item ∈ items, itemAt items index = .ok item := by
  obtain ⟨position, counted, positionBelow⟩ :
      ∃ position : Nat, (if index < 0 then index + items.length else index) = position ∧
        position < items.length := by
    refine ⟨(if index < 0 then index + items.length else index).toNat, ?_, ?_⟩
    · split <;> omega
    · split <;> omega
  refine ⟨items[position], List.getElem_mem positionBelow, ?_⟩
  have nonnegative : ¬(position : Int) < 0 := by omega
  simp only [itemAt, counted, if_neg nonnegative, Int.toNat_natCast,
    List.getElem?_eq_getElem positionBelow]

end Setting

theorem known_of_required {kinds : List Setting} (required : requireKnownKinds kinds = .ok ()) :
    ∀ kind ∈ kinds, kind = .text "global" ∨ kind = .text "local" := by
  unfold requireKnownKinds at required
  split at required
  · contradiction
  · rcases exists_of_bind_ok required with ⟨unknown, sorted, empty⟩
    rw [require_eq_ok, List.isEmpty_iff] at empty
    rw [empty] at sorted
    have none := Setting.eq_nil_of_sort sorted
    intro kind member
    cases known : Setting.isKnownKind kind with
    | true => exact Setting.isKnownKind_eq known
    | false =>
        have remains : kind ∈ kinds.filter fun kind => !Setting.isKnownKind kind :=
          List.mem_filter.mpr ⟨member, by rw [known]; rfl⟩
        cases filtered : kinds.filter fun kind => !Setting.isKnownKind kind with
        | nil =>
            rw [filtered] at remains
            contradiction
        | cons first rest =>
            rw [filtered] at none
            contradiction

theorem ConfigArguments.Passes.length_eq {arguments : ConfigArguments} {layout : Setting}
    {kinds : List Setting} (passes : arguments.Passes layout kinds) {layers : Int}
    (count : arguments.layerCount = .int layers) : (kinds.length : Int) = layers := by
  have counted := passes.counted
  unfold ConfigArguments.requireLayerCount at counted
  rw [count, require_eq_ok] at counted
  change (DyadicValue.ofInteger kinds.length).isEqual (.ofInteger layers) = true at counted
  rw [DyadicValue.isEqual_ofInteger] at counted
  exact of_decide_eq_true counted

/-- Every layer of an accepted configuration has a kind, counted from the front or from the back. -/
theorem LayerKind.ofConfig_of_accepted {arguments : ConfigArguments} {config : Config}
    (accepted : Config.ofArguments arguments = .ok config) {layers index : Int}
    (count : arguments.layerCount = .int layers) (atLeast : -layers ≤ index)
    (below : index < layers) : ∃ kind, ofConfig config (.int index) = .ok kind := by
  rcases Config.passes_of_accepted accepted with ⟨layout, kinds, passes, rfl⟩
  have counted := passes.length_eq count
  rw [← counted] at atLeast below
  rcases Setting.itemAt_of_range atLeast below with ⟨named, member, found⟩
  have part : Setting.partAt (arguments.stored layout kinds).layers (.int index) = .ok named :=
    found
  rcases known_of_required passes.known named member with rfl | rfl
  · refine ⟨.everything, ?_⟩
    simp only [ofConfig, part, bind, Except.bind]
    rfl
  · refine ⟨.window, ?_⟩
    simp only [ofConfig, part, bind, Except.bind]
    rfl

theorem ofArguments_of_mem_presets {preset : String × ConfigArguments}
    (member : preset ∈ presets) : ∃ config, Config.ofArguments preset.2 = .ok config := by
  have all : ∀ preset ∈ presets, (Config.ofArguments preset.2).isOk = true := by decide +kernel
  have accepted := all preset member
  cases made : Config.ofArguments preset.2 with
  | ok config => exact ⟨config, rfl⟩
  | error failure =>
      rw [made] at accepted
      exact absurd accepted Bool.false_ne_true

/-- The presets are those whose names a message offers. -/
theorem Config.exists_ofPreset_iff {name : Setting} :
    (∃ config, ofPreset name = .ok config) ↔ name ∈ Failure.presetNames := by
  rw [presetNames_eq, List.mem_map]
  constructor
  · rintro ⟨config, made⟩
    unfold ofPreset at made
    cases name with
    | text key =>
        cases found : presets.find? fun preset => preset.1 == key with
        | some preset =>
            have named : preset.1 = key := by simpa using List.find?_some found
            exact ⟨preset, List.mem_of_find?_eq_some found, congrArg Value.text named⟩
        | none =>
            simp only [found] at made
            split at made <;> contradiction
    | _ => split at made <;> contradiction
  · rintro ⟨preset, member, rfl⟩
    have offered : (presets.find? fun other => other.1 == preset.1).isSome := by
      rw [List.find?_isSome]
      exact ⟨preset, member, beq_self_eq_true _⟩
    obtain ⟨other, found⟩ := Option.isSome_iff_exists.mp offered
    obtain ⟨config, made⟩ := ofArguments_of_mem_presets (List.mem_of_find?_eq_some found)
    refine ⟨config, ?_⟩
    unfold ofPreset
    simp only [found]
    exact made

end CausalAttention
