import CausalAttention.Proofs.Config.Rules

/-!
Configurations that change. Assignments check nothing, so a configuration can become inconsistent;
making it anew from its stored settings checks it and works out its layers again. What comes out is
consistent, and is made anew into itself.
-/

set_option autoImplicit false

namespace CausalAttention

namespace Config

/-- A change of a configuration: one field is assigned, or all is made anew. -/
inductive Edit where
  | assign (name : String) (value : Setting)
  | reload

/-- A configuration that cannot be made anew stays as it was. -/
def edit (config : Config) : Edit → Config
  | .assign name value => config.assign name value
  | .reload =>
      match config.reload with
      | .ok reloaded => reloaded
      | .error _ => config

def Edit.LeavesModel : Edit → Prop
  | .assign name _ => name ≠ modelField
  | .reload => True

def KeepsModel (config : Config) : Prop :=
  ∀ entry ∈ config.extras, entry.1 ≠ modelField

end Config

namespace ConfigArguments

theorem layoutOrDefault_of_ne_null {arguments : ConfigArguments}
    (given : arguments.layout ≠ .null) :
    arguments.layoutOrDefault = .ok arguments.layout := by
  unfold layoutOrDefault
  split
  · contradiction
  · rfl

theorem layoutOrDefault_of_null {arguments : ConfigArguments} {layout : Setting}
    (missing : arguments.layout = .null) (laidOut : arguments.layoutOrDefault = .ok layout) :
    ∃ repetitions, Setting.half arguments.layerCount = .ok repetitions ∧
      layout = .list [.list [.list Failure.knownKinds, repetitions]] := by
  unfold layoutOrDefault at laidOut
  rw [missing] at laidOut
  rcases exists_of_bind_ok laidOut with ⟨repetitions, halved, made⟩
  cases made
  exact ⟨repetitions, halved, rfl⟩

theorem layout_ne_null {arguments : ConfigArguments} {layout : Setting}
    (laidOut : arguments.layoutOrDefault = .ok layout) : layout ≠ .null := by
  by_cases missing : arguments.layout = .null
  · rcases layoutOrDefault_of_null missing laidOut with ⟨repetitions, _, rfl⟩
    intro same
    contradiction
  · rw [layoutOrDefault_of_ne_null missing] at laidOut
    cases laidOut
    exact missing

theorem Passes.accepted {arguments : ConfigArguments} {layout : Setting} {kinds : List Setting}
    (passes : arguments.Passes layout kinds) :
    Config.ofArguments arguments = .ok (arguments.stored layout kinds) := by
  unfold Config.ofArguments
  rw [passes.laidOut, passes.heads, passes.divisible, passes.window, passes.positions,
    passes.attentionRate, passes.outputRate]
  change (expandLayout layout >>= _) = _
  rw [passes.expanded]
  change (arguments.requireLayerCount kinds >>= _) = _
  rw [passes.counted, passes.known]
  rfl

theorem Passes.again {arguments : ConfigArguments} {layout : Setting} {kinds : List Setting}
    (passes : arguments.Passes layout kinds) (heads : arguments.headsAlias = none)
    (layerCount : arguments.layerCountAlias = none) :
    (arguments.stored layout kinds).arguments.Passes layout kinds := by
  unfold stored Config.arguments
  rw [heads, layerCount]
  exact { passes with
    laidOut := layoutOrDefault_of_ne_null (layout_ne_null passes.laidOut) }

end ConfigArguments

namespace Config

theorem KeepsModel.extras {config : Config} (keeps : config.KeepsModel) :
    config.arguments.extras = config.extras := by
  apply List.filter_eq_self.mpr
  intro entry member
  exact decide_eq_true (keeps entry member)

theorem KeepsModel.stored {config : Config} (keeps : config.KeepsModel) (layout : Setting)
    (kinds : List Setting) :
    config.arguments.stored layout kinds = { config with layout, layers := .list kinds } := by
  unfold ConfigArguments.stored
  rw [keeps.extras]
  rfl

theorem reload_stored {arguments : ConfigArguments} {layout : Setting} {kinds : List Setting}
    (passes : arguments.Passes layout kinds) (heads : arguments.headsAlias = none)
    (layerCount : arguments.layerCountAlias = none)
    (keeps : (arguments.stored layout kinds).KeepsModel) :
    (arguments.stored layout kinds).reload = .ok (arguments.stored layout kinds) := by
  have again := (passes.again heads layerCount).accepted
  rw [keeps.stored] at again
  exact again

/-- What a configuration is made into anew: its own settings, with the default layout where it had
none, and the layers that the layout expands to. -/
structure Restores (config reloaded : Config) (layout : Setting) (kinds : List Setting) : Prop where
  stored : reloaded = { config with layout, layers := .list kinds }
  kept : config.layout ≠ .null → layout = config.layout
  repaired : config.layout = .null → ∃ repetitions,
    Setting.half config.layerCount = .ok repetitions ∧
      layout = .list [.list [.list Failure.knownKinds, repetitions]]
  consistent : reloaded.Consistent kinds
  stable : reloaded.reload = .ok reloaded

theorem KeepsModel.restores {config reloaded : Config} (keeps : config.KeepsModel)
    (made : config.reload = .ok reloaded) :
    ∃ layout kinds, config.Restores reloaded layout kinds := by
  rcases passes_of_accepted made with ⟨layout, kinds, passes, rfl⟩
  have stored := keeps.stored layout kinds
  have reloadedKeeps : (config.arguments.stored layout kinds).KeepsModel := by
    rw [stored]
    exact keeps
  refine ⟨layout, kinds, {
    stored
    kept := ?_
    repaired := ?_
    consistent := passes.consistent rfl rfl
    stable := reload_stored passes rfl rfl reloadedKeeps }⟩
  · intro given
    exact Except.ok.inj (passes.laidOut.symm.trans
      (ConfigArguments.layoutOrDefault_of_ne_null given))
  · intro missing
    exact ConfigArguments.layoutOrDefault_of_null missing passes.laidOut

theorem assignNamed_name {name : String} {value : Setting} :
    ∀ {entries : List (String × Setting)} {entry : String × Setting},
      entry ∈ assignNamed name value entries → entry.1 = name ∨ entry ∈ entries
  | [], _, member => by
      rcases List.mem_singleton.mp member with rfl
      exact Or.inl rfl
  | first :: rest, entry, member => by
      unfold assignNamed at member
      split at member
      · rcases List.mem_cons.mp member with rfl | later
        · exact Or.inl rfl
        · exact Or.inr (List.mem_cons_of_mem _ later)
      · rcases List.mem_cons.mp member with rfl | later
        · exact Or.inr List.mem_cons_self
        · rcases assignNamed_name later with same | old
          · exact Or.inl same
          · exact Or.inr (List.mem_cons_of_mem _ old)

theorem KeepsModel.assign {config : Config} (keeps : config.KeepsModel) {name : String}
    (other : name ≠ modelField) (value : Setting) : (config.assign name value).KeepsModel := by
  unfold Config.assign
  split
  -- A named field leaves the further ones alone; what is left is any other name.
  all_goals try exact keeps
  intro entry member
  rcases assignNamed_name member with same | old
  · rw [same]
    exact other
  · exact keeps entry old

theorem KeepsModel.edit {config : Config} (keeps : config.KeepsModel) {change : Edit}
    (leaves : change.LeavesModel) : (config.edit change).KeepsModel := by
  cases change with
  | assign name value => exact keeps.assign leaves value
  | reload =>
      unfold Config.edit
      cases made : config.reload with
      | error failure => exact keeps
      | ok reloaded =>
          rcases keeps.restores made with ⟨layout, kinds, restores⟩
          rw [restores.stored]
          exact keeps

theorem KeepsModel.edits {config : Config} (keeps : config.KeepsModel) {edits : List Edit}
    (leave : ∀ change ∈ edits, change.LeavesModel) :
    (edits.foldl Config.edit config).KeepsModel := by
  induction edits generalizing config with
  | nil => exact keeps
  | cons first rest ih =>
      exact ih (keeps.edit (leave first List.mem_cons_self)) fun change member =>
        leave change (List.mem_cons_of_mem _ member)

theorem foldl_reload {config : Config} (stable : config.reload = .ok config) {edits : List Edit}
    (reloads : ∀ change ∈ edits, change = .reload) : edits.foldl edit config = config := by
  induction edits with
  | nil => rfl
  | cons first rest ih =>
      have unchanged : config.edit first = config := by
        rw [reloads first List.mem_cons_self]
        unfold edit
        rw [stable]
      rw [List.foldl_cons, unchanged]
      exact ih fun change member => reloads change (List.mem_cons_of_mem _ member)

/-- However a configuration was changed since it was accepted, making it anew repairs it. One that
was accepted without aliases and never assigned to is made anew into itself. -/
theorem reload_restores {arguments : ConfigArguments} {made : Config}
    (accepted : ofArguments arguments = .ok made)
    (modelKept : ∀ entry ∈ arguments.extras, entry.1 ≠ modelField) {edits : List Edit}
    (leave : ∀ change ∈ edits, change.LeavesModel) :
    (∀ reloaded, (edits.foldl edit made).reload = .ok reloaded →
      ∃ layout kinds, (edits.foldl edit made).Restores reloaded layout kinds) ∧
    (arguments.headsAlias = none → arguments.layerCountAlias = none →
      (∀ change ∈ edits, change = .reload) →
      edits.foldl edit made = made ∧ made.reload = .ok made) := by
  rcases passes_of_accepted accepted with ⟨layout, kinds, passes, rfl⟩
  have keeps : (arguments.stored layout kinds).KeepsModel := modelKept
  constructor
  · intro reloaded remade
    exact (keeps.edits leave).restores remade
  · intro heads layerCount reloads
    have stable := reload_stored passes heads layerCount keeps
    exact ⟨foldl_reload stable reloads, stable⟩

/-- Twelve layers become four, without a layout and with layers that belong to none. Made anew, they
are two of each kind. -/
theorem reload_restores_four_layers :
    let arguments : ConfigArguments := { attentionDropout := .int 0, outputDropout := .int 0 }
    let edits : List Edit :=
      [.assign "attention_types" .null, .assign "num_hidden_layers" (.int 4), .assign "x_tag" .null,
        .assign "attention_layers" (.text "none")]
    ∃ made reloaded, ofArguments arguments = .ok made ∧
      (edits.foldl edit made).reload = .ok reloaded ∧
      reloaded.layers = .list [.text "global", .text "local", .text "global", .text "local"] ∧
      reloaded.reload = .ok reloaded ∧ made.reload = .ok made := by
  intro arguments edits
  obtain ⟨made, accepted⟩ : ∃ made, ofArguments arguments = .ok made := ⟨_, rfl⟩
  have modelKept : ∀ entry ∈ arguments.extras, entry.1 ≠ modelField := by
    intro entry member
    contradiction
  have leave : ∀ change ∈ edits, change.LeavesModel := by
    intro change member
    simp only [edits, List.mem_cons, List.not_mem_nil, or_false] at member
    rcases member with rfl | rfl | rfl | rfl
    all_goals
      unfold Edit.LeavesModel
      decide
  have changed := (reload_restores accepted modelKept leave).1
  have noEdits (property : Edit → Prop) : ∀ change ∈ ([] : List Edit), property change :=
    fun change member => absurd member List.not_mem_nil
  have unchanged := (reload_restores accepted modelKept (noEdits Edit.LeavesModel)).2 rfl rfl
    (noEdits fun change => change = .reload)
  obtain ⟨reloaded, remade⟩ : ∃ reloaded, (edits.foldl edit made).reload = .ok reloaded := by
    cases accepted
    exact ⟨_, rfl⟩
  rcases changed reloaded remade with ⟨layout, kinds, restores⟩
  refine ⟨made, reloaded, accepted, remade, ?_, restores.stable, unchanged.2⟩
  cases accepted
  cases remade
  rfl

end Config

end CausalAttention
