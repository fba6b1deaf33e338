import CausalAttention.Proofs.Config.Layout
import CausalAttention.Proofs.Config.Reload
import CausalAttention.Proofs.Config.UnknownKinds

/-!
Which arguments are accepted, and for what the others are refused. Arguments of the documented types
have to obey eight rules. The rules are looked at in a fixed order, and the first one that is
violated decides the failure.
-/

set_option autoImplicit false

namespace CausalAttention

structure NamedRun where
  pattern : List String
  repetitions : Int

def NamedRun.toRun (named : NamedRun) : PatternRun :=
  ⟨named.pattern.map .text, named.repetitions⟩

/-- Arguments with integers for the sizes and doubles for the rates. The layout may be missing. -/
structure TypedArguments where
  hiddenSize : Int
  heads : Int
  layerCount : Int
  layout : Option (List NamedRun)
  windowSize : Int
  maxPositions : Int
  attentionDropout : Float
  outputDropout : Float
  extras : List (String × Setting) := []

namespace TypedArguments

def toArguments (typed : TypedArguments) : ConfigArguments :=
  { hiddenSize := .int typed.hiddenSize
    heads := .int typed.heads
    layerCount := .int typed.layerCount
    layout := match typed.layout with
      | none => .null
      | some runs => .list (runs.map fun named => named.toRun.toSetting)
    windowSize := .int typed.windowSize
    maxPositions := .int typed.maxPositions
    attentionDropout := .float typed.attentionDropout
    outputDropout := .float typed.outputDropout
    extras := typed.extras }

def runs (typed : TypedArguments) : List NamedRun :=
  typed.layout.getD [⟨["global", "local"], typed.layerCount / 2⟩]

def described (typed : TypedArguments) : Int :=
  (typed.runs.map fun named => max named.repetitions 0 * (named.pattern.length : Int)).sum

/-- A name that stands in a pattern which is repeated. -/
def Uses (typed : TypedArguments) (name : String) : Prop :=
  ∃ named ∈ typed.runs, 0 < named.repetitions ∧ name ∈ named.pattern

end TypedArguments

inductive Rule where
  | heads
  | divisible
  | window
  | positions
  | attentionRate
  | outputRate
  | layerCount
  | knownKinds
deriving DecidableEq

namespace Rule

def inOrder : List Rule :=
  [heads, divisible, window, positions, attentionRate, outputRate, layerCount, knownKinds]

def Holds (typed : TypedArguments) : Rule → Prop
  | heads => 1 ≤ typed.heads
  | divisible => typed.heads ∣ typed.hiddenSize
  | window => 1 ≤ typed.windowSize
  | positions => 1 ≤ typed.maxPositions
  | attentionRate => Setting.IsRate (.float typed.attentionDropout)
  | outputRate => Setting.IsRate (.float typed.outputDropout)
  | layerCount => typed.described = typed.layerCount
  | knownKinds => ∀ name, typed.Uses name → name = "global" ∨ name = "local"

/-- What the violation of a rule is reported as. Unknown kinds are listed once each, in order. -/
def Reports (typed : TypedArguments) : Rule → Failure → Prop
  | heads, failure => failure = .tooFewHeads (.int typed.heads)
  | divisible, failure =>
      failure = .indivisibleHiddenSize (.int typed.hiddenSize) (.int typed.heads)
  | window, failure => failure = .windowTooSmall (.int typed.windowSize)
  | positions, failure => failure = .tooFewPositions (.int typed.maxPositions)
  | attentionRate, failure =>
      failure = .dropoutOutOfRange "attention_dropout" (.float typed.attentionDropout)
  | outputRate, failure =>
      failure = .dropoutOutOfRange "resid_dropout" (.float typed.outputDropout)
  | layerCount, failure =>
      failure = .layerCountMismatch typed.described.toNat (.int typed.layerCount)
  | knownKinds, failure => ∃ unknown : List String, unknown.Pairwise (· < ·) ∧
      (∀ name, name ∈ unknown ↔ typed.Uses name ∧ name ≠ "global" ∧ name ≠ "local") ∧
      failure = .unknownLayerKinds (unknown.map .text)

def check (arguments : ConfigArguments) (kinds : List Setting) : Rule → Except Failure Unit
  | heads => requirePositive arguments.heads (.tooFewHeads arguments.heads)
  | divisible => arguments.requireDivisible
  | window => requirePositive arguments.windowSize (.windowTooSmall arguments.windowSize)
  | positions => requirePositive arguments.maxPositions (.tooFewPositions arguments.maxPositions)
  | attentionRate =>
      ConfigArguments.requireRate "attention_dropout" arguments.attentionDropout
  | outputRate => ConfigArguments.requireRate "resid_dropout" arguments.outputDropout
  | layerCount => arguments.requireLayerCount kinds
  | knownKinds => requireKnownKinds kinds

end Rule

/-! ### Checks one after the other -/

section Checks

variable {β : Type} {check : β → Except Failure Unit} {first : β} {items rest : List β}

theorem forM_cons_of_ok (passed : check first = .ok ()) :
    forM (first :: rest) check = forM rest check := by
  rw [List.forM_cons, passed]
  rfl

theorem forM_cons_of_error {failure : Failure} (failed : check first = .error failure) :
    forM (first :: rest) check = .error failure := by
  rw [List.forM_cons, failed]
  rfl

theorem forM_eq_ok : forM items check = .ok () ↔ ∀ item ∈ items, check item = .ok () := by
  induction items with
  | nil => simp [pure, Except.pure]
  | cons first rest ih =>
      rw [List.forall_mem_cons, ← ih]
      cases checked : check first with
      | ok _ => simp [forM_cons_of_ok checked]
      | error failure => simp [forM_cons_of_error checked]

/-- Checks fail with the failure of the first one that fails. -/
theorem forM_eq_error {failure : Failure} :
    forM items check = .error failure ↔
      ∃ before item after, items = before ++ item :: after ∧
        (∀ earlier ∈ before, check earlier = .ok ()) ∧ check item = .error failure := by
  induction items with
  | nil => simp [pure, Except.pure]
  | cons first rest ih =>
      cases checked : check first with
      | ok _ =>
          rw [forM_cons_of_ok checked, ih]
          constructor
          · rintro ⟨before, item, after, rfl, passed, failed⟩
            exact ⟨first :: before, item, after, rfl,
              List.forall_mem_cons.mpr ⟨checked, passed⟩, failed⟩
          · rintro ⟨before, item, after, split, passed, failed⟩
            cases before with
            | nil =>
                cases split
                cases checked.symm.trans failed
            | cons other before =>
                cases split
                exact ⟨before, item, after, rfl, (List.forall_mem_cons.mp passed).2, failed⟩
      | error other =>
          rw [forM_cons_of_error checked]
          constructor
          · intro same
            cases same
            exact ⟨[], first, rest, rfl, List.forall_mem_nil _, checked⟩
          · rintro ⟨before, item, after, split, passed, failed⟩
            cases before with
            | nil =>
                cases split
                exact checked.symm.trans failed
            | cons second before =>
                cases split
                cases checked.symm.trans (List.forall_mem_cons.mp passed).1

end Checks

section Results

variable {β : Type} {checks : Except Failure Unit} {made : β}

theorem exists_of_then_return : (∃ result, (do checks; return made) = .ok result) ↔
    checks = .ok () := by
  cases checks with
  | ok _ => simp [bind, Except.bind, pure, Except.pure]
  | error failure => simp [bind, Except.bind]

theorem then_return_eq_error {failure : Failure} :
    (do checks; return made) = .error failure ↔ checks = .error failure := by
  cases checks with
  | ok _ => simp [bind, Except.bind, pure, Except.pure]
  | error other => simp [bind, Except.bind]

end Results

theorem Config.ofArguments_eq_checks {arguments : ConfigArguments} {layout : Setting}
    {kinds : List Setting} (laidOut : arguments.layoutOrDefault = .ok layout)
    (expanded : expandLayout layout = .ok kinds) :
    Config.ofArguments arguments = (do
      forM Rule.inOrder (Rule.check arguments kinds)
      return arguments.stored layout kinds) := by
  have goesOn {β γ : Type} (value : β) (next : β → Except Failure γ) :
      (Except.ok value >>= next) = next value := rfl
  unfold Config.ofArguments
  simp only [laidOut, expanded, goesOn, Rule.inOrder, List.forM_cons, List.forM_nil, Rule.check,
    bind_assoc, pure_bind]
  rfl

/-- A check that decides a rule: it passes when the rule holds, and reports the violation if not. -/
structure Decides (check : Except Failure Unit) (holds : Prop) (reports : Failure → Prop) :
    Prop where
  passes : check = .ok () ↔ holds
  fails : ∀ failure, check = .error failure ↔ ¬holds ∧ reports failure

theorem decides_require {condition : Bool} {failure : Failure} {holds : Prop}
    {reports : Failure → Prop} (same : condition = true ↔ holds)
    (reported : ∀ other, ¬holds → (reports other ↔ other = failure)) :
    Decides (require condition failure) holds reports := by
  constructor
  case passes => rw [require_eq_ok, same]
  case fails =>
    intro other
    cases condition with
    | true =>
        have kept : holds := same.mp rfl
        simp [require, kept]
    | false =>
        have violated : ¬holds := fun kept => Bool.noConfusion (same.mpr kept)
        rw [reported other violated]
        simp [require, violated, eq_comm]

theorem decides_requirePositive (number : Int) (failure : Failure) :
    Decides (requirePositive (.int number) failure) (1 ≤ number) (· = failure) := by
  have asked : requirePositive (.int number) failure = require (decide (1 ≤ number)) failure := by
    rw [requirePositive_int]
    by_cases positive : 1 ≤ number
    · rw [if_pos positive, decide_eq_true positive]
      rfl
    · rw [if_neg positive, decide_eq_false positive]
      rfl
  rw [asked]
  exact decides_require decide_eq_true_iff fun other _ => Iff.rfl

theorem requireRate_eq_ok {name : String} {rate : Setting} :
    ConfigArguments.requireRate name rate = .ok () ↔ Setting.IsRate rate := by
  constructor
  · exact Setting.isRate_of_required
  · rintro ⟨number, read, place, found, nonnegative, belowOne⟩
    have atLeast : (DyadicValue.ofInteger 0).isAtMost number = true := by
      rw [DyadicValue.isAtMost_iff, DyadicValue.place?_ofInteger, found]
      exact ⟨_, rfl, _, rfl, WithBot.coe_le_coe.mpr (WithTop.coe_le_coe.mpr (by simpa))⟩
    have below : number.isLess (.ofInteger 1) = true := by
      rw [DyadicValue.isLess_iff, DyadicValue.place?_ofInteger, found]
      exact ⟨_, rfl, _, rfl, WithBot.coe_lt_coe.mpr (WithTop.coe_lt_coe.mpr (by simpa))⟩
    unfold ConfigArguments.requireRate
    rw [Setting.number_eq_ok.mpr read]
    exact require_eq_ok.mpr (Bool.and_eq_true_iff.mpr ⟨atLeast, below⟩)

theorem decides_requireRate (name : String) (rate : Float) :
    Decides (ConfigArguments.requireRate name (.float rate)) (Setting.IsRate (.float rate))
      (· = .dropoutOutOfRange name (.float rate)) := by
  have asked : ConfigArguments.requireRate name (.float rate) =
      require ((DyadicValue.ofInteger 0).isAtMost (.ofFloat rate) &&
        (DyadicValue.ofFloat rate).isLess (.ofInteger 1))
        (.dropoutOutOfRange name (.float rate)) := rfl
  have same : ConfigArguments.requireRate name (.float rate) = .ok () ↔
      Setting.IsRate (.float rate) := requireRate_eq_ok
  rw [asked] at same ⊢
  exact decides_require (require_eq_ok.symm.trans same) fun other _ => Iff.rfl

namespace TypedArguments

variable (typed : TypedArguments)

def names : List String :=
  typed.runs.flatMap fun named =>
    (List.replicate named.repetitions.toNat named.pattern).flatten

theorem mem_names {name : String} : name ∈ typed.names ↔ typed.Uses name := by
  unfold names Uses
  rw [List.mem_flatMap]
  apply exists_congr
  intro named
  rw [List.mem_flatten]
  constructor
  · rintro ⟨listed, pattern, repeated, member⟩
    obtain ⟨some, rfl⟩ := List.mem_replicate.mp repeated
    exact ⟨listed, by omega, member⟩
  · rintro ⟨listed, positive, member⟩
    exact ⟨listed, named.pattern, List.mem_replicate.mpr ⟨by omega, rfl⟩, member⟩

theorem length_names : (typed.names.length : Int) = typed.described := by
  unfold names described
  induction typed.runs with
  | nil => rfl
  | cons named rest ih =>
      have repeated :
          ((List.replicate named.repetitions.toNat named.pattern).flatten.length : Int) =
            max named.repetitions 0 * (named.pattern.length : Int) := by
        rw [← Int.toNat_eq_max, ← Int.natCast_mul]
        simp
      rw [List.flatMap_cons, List.length_append, Int.natCast_add, repeated, ih, List.map_cons,
        List.sum_cons]

theorem layoutOrDefault_toArguments :
    typed.toArguments.layoutOrDefault =
      .ok (.list ((typed.runs.map NamedRun.toRun).map PatternRun.toSetting)) := by
  cases given : typed.layout with
  | none =>
      unfold ConfigArguments.layoutOrDefault toArguments runs
      rw [given]
      rfl
  | some runs =>
      unfold ConfigArguments.layoutOrDefault toArguments TypedArguments.runs
      rw [given, Option.getD_some, List.map_map]
      rfl

theorem expandLayout_runs :
    expandLayout (.list ((typed.runs.map NamedRun.toRun).map PatternRun.toSetting)) =
      .ok (typed.names.map .text) := by
  rw [CausalAttention.expandLayout_runs, List.flatMap_map]
  unfold names
  rw [List.map_flatMap]
  congr 2
  funext named
  rw [PatternRun.layers_eq_flatten, List.map_flatten, List.map_replicate]
  rfl

end TypedArguments

theorem Rule.decides (typed : TypedArguments) (rule : Rule) :
    Decides (rule.check typed.toArguments (typed.names.map .text)) (rule.Holds typed)
      (rule.Reports typed) := by
  cases rule with
  | heads => exact decides_requirePositive typed.heads _
  | divisible =>
      have asked : check typed.toArguments (typed.names.map .text) divisible =
          require (decide (typed.hiddenSize % typed.heads = 0))
            (.indivisibleHiddenSize (.int typed.hiddenSize) (.int typed.heads)) := rfl
      rw [asked]
      refine decides_require ?_ fun other _ => Iff.rfl
      rw [decide_eq_true_iff]
      exact Int.dvd_iff_emod_eq_zero.symm
  | window => exact decides_requirePositive typed.windowSize _
  | positions => exact decides_requirePositive typed.maxPositions _
  | attentionRate => exact decides_requireRate _ typed.attentionDropout
  | outputRate => exact decides_requireRate _ typed.outputDropout
  | layerCount =>
      have counted := typed.length_names
      have asked : check typed.toArguments (typed.names.map .text) layerCount =
          require (decide (typed.described = typed.layerCount))
            (.layerCountMismatch typed.described.toNat (.int typed.layerCount)) := by
        rw [← counted, Int.toNat_natCast, ← List.length_map (f := (Value.text : String → Setting)),
          ← DyadicValue.isEqual_ofInteger]
        rfl
      rw [asked]
      exact decides_require decide_eq_true_iff fun other _ => Iff.rfl
  | knownKinds =>
      obtain ⟨unknown, ordered, members, asked⟩ := requireKnownKinds_texts typed.names
      simp only [typed.mem_names] at members
      change Decides (requireKnownKinds (typed.names.map .text)) _ _
      rw [asked]
      refine decides_require ?_ ?_
      · rw [List.isEmpty_iff, List.eq_nil_iff_forall_not_mem]
        constructor
        · intro none name used
          by_contra other
          rw [not_or] at other
          exact none name ((members name).mpr ⟨used, other⟩)
        · intro known name listed
          obtain ⟨used, notGlobal, notLocal⟩ := (members name).mp listed
          exact (known name used).elim notGlobal notLocal
      · intro other _
        constructor
        · rintro ⟨others, othersOrdered, othersMembers, rfl⟩
          have same : others = unknown := othersOrdered.eq_of_mem_iff ordered fun name =>
            (othersMembers name).trans (members name).symm
          rw [same]
        · rintro rfl
          exact ⟨unknown, ordered, members, rfl⟩

theorem Rule.mem_inOrder (rule : Rule) : rule ∈ inOrder := by
  cases rule <;> decide

/-- Arguments of the documented types are accepted exactly when they obey all rules. Otherwise the
failure is that of the first rule which they violate. Without a layout the rule for the number of
layers asks for an even number that is not negative. -/
theorem Config.ofArguments_decides (typed : TypedArguments) :
    ((∃ config, ofArguments typed.toArguments = .ok config) ↔ ∀ rule, Rule.Holds typed rule) ∧
    (∀ failure, ofArguments typed.toArguments = .error failure ↔
      ∃ before rule after, Rule.inOrder = before ++ rule :: after ∧
        (∀ earlier ∈ before, Rule.Holds typed earlier) ∧ ¬Rule.Holds typed rule ∧
        Rule.Reports typed rule failure) ∧
    (typed.layout = none →
      (Rule.Holds typed .layerCount ↔ 2 ∣ typed.layerCount ∧ 0 ≤ typed.layerCount)) := by
  have decides := Rule.decides typed
  rw [ofArguments_eq_checks typed.layoutOrDefault_toArguments typed.expandLayout_runs]
  refine ⟨?_, ?_, ?_⟩
  · rw [exists_of_then_return, forM_eq_ok]
    constructor
    · intro passed rule
      exact (decides rule).passes.mp (passed rule rule.mem_inOrder)
    · intro holds rule _
      exact (decides rule).passes.mpr (holds rule)
  · intro failure
    rw [then_return_eq_error, forM_eq_error]
    simp only [(decides _).passes, (decides _).fails]
  · intro missing
    change typed.described = typed.layerCount ↔ _
    have halves : typed.described = max (typed.layerCount / 2) 0 * 2 := by
      unfold TypedArguments.described TypedArguments.runs
      rw [missing, Option.getD_none, List.map_singleton, List.sum_singleton]
      rfl
    rw [halves]
    omega

/-- An unknown name in a pattern that is not repeated does no harm. Without that layout, two layers
are described and three are asked for. -/
theorem Config.ofArguments_decides_three_layers :
    let typed : TypedArguments :=
      { hiddenSize := 4, heads := 2, layerCount := 3, windowSize := 1, maxPositions := 1
        layout := some [⟨["other"], 0⟩, ⟨["local"], 3⟩]
        attentionDropout := 0.5, outputDropout := 0.0 }
    (∀ rule, Rule.Holds typed rule) ∧
      ofArguments { typed with layout := none }.toArguments =
        .error (.layerCountMismatch 2 (.int 3)) := by
  intro typed
  have succeeds : (ofArguments typed.toArguments).toOption.isSome = true := by decide +kernel
  have accepted : ∃ config, ofArguments typed.toArguments = .ok config := by
    cases made : ofArguments typed.toArguments with
    | ok config => exact ⟨config, rfl⟩
    | error failure =>
        rw [made] at succeeds
        contradiction
  have holds := (ofArguments_decides typed).1.mp accepted
  obtain ⟨_, refused, odd⟩ := ofArguments_decides { typed with layout := none }
  refine ⟨holds, (refused _).mpr ?_⟩
  refine ⟨[.heads, .divisible, .window, .positions, .attentionRate, .outputRate], .layerCount,
    [.knownKinds], rfl, ?_, ?_, rfl⟩
  · intro earlier member
    simp only [List.mem_cons, List.not_mem_nil, or_false] at member
    rcases member with rfl | rfl | rfl | rfl | rfl | rfl
    exacts [holds .heads, holds .divisible, holds .window, holds .positions,
      holds .attentionRate, holds .outputRate]
  · intro counted
    have even : (2 : Int) ∣ 3 := ((odd rfl).mp counted).1
    contradiction

end CausalAttention
