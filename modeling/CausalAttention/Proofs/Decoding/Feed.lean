import CausalAttention.Layer.Run
import CausalAttention.Proofs.Config.Acceptance
import CausalAttention.Proofs.Tensor.Slice
import Mathlib.Data.List.Forall2

/-!
Feeding a sequence to a layer step by step. Every step takes as many positions as it asks for, with
masks of its own and with the cache that the step before it left. A run succeeds when all of its
steps do, and it ends with the cache of the last one.
-/

set_option autoImplicit false

namespace CausalAttention

structure Step (α : Type) where
  size : Nat
  attentionMask : Option (TypedTensor α) := none
  headMask : Option (TypedTensor α) := none

namespace Step

variable {α : Type}

def total : List (Step α) → Nat
  | [] => 0
  | step :: steps => step.size + total steps

@[simp] theorem total_cons (step : Step α) (steps : List (Step α)) :
    total (step :: steps) = step.size + total steps := rfl

/-- Steps with the positions before them. -/
def placed (start : Nat) : List (Step α) → List (Nat × Step α)
  | [] => []
  | step :: steps => (start, step) :: placed (start + step.size) steps

theorem placed_within {start : Nat} {steps : List (Step α)} {place : Nat × Step α}
    (member : place ∈ placed start steps) :
    start ≤ place.1 ∧ place.1 + place.2.size ≤ start + total steps := by
  induction steps generalizing start with
  | nil => contradiction
  | cons step steps ih =>
      rw [total_cons]
      rcases List.mem_cons.mp member with rfl | later
      · constructor
        · exact Nat.le_refl start
        · exact Nat.add_le_add_left (Nat.le_add_right step.size _) start
      · rcases ih later with ⟨after, within⟩
        constructor <;> omega

variable [Arithmetic α]

def input (step : Step α) (hidden : TypedTensor α) (past : Option (Cache α)) (start : Nat) :
    LayerInput α :=
  { hidden := hidden.slice 1 start step.size
    past
    attentionMask := step.attentionMask
    headMask := step.headMask
    useCache := true }

end Step

namespace Layer

variable {α : Type} [Arithmetic α]

/-- Runs a layer step by step on a sequence, and answers with the answers of all steps and with
the cache that the last one left. -/
def feed (layer : Layer α) (hidden : TypedTensor α) (past : Option (Cache α)) (start : Nat) :
    List (Step α) → Except Failure (List (LayerOutput α) × Option (Cache α))
  | [] => .ok ([], past)
  | step :: steps => do
      let answer ← layer.run (step.input hidden past start)
      let (answers, last) ← feed layer hidden answer.present (start + step.size) steps
      return (answer :: answers, last)

variable {layer : Layer α} {hidden : TypedTensor α} {invariant : Nat → Option (Cache α) → Prop}
  {start : Nat} {past : Option (Cache α)} {steps : List (Step α)}

/-- When every step succeeds on a cache with the invariant, answers well and keeps the invariant,
the run succeeds and all of its answers are good. -/
theorem feed_succeeds {good : Nat × Step α → LayerOutput α → Prop}
    (step : ∀ place ∈ Step.placed start steps, ∀ past, invariant place.1 past →
      ∃ answer, layer.run (place.2.input hidden past place.1) = .ok answer ∧ good place answer ∧
        invariant (place.1 + place.2.size) answer.present)
    (holds : invariant start past) :
    ∃ answers last, layer.feed hidden past start steps = .ok (answers, last) ∧
      List.Forall₂ good (Step.placed start steps) answers := by
  induction steps generalizing start past with
  | nil => exact ⟨[], past, rfl, List.Forall₂.nil⟩
  | cons first steps ih =>
      rcases step _ List.mem_cons_self past holds with ⟨answer, ran, answered, next⟩
      obtain ⟨answers, last, fed, answeredAll⟩ :=
        ih (fun place member => step place (List.mem_cons_of_mem _ member)) next
      refine ⟨answer :: answers, last, ?_, List.Forall₂.cons answered answeredAll⟩
      simp only [feed, ran, fed, bind, Except.bind, pure, Except.pure]

end Layer

end CausalAttention
