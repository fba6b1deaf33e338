import CausalAttention.Proofs.Exact.Arithmetic
import Mathlib.Algebra.BigOperators.Field
import Mathlib.Algebra.Order.BigOperators.Group.Finset

/-!
Rows of scores of which only some weigh anything. Slots that lie far below others have weight
zero, and the weights of the others do not depend on them: they are a function of the visible
slots and their scores alone.
-/

set_option autoImplicit false

namespace CausalAttention.Exact

def greatest (visible : Finset Nat) (score : Nat → ℚ) : ℚ :=
  if some : visible.Nonempty then visible.sup' some score else 0

theorem le_greatest {visible : Finset Nat} (score : Nat → ℚ) {slot : Nat}
    (member : slot ∈ visible) : score slot ≤ greatest visible score := by
  have some : visible.Nonempty := ⟨slot, member⟩
  unfold greatest
  rw [dif_pos some]
  exact Finset.le_sup' score member

theorem exists_greatest {visible : Finset Nat} (score : Nat → ℚ) (some : visible.Nonempty) :
    ∃ slot ∈ visible, score slot = greatest visible score := by
  rcases Finset.exists_mem_eq_sup' some score with ⟨slot, member, attained⟩
  refine ⟨slot, member, ?_⟩
  unfold greatest
  rw [dif_pos some, attained]

theorem greatest_image {visible : Finset Nat} {place : Nat → Nat} {score other : Nat → ℚ}
    (same : ∀ slot ∈ visible, score slot = other (place slot)) :
    greatest visible score = greatest (visible.image place) other := by
  by_cases some : visible.Nonempty
  · apply le_antisymm
    · rcases exists_greatest score some with ⟨slot, member, attained⟩
      rw [← attained, same slot member]
      exact le_greatest other (Finset.mem_image_of_mem place member)
    · rcases exists_greatest other (some.image place) with ⟨image, imageMember, attained⟩
      rcases Finset.mem_image.mp imageMember with ⟨slot, member, shown⟩
      rw [← attained, ← shown, ← same slot member]
      exact le_greatest score member
  · have empty := Finset.not_nonempty_iff_eq_empty.mp some
    rw [empty]
    rfl

variable [Falloff]

def liveShare (visible : Finset Nat) (score : Nat → ℚ) (slot : Nat) : ℚ :=
  Falloff.weight (score slot - greatest visible score) /
    ∑ other ∈ visible, Falloff.weight (score other - greatest visible score)

/-- The mean of values by the weights of the visible slots. -/
def average (visible : Finset Nat) (score value : Nat → ℚ) : ℚ :=
  ∑ slot ∈ visible, liveShare visible score slot * value slot

theorem liveShare_nonneg (visible : Finset Nat) (score : Nat → ℚ) (slot : Nat) :
    0 ≤ liveShare visible score slot :=
  div_nonneg (Falloff.nonnegative _) (Finset.sum_nonneg fun _ _ => Falloff.nonnegative _)

theorem sum_liveShare {visible : Finset Nat} (score : Nat → ℚ) (some : visible.Nonempty) :
    ∑ slot ∈ visible, liveShare visible score slot = 1 := by
  rcases exists_greatest score some with ⟨top, topMember, attained⟩
  have one : Falloff.weight (score top - greatest visible score) = 1 := by
    rw [attained, sub_self]
    exact Falloff.weight_zero
  have positive : 0 < ∑ other ∈ visible, Falloff.weight (score other - greatest visible score) :=
    Finset.sum_pos' (fun _ _ => Falloff.nonnegative _) ⟨top, topMember, one.symm ▸ zero_lt_one⟩
  unfold liveShare
  rw [← Finset.sum_div, div_self positive.ne']

theorem liveShare_even {visible : Finset Nat} {score : Nat → ℚ} {level : ℚ}
    (even : ∀ slot ∈ visible, score slot = level) {slot : Nat} (member : slot ∈ visible) :
    liveShare visible score slot = 1 / visible.card := by
  rcases exists_greatest score ⟨slot, member⟩ with ⟨top, topMember, attained⟩
  have one (other : Nat) (otherMember : other ∈ visible) :
      Falloff.weight (score other - greatest visible score) = 1 := by
    rw [← attained, even other otherMember, even top topMember, sub_self]
    exact Falloff.weight_zero
  unfold liveShare
  rw [one slot member, Finset.sum_congr rfl one, Finset.sum_const, nsmul_one]

section Image

variable {visible : Finset Nat} {place : Nat → Nat} {score other : Nat → ℚ}

theorem liveShare_image (distinct : Set.InjOn place visible)
    (same : ∀ slot ∈ visible, score slot = other (place slot)) {slot : Nat}
    (member : slot ∈ visible) :
    liveShare visible score slot = liveShare (visible.image place) other (place slot) := by
  have total : ∑ slot ∈ visible, Falloff.weight (score slot - greatest visible score) =
      ∑ image ∈ visible.image place,
        Falloff.weight (other image - greatest visible score) := by
    rw [Finset.sum_image distinct]
    apply Finset.sum_congr rfl
    intro slot member
    rw [same slot member]
  unfold liveShare
  rw [total, same slot member, greatest_image same]

theorem average_image (distinct : Set.InjOn place visible)
    (same : ∀ slot ∈ visible, score slot = other (place slot)) {value otherValue : Nat → ℚ}
    (sameValue : ∀ slot ∈ visible, value slot = otherValue (place slot)) :
    average visible score value = average (visible.image place) other otherValue := by
  unfold average
  rw [Finset.sum_image distinct]
  apply Finset.sum_congr rfl
  intro slot member
  rw [liveShare_image distinct same member, sameValue slot member]

end Image

theorem liveShare_congr {visible : Finset Nat} {score other : Nat → ℚ}
    (same : ∀ slot ∈ visible, score slot = other slot) {slot : Nat} (member : slot ∈ visible) :
    liveShare visible score slot = liveShare visible other slot := by
  have image := liveShare_image (Set.injOn_id _) same member
  rwa [Finset.image_id] at image

theorem average_congr {visible : Finset Nat} {score other value otherValue : Nat → ℚ}
    (same : ∀ slot ∈ visible, score slot = other slot)
    (sameValue : ∀ slot ∈ visible, value slot = otherValue slot) :
    average visible score value = average visible other otherValue := by
  have image := average_image (Set.injOn_id _) same sameValue
  rwa [Finset.image_id] at image

/-- Among the first slots of a row, the visible ones lie so high that the others weigh nothing. -/
structure Stands (count : Nat) (score : Nat → ℚ) (visible : Finset Nat) : Prop where
  within : ∀ slot ∈ visible, slot < count
  nonempty : visible.Nonempty
  deep : ∀ slot, slot < count → slot ∉ visible → ∀ high ∈ visible, score slot + 104 ≤ score high

namespace Stands

variable {count : Nat} {score : Nat → ℚ} {visible : Finset Nat}

omit [Falloff] in
theorem peak_eq (stands : Stands count score visible) :
    peak ((List.range count).map score) = greatest visible score := by
  rcases exists_greatest score stands.nonempty with ⟨top, topMember, attained⟩
  have maximal : ((List.range count).map score).max? = some (greatest visible score) := by
    apply List.max?_eq_some_iff.mpr
    constructor
    · rw [← attained]
      exact List.mem_map_of_mem (List.mem_range.mpr (stands.within top topMember))
    · intro entry member
      rcases List.mem_map.mp member with ⟨slot, slotMember, rfl⟩
      by_cases seen : slot ∈ visible
      · exact le_greatest score seen
      · have below := stands.deep slot (List.mem_range.mp slotMember) seen top topMember
        rw [attained] at below
        linarith
  unfold peak
  rw [maximal]
  rfl

theorem weight_of_hidden (stands : Stands count score visible) {slot : Nat} (below : slot < count)
    (hidden : slot ∉ visible) : Falloff.weight (score slot - greatest visible score) = 0 := by
  rcases exists_greatest score stands.nonempty with ⟨top, topMember, attained⟩
  have deep := stands.deep slot below hidden top topMember
  apply Falloff.weight_deep
  rw [← attained]
  linarith

omit [Falloff] in
theorem sum_range (stands : Stands count score visible) {term : Nat → ℚ}
    (nothing : ∀ slot, slot < count → slot ∉ visible → term slot = 0) :
    ∑ slot ∈ Finset.range count, term slot = ∑ slot ∈ visible, term slot := by
  have subset : visible ⊆ Finset.range count := by
    intro slot member
    exact Finset.mem_range.mpr (stands.within slot member)
  symm
  apply Finset.sum_subset subset
  intro slot member hidden
  exact nothing slot (Finset.mem_range.mp member) hidden

variable {type : ElementType}

theorem softmax_getD (stands : Stands count score visible) {slot : Nat} (below : slot < count) :
    (softmax ((List.range count).map score)).getD slot default =
      if slot ∈ visible then liveShare visible score slot else 0 := by
  have total : ∑ other ∈ Finset.range count, Falloff.weight (score other - greatest visible score) =
      ∑ other ∈ visible, Falloff.weight (score other - greatest visible score) :=
    stands.sum_range fun other otherBelow hidden => stands.weight_of_hidden otherBelow hidden
  have weights : (((List.range count).map score).map fun entry =>
      Falloff.weight (entry - greatest visible score)) =
      (List.range count).map fun other =>
        Falloff.weight (score other - greatest visible score) := List.map_map
  have entry : (softmax ((List.range count).map score)).getD slot default =
      Falloff.weight (score slot - greatest visible score) /
        ∑ other ∈ visible, Falloff.weight (score other - greatest visible score) := by
    simp only [softmax, stands.peak_eq, weights, sum_map_range, total]
    simp [List.getD_eq_getElem?_getD, below]
  rw [entry]
  by_cases seen : slot ∈ visible
  · rw [if_pos seen]
    rfl
  · rw [if_neg seen, stands.weight_of_hidden below seen, zero_div]

theorem share_eq (floating : type.isFloating = true) (stands : Stands count score visible)
    {slot : Nat} (below : slot < count) :
    Attended.share type ((List.range count).map score) slot =
      if slot ∈ visible then liveShare visible score slot else 0 := by
  unfold Attended.share
  rw [cast_floating .float32 floating]
  exact stands.softmax_getD below

theorem dot_share (floating : type.isFloating = true) (stands : Stands count score visible)
    (value : Nat → ℚ) :
    Arithmetic.dot type
        ((List.range count).map (Attended.share type ((List.range count).map score)))
        ((List.range count).map value) =
      average visible score value := by
  rw [dot_range floating, stands.sum_range]
  · unfold average
    apply Finset.sum_congr rfl
    intro slot member
    rw [stands.share_eq floating (stands.within slot member), if_pos member]
  · intro slot below hidden
    rw [stands.share_eq floating below, if_neg hidden, zero_mul]

end Stands

end CausalAttention.Exact
