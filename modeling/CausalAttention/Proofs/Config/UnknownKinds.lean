import CausalAttention.Config.Validation
import Mathlib.Data.List.Sort
import Mathlib.Data.String.Basic

/-!
Kinds that a layout names without there being such layers. When all kinds are texts, the check fails
with the unknown ones among them: each of them once, in the order of texts.
-/

set_option autoImplicit false

namespace CausalAttention

namespace Setting

theorem areMembers_texts (names : List String) :
    Value.areMembers (names.map .text : List Setting) = true := by
  induction names with
  | nil => rfl
  | cons name rest ih =>
      rw [List.map_cons, Value.areMembers, ih]
      rfl

theorem unknown_texts (names : List String) :
    ((names.map .text : List Setting).filter fun kind => !isKnownKind kind) =
      (names.filter fun name => !(name == "global" || name == "local")).map .text := by
  rw [List.filter_map]
  rfl

theorem distinct_texts (names : List String) :
    ∃ others : List String, distinct (names.map .text) = others.map .text ∧ others.Nodup ∧
      ∀ name, name ∈ others ↔ name ∈ names := by
  induction names with
  | nil => exact ⟨[], rfl, List.nodup_nil, fun name => Iff.rfl⟩
  | cons first rest ih =>
      obtain ⟨others, made, nodup, members⟩ := ih
      have made' : distinct ((first :: rest).map .text) =
          (first :: others.filter fun other => !(first == other)).map .text := by
        rw [List.map_cons, distinct, made, List.filter_map, List.map_cons]
        rfl
      refine ⟨_, made', ?_, ?_⟩
      · rw [List.nodup_cons]
        constructor
        · intro member
          have differs := (List.mem_filter.mp member).2
          simp at differs
        · exact nodup.filter _
      · intro name
        rw [List.mem_cons, List.mem_cons, List.mem_filter, members]
        by_cases same : name = first
        · simp [same]
        · simp [same, Ne.symm same]

theorem precedes?_ne_iff (earlier later : String) :
    precedes? (.text later) (.text earlier) ≠ some true ↔ earlier ≤ later := by
  have order : precedes? (.text later) (.text earlier) = some (decide (later < earlier)) := rfl
  rw [order, ne_eq, Option.some.injEq, decide_eq_true_iff, not_lt]

theorem sort_texts (names : List String) :
    ∃ sorted : List String, sort (names.map .text) = .ok (sorted.map .text) ∧
      sorted.Perm names ∧ sorted.Pairwise (· ≤ ·) := by
  cases names with
  | nil => exact ⟨[], rfl, List.Perm.refl _, List.Pairwise.nil⟩
  | cons first rest =>
      cases rest with
      | nil => exact ⟨[first], rfl, List.Perm.refl _, List.pairwise_singleton _ first⟩
      | cons second others =>
          have comparable : ((second :: others).map .text).all
              (fun other => (precedes? (.text first) other).isSome) = true := by
            rw [List.all_eq_true]
            intro other member
            obtain ⟨name, _, rfl⟩ := List.mem_map.mp member
            rfl
          have moved : ((first :: second :: others).mergeSort (· ≤ ·)).map .text =
              ((first :: second :: others).map .text).mergeSort
                (fun earlier later => decide (precedes? later earlier ≠ some true)) := by
            apply List.map_mergeSort
            intro earlier _ later _
            exact decide_eq_decide.mpr (precedes?_ne_iff earlier later).symm
          refine ⟨_, ?_, List.mergeSort_perm _ _, List.pairwise_mergeSort' (· ≤ ·) _⟩
          rw [moved]
          exact if_pos comparable

end Setting

/-- The check of kinds that are texts comes down to the sorted list of the unknown ones, which has
to be empty. -/
theorem requireKnownKinds_texts (names : List String) :
    ∃ unknown : List String, unknown.Pairwise (· < ·) ∧
      (∀ name, name ∈ unknown ↔ name ∈ names ∧ name ≠ "global" ∧ name ≠ "local") ∧
      requireKnownKinds (names.map .text) =
        require unknown.isEmpty (.unknownLayerKinds (unknown.map .text)) := by
  obtain ⟨others, distinctMade, nodup, members⟩ := Setting.distinct_texts
    (names.filter fun name => !(name == "global" || name == "local"))
  obtain ⟨unknown, sortedMade, permuted, ordered⟩ := Setting.sort_texts others
  refine ⟨unknown, ?_, ?_, ?_⟩
  · have distinctNames : unknown.Pairwise (· ≠ ·) := permuted.nodup_iff.mpr nodup
    apply (ordered.and distinctNames).imp
    intro earlier later both
    exact lt_of_le_of_ne both.1 both.2
  · intro name
    rw [permuted.mem_iff, members, List.mem_filter]
    simp
  · unfold requireKnownKinds
    rw [Setting.areMembers_texts, Setting.unknown_texts, distinctMade, sortedMade]
    change require (unknown.map Value.text).isEmpty _ = _
    rw [List.isEmpty_map]

end CausalAttention
