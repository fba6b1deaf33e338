import CausalAttention.Config.Basic
import Mathlib.Algebra.BigOperators.Intervals

/-!
Positions of a run-length layout. Every run fills as many positions as its pattern, repeated, is
long, behind the runs before it. The layer at a position is found by a division with remainder, and
runs that fill no position change nothing.
-/

set_option autoImplicit false

namespace CausalAttention

namespace PatternRun

def toSetting (run : PatternRun) : Setting :=
  .list [.list run.pattern, .int run.repetitions]

def size (run : PatternRun) : Nat :=
  run.repetitions.toNat * run.pattern.length

/-- A run that fills no position. -/
def isBarren (run : PatternRun) : Bool :=
  decide (run.repetitions ≤ 0) || run.pattern.isEmpty

theorem layers_of_isBarren {run : PatternRun} (barren : run.isBarren = true) : run.layers = [] := by
  rw [isBarren, Bool.or_eq_true, decide_eq_true_iff, List.isEmpty_iff] at barren
  rw [layers_eq_flatten]
  cases barren with
  | inl none =>
      rw [Int.toNat_of_nonpos none]
      rfl
  | inr empty =>
      rw [empty]
      exact List.flatten_replicate_nil

theorem ofSetting_toSetting (run : PatternRun) :
    ∃ read, ofSetting run.toSetting = .ok read ∧ read.layers = run.layers := by
  by_cases none : run.repetitions ≤ 0
  · have barren : run.isBarren = true := by
      rw [isBarren, decide_eq_true none, Bool.true_or]
    have read : ofSetting run.toSetting = .ok ⟨[], run.repetitions⟩ := if_pos none
    exact ⟨_, read, (layers_of_isBarren barren).symm⟩
  · have read : ofSetting run.toSetting = .ok run := if_neg none
    exact ⟨run, read, rfl⟩

theorem getElem?_repeated (pattern : List Setting) {count position : Nat}
    (below : position < count * pattern.length) :
    (List.replicate count pattern).flatten[position]? = pattern[position % pattern.length]? := by
  induction count generalizing position with
  | zero =>
      rw [Nat.zero_mul] at below
      contradiction
  | succ count ih =>
      rw [List.replicate_succ, List.flatten_cons, List.getElem?_append]
      by_cases first : position < pattern.length
      · rw [if_pos first, Nat.mod_eq_of_lt first]
      · have later : pattern.length ≤ position := Nat.le_of_not_lt first
        rw [Nat.succ_mul] at below
        rw [if_neg first, ih (by omega), Nat.mod_eq_sub_mod later]

theorem layer_of_lt {run : PatternRun} {position : Nat} (below : position < run.size) :
    run.layers[position]? = run.pattern[position % run.pattern.length]? := by
  rw [layers_eq_flatten]
  exact getElem?_repeated run.pattern below

def offset (runs : List PatternRun) (place : Nat) : Nat :=
  ((runs.take place).map size).sum

@[simp] theorem offset_zero (runs : List PatternRun) : offset runs 0 = 0 := rfl

theorem offset_cons (run : PatternRun) (runs : List PatternRun) (place : Nat) :
    offset (run :: runs) (place + 1) = run.size + offset runs place := by
  unfold offset
  rw [List.take_succ_cons, List.map_cons, List.sum_cons]

theorem offset_le_all (runs : List PatternRun) (place : Nat) :
    offset runs place ≤ offset runs runs.length := by
  induction runs generalizing place with
  | nil =>
      have nothing : offset [] place = 0 := by simp [offset]
      exact Nat.le_trans (Nat.le_of_eq nothing) (Nat.zero_le _)
  | cons run runs ih =>
      cases place with
      | zero => exact Nat.zero_le _
      | succ place =>
          rw [List.length_cons, offset_cons, offset_cons]
          exact Nat.add_le_add_left (ih place) run.size

theorem length_flatMap_layers (runs : List PatternRun) :
    (runs.flatMap layers).length = offset runs runs.length := by
  induction runs with
  | nil => rfl
  | cons run runs ih =>
      rw [List.flatMap_cons, List.length_append, length_layers, ih, List.length_cons, offset_cons]
      rfl

/-- A run, by its place among others, and a position among those that it fills. -/
structure Covers (runs : List PatternRun) (place : Nat) (run : PatternRun) (position : Nat) :
    Prop where
  listed : runs[place]? = some run
  atLeast : offset runs place ≤ position
  below : position < offset runs (place + 1)

theorem Covers.lt_length {runs : List PatternRun} {place position : Nat} {run : PatternRun}
    (covers : Covers runs place run position) : position < (runs.flatMap layers).length := by
  rw [length_flatMap_layers]
  exact Nat.lt_of_lt_of_le covers.below (offset_le_all runs (place + 1))

/-- The layer at a position: counted from the start of its run, it is found in the pattern by the
remainder. -/
theorem Covers.getElem?_layers {runs : List PatternRun} {place position : Nat} {run : PatternRun}
    (covers : Covers runs place run position) :
    (runs.flatMap layers)[position]? =
      run.pattern[(position - offset runs place) % run.pattern.length]? := by
  obtain ⟨listed, atLeast, below⟩ := covers
  -- The induction is on the runs before the one that holds the position.
  induction runs generalizing place position with
  | nil => cases listed
  | cons first runs ih =>
      have firstLength : first.layers.length = first.size := length_layers first
      rw [offset_cons] at below
      rw [List.flatMap_cons, List.getElem?_append, firstLength]
      cases place with
      | zero =>
          cases listed
          have within : position < run.size := below
          rw [if_pos within, layer_of_lt within, offset_zero, Nat.sub_zero]
      | succ place =>
          rw [offset_cons] at atLeast ⊢
          rw [if_neg (by omega), ih listed (by omega) (by omega), Nat.sub_sub]

theorem exists_covers {runs : List PatternRun} {position : Nat}
    (below : position < offset runs runs.length) :
    ∃ place run, Covers runs place run position := by
  induction runs generalizing position with
  | nil => contradiction
  | cons first runs ih =>
      rw [List.length_cons, offset_cons] at below
      by_cases within : position < first.size
      · exact ⟨0, first, rfl, Nat.zero_le position, within⟩
      · have rest : position - first.size < offset runs runs.length := by omega
        obtain ⟨place, run, covers⟩ := ih rest
        have atLeast := covers.atLeast
        have under := covers.below
        have start := offset_cons first runs place
        have stop := offset_cons first runs (place + 1)
        exact ⟨place + 1, run, covers.listed, by omega, by omega⟩

theorem flatMap_filter_isBarren (runs : List PatternRun) :
    (runs.filter fun run => !run.isBarren).flatMap layers = runs.flatMap layers := by
  induction runs with
  | nil => rfl
  | cons run runs ih =>
      cases barren : run.isBarren with
      | true =>
          rw [List.filter_cons_of_neg (by simp [barren]), ih, List.flatMap_cons,
            layers_of_isBarren barren, List.nil_append]
      | false =>
          rw [List.filter_cons_of_pos (by simp [barren]), List.flatMap_cons, List.flatMap_cons, ih]

end PatternRun

theorem expandLayout_runs (runs : List PatternRun) :
    expandLayout (.list (runs.map PatternRun.toSetting)) =
      .ok (runs.flatMap PatternRun.layers) := by
  obtain ⟨read, made, same⟩ :
      ∃ read, (runs.map PatternRun.toSetting).mapM PatternRun.ofSetting = .ok read ∧
        read.flatMap PatternRun.layers = runs.flatMap PatternRun.layers := by
    induction runs with
    | nil => exact ⟨[], rfl, rfl⟩
    | cons run runs ih =>
        obtain ⟨read, made, same⟩ := ih
        obtain ⟨first, firstMade, firstSame⟩ := PatternRun.ofSetting_toSetting run
        refine ⟨first :: read, ?_, ?_⟩
        · rw [List.map_cons, List.mapM_cons, firstMade, made]
          rfl
        · rw [List.flatMap_cons, List.flatMap_cons, firstSame, same]
  have read : expandLayout (.list (runs.map PatternRun.toSetting)) =
      ((runs.map PatternRun.toSetting).mapM PatternRun.ofSetting).map fun read =>
        read.flatMap PatternRun.layers := rfl
  rw [read, made, ← same]
  rfl

end CausalAttention
