import CausalAttention.Mask

/-!
The search for the block length, one candidate after the other. It goes down from the window and
divides the length of the sequence by every candidate that it meets. It ends at the latest at one,
so it never divides by zero, and all candidates that it has passed divide nothing.
-/

set_option autoImplicit false

namespace CausalAttention.Blocks

def tryCandidate (sequence candidate : Int) : Except Failure (Option Int) :=
  if candidate = 0 then .error .divisionByZero
  else if sequence % candidate = 0 then .ok none
  else .ok (some (candidate - 1))

/-- A search that is over: it goes down from a candidate, passes some numbers and finds one. -/
inductive Search (sequence : Int) : Int → Nat → Int → Prop
  | ends {candidate : Int} (tried : tryCandidate sequence candidate = .ok none) :
      Search sequence candidate 0 candidate
  | lowers {candidate next found : Int} {passed : Nat}
      (tried : tryCandidate sequence candidate = .ok (some next))
      (later : Search sequence next passed found) : Search sequence candidate (passed + 1) found

theorem tryCandidate_eq_none {sequence candidate : Int} :
    tryCandidate sequence candidate = .ok none ↔ candidate ≠ 0 ∧ candidate ∣ sequence := by
  unfold tryCandidate
  by_cases zero : candidate = 0
  · simp [zero]
  · rw [if_neg zero]
    by_cases divides : sequence % candidate = 0
    · simp [divides, zero, Int.dvd_of_emod_eq_zero divides]
    · rw [if_neg divides]
      constructor
      · intro same
        cases same
      · intro both
        exact absurd (Int.emod_eq_zero_of_dvd both.2) divides

theorem tryCandidate_eq_some {sequence candidate next : Int} :
    tryCandidate sequence candidate = .ok (some next) ↔
      candidate ≠ 0 ∧ ¬candidate ∣ sequence ∧ next = candidate - 1 := by
  unfold tryCandidate
  by_cases zero : candidate = 0
  · simp [zero]
  · rw [if_neg zero]
    by_cases divides : sequence % candidate = 0
    · simp [divides, Int.dvd_of_emod_eq_zero divides]
    · have indivisible : ¬candidate ∣ sequence :=
        fun multiple => divides (Int.emod_eq_zero_of_dvd multiple)
      rw [if_neg divides]
      simp [zero, indivisible, eq_comm]

namespace Search

variable {sequence candidate found : Int} {passed : Nat}

theorem unique {others : Nat} {other : Int} (search : Search sequence candidate passed found)
    (again : Search sequence candidate others other) : others = passed ∧ other = found := by
  induction search generalizing others with
  | ends tried =>
      cases again with
      | ends _ => exact ⟨rfl, rfl⟩
      | lowers retried _ =>
          rw [tried] at retried
          cases retried
  | lowers tried _ ih =>
      cases again with
      | ends retried =>
          rw [tried] at retried
          cases retried
      | lowers retried later =>
          cases tried.symm.trans retried
          obtain ⟨counts, finds⟩ := ih later
          exact ⟨congrArg Nat.succ counts, finds⟩

theorem found_dvd (search : Search sequence candidate passed found) : found ∣ sequence := by
  induction search with
  | ends tried => exact (tryCandidate_eq_none.mp tried).2
  | lowers _ _ ih => exact ih

theorem candidate_eq (search : Search sequence candidate passed found) :
    candidate = found + passed := by
  induction search with
  | ends _ => exact (Int.add_zero _).symm
  | lowers tried _ ih =>
      have next := (tryCandidate_eq_some.mp tried).2.2
      rw [Int.natCast_succ]
      omega

/-- The invariant of the search: what it has passed divides nothing. -/
theorem passed_not_dvd (search : Search sequence candidate passed found) {divisor : Int}
    (above : found < divisor) (below : divisor ≤ candidate) : ¬divisor ∣ sequence := by
  induction search with
  | ends _ => exact absurd below (Int.not_le.mpr above)
  | @lowers candidate _ _ _ tried _ ih =>
      obtain ⟨_, indivisible, next⟩ := tryCandidate_eq_some.mp tried
      by_cases first : divisor = candidate
      · rw [first]
        exact indivisible
      · exact ih above (by omega)

theorem found_positive (search : Search sequence candidate passed found)
    (positive : 1 ≤ candidate) : 1 ≤ found := by
  apply Int.not_lt.mp
  intro below
  exact search.passed_not_dvd below positive (Int.one_dvd sequence)

end Search

/-- The search from any positive number is over after finitely many tests. -/
theorem search_greatestDivisor (sequence : Nat) {candidate : Nat} (positive : 0 < candidate) :
    ∃ passed, Search sequence candidate passed (greatestDivisor sequence candidate : Nat) := by
  induction candidate with
  | zero => contradiction
  | succ candidate ih =>
      have nonzero : ((candidate + 1 : Nat) : Int) ≠ 0 := by omega
      unfold greatestDivisor
      split
      · rename_i divides
        have multiple : ((candidate + 1 : Nat) : Int) ∣ sequence :=
          Int.natCast_dvd_natCast.mpr (Nat.dvd_of_mod_eq_zero divides)
        exact ⟨0, .ends (tryCandidate_eq_none.mpr ⟨nonzero, multiple⟩)⟩
      · rename_i indivisible
        have notMultiple : ¬((candidate + 1 : Nat) : Int) ∣ sequence := by
          intro multiple
          exact indivisible (Nat.mod_eq_zero_of_dvd (Int.natCast_dvd_natCast.mp multiple))
        have lower : 0 < candidate := by
          apply Nat.pos_of_ne_zero
          rintro rfl
          exact indivisible (Nat.mod_one sequence)
        obtain ⟨passed, later⟩ := ih lower
        have next : (candidate : Int) = ((candidate + 1 : Nat) : Int) - 1 := by omega
        exact ⟨passed + 1, .lowers (tryCandidate_eq_some.mpr ⟨nonzero, notMultiple, next⟩) later⟩

theorem greatestDivisor_zero (window : Nat) : greatestDivisor 0 window = window :=
  Nat.le_antisymm (greatestDivisor_le 0 window)
    (greatestDivisor_greatest (Nat.le_refl window) (Nat.dvd_zero window))

theorem greatestDivisor_of_le {sequence window : Nat} (nonempty : 0 < sequence)
    (short : sequence ≤ window) : greatestDivisor sequence window = sequence := by
  apply Nat.le_antisymm
  · exact Nat.le_of_dvd nonempty (greatestDivisor_dvd (Nat.lt_of_lt_of_le nonempty short))
  · exact greatestDivisor_greatest short (Nat.dvd_refl sequence)

theorem greatestDivisor_min {sequence window : Nat} (nonempty : 0 < sequence) :
    greatestDivisor sequence (min window sequence) = greatestDivisor sequence window := by
  by_cases short : sequence ≤ window
  · rw [Nat.min_eq_right short, greatestDivisor_of_le nonempty (Nat.le_refl sequence),
      greatestDivisor_of_le nonempty short]
  · rw [Nat.min_eq_left (Nat.le_of_not_le short)]

theorem ofSequence_eq (sequence : Nat) {window : Nat} (wide : 0 < window) :
    ofSequence sequence window = .ok
      ⟨greatestDivisor sequence window, sequence / greatestDivisor sequence window⟩ := by
  unfold ofSequence
  rw [if_neg (by omega), if_neg (by omega)]
  by_cases empty : sequence = 0
  · subst empty
    rw [greatestDivisor_zero, Nat.zero_div, Int.natCast_zero, if_pos rfl, Int.toNat_natCast]
  · have candidate : (min (window : Int) (sequence : Int)).toNat = min window sequence := by omega
    rw [if_neg (by omega)]
    simp only [Int.toNat_natCast, candidate, greatestDivisor_min (Nat.pos_of_ne_zero empty)]

theorem ofSequence_eq_error {sequence window : Int} {failure : Failure} :
    ofSequence sequence window = .error failure ↔
      window < 1 ∧ failure = .windowTooSmall (.int window) ∨
        1 ≤ window ∧ sequence < 0 ∧ failure = .negativeLength sequence := by
  unfold ofSequence
  by_cases narrow : window < 1
  · rw [if_pos narrow]
    simp [narrow, Int.not_le.mpr narrow, eq_comm]
  · rw [if_neg narrow]
    by_cases negative : sequence < 0
    · rw [if_pos negative]
      simp [narrow, negative, Int.not_lt.mp narrow, eq_comm]
    · rw [if_neg negative]
      by_cases empty : sequence = 0
      · simp [empty, narrow]
      · simp [empty, narrow, negative]

/-- Blocks of the greatest length up to the window under which nothing of a sequence is left. -/
structure Greatest (blocks : Blocks) (sequence window : Int) : Prop where
  positive : 1 ≤ blocks.length
  bounded : (blocks.length : Int) ≤ window
  whole : (blocks.length : Int) * blocks.count = sequence
  greatest : ∀ divisor : Int, blocks.length < divisor → divisor ≤ window → ¬divisor ∣ sequence
  short : 1 ≤ sequence → sequence ≤ window → (blocks.length : Int) = sequence ∧ blocks.count = 1
  empty : sequence = 0 → (blocks.length : Int) = window ∧ blocks.count = 0

/-- What the search finds is the greatest length there is. The lengths of a short sequence and of an
empty one follow from that. -/
theorem Search.greatest {sequence window : Int} {passed : Nat} {blocks : Blocks}
    (wide : 1 ≤ window) (search : Search sequence window passed blocks.length)
    (whole : (blocks.length : Int) * blocks.count = sequence) :
    blocks.Greatest sequence window := by
  have positive := search.found_positive wide
  have bounded := search.candidate_eq
  have passes (divisor : Int) (above : blocks.length < divisor) (below : divisor ≤ window) :
      ¬divisor ∣ sequence := search.passed_not_dvd above below
  constructor
  case positive => omega
  case bounded => omega
  case whole => exact whole
  case greatest => exact passes
  case short =>
    intro nonempty short
    have atMost : (blocks.length : Int) ≤ sequence := Int.le_of_dvd nonempty search.found_dvd
    have atLeast : ¬(blocks.length : Int) < sequence :=
      fun above => passes sequence above short (Int.dvd_refl sequence)
    have same : (blocks.length : Int) = sequence := by omega
    refine ⟨same, ?_⟩
    have single : (blocks.length : Int) * blocks.count = blocks.length * 1 := by
      rw [whole, Int.mul_one, same]
    have counted := Int.eq_of_mul_eq_mul_left (by omega) single
    omega
  case empty =>
    intro empty
    subst empty
    have atLeast : ¬(blocks.length : Int) < window :=
      fun above => passes window above (Int.le_refl window) (Int.dvd_zero window)
    have counted := (Int.mul_eq_zero.mp whole).resolve_left (by omega)
    exact ⟨by omega, by omega⟩

/-- Blocks are refused for a window that is too small and then for a negative length. Otherwise the
search from the window ends, and it ends at the greatest length of blocks. -/
theorem search_finds_greatest (sequence window : Int) :
    (∀ failure, ofSequence sequence window = .error failure ↔
      window < 1 ∧ failure = .windowTooSmall (.int window) ∨
        1 ≤ window ∧ sequence < 0 ∧ failure = .negativeLength sequence) ∧
    (1 ≤ window → 0 ≤ sequence → ∃ blocks ended,
      ofSequence sequence window = .ok blocks ∧ blocks.Greatest sequence window ∧
        ∀ passed found, Search sequence window passed found ↔
          passed = ended ∧ found = blocks.length) := by
  refine ⟨fun failure => ofSequence_eq_error, ?_⟩
  intro wide nonnegative
  obtain ⟨length, rfl⟩ := Int.eq_ofNat_of_zero_le nonnegative
  obtain ⟨size, rfl⟩ := Int.eq_ofNat_of_zero_le (show 0 ≤ window by omega)
  have sizePositive : 0 < size := by omega
  obtain ⟨ended, search⟩ := search_greatestDivisor length sizePositive
  have divides : greatestDivisor length size ∣ length := greatestDivisor_dvd sizePositive
  have product := Nat.mul_div_cancel' divides
  have whole : ((greatestDivisor length size : Nat) : Int) *
      (length / greatestDivisor length size : Nat) = length := by
    rw [← Int.natCast_mul, product]
  refine ⟨_, ended, ofSequence_eq length sizePositive, search.greatest wide whole, ?_⟩
  intro passed found
  constructor
  · intro other
    exact search.unique other
  · rintro ⟨rfl, rfl⟩
    exact search

/-- Six positions under a window of four: four is passed, and three divides. -/
theorem search_finds_greatest_six_positions :
    ofSequence 6 4 = .ok ⟨3, 2⟩ ∧ (⟨3, 2⟩ : Blocks).Greatest 6 4 ∧
      Search 6 4 1 3 ∧ ¬Search 6 4 3 1 := by
  obtain ⟨blocks, ended, found, greatest, searches⟩ :=
    (search_finds_greatest 6 4).2 (by decide) (by decide)
  have same : ofSequence 6 4 = .ok ⟨3, 2⟩ := rfl
  cases same.symm.trans found
  have ends : Search 6 3 0 3 := .ends rfl
  have counted : Search 6 4 1 3 := .lowers rfl ends
  have once := ((searches 1 3).mp counted).1
  refine ⟨same, greatest, counted, ?_⟩
  intro further
  have thrice := ((searches 3 1).mp further).1
  omega

end CausalAttention.Blocks
