import CausalAttention.Rearrange

/-!
Blocks of a sequence, and masks: which keys a query sees.

A sequence is cut into whole blocks of equal length. The block length is the greatest length
up to the window that divides the sequence; the empty sequence takes the window itself.

The local mask belongs to the block layout: for every block, every query of the block and
every slot of the block's window. The causal mask of the global layer is a lower triangle,
cut to the queries at the end. A padding mask of the global layer becomes a term that is
added to the scores.
-/

set_option autoImplicit false

namespace CausalAttention

/-- How a sequence is cut: `count` blocks of `length` positions. -/
structure Blocks where
  length : Nat
  count : Nat
deriving DecidableEq

namespace Blocks

/-- The greatest divisor of `sequence` up to a candidate, found by counting down. -/
def greatestDivisor (sequence : Nat) : Nat → Nat
  | 0 => 0
  | candidate + 1 =>
      if sequence % (candidate + 1) = 0 then candidate + 1
      else greatestDivisor sequence candidate

def ofSequence (sequence window : Int) : Except Failure Blocks :=
  if window < 1 then .error (.windowTooSmall (.int window))
  else if sequence < 0 then .error (.negativeLength sequence)
  else if sequence = 0 then .ok ⟨window.toNat, 0⟩
  else
    let length := greatestDivisor sequence.toNat (min window sequence).toNat
    .ok ⟨length, sequence.toNat / length⟩

theorem greatestDivisor_le (sequence candidate : Nat) :
    greatestDivisor sequence candidate ≤ candidate := by
  induction candidate with
  | zero => exact Nat.le_refl 0
  | succ candidate ih =>
      unfold greatestDivisor
      split
      · exact Nat.le_refl _
      · exact Nat.le_succ_of_le ih

theorem greatestDivisor_dvd {sequence candidate : Nat} (positive : 0 < candidate) :
    greatestDivisor sequence candidate ∣ sequence := by
  induction candidate with
  | zero => omega
  | succ candidate ih =>
      unfold greatestDivisor
      split
      · exact Nat.dvd_of_mod_eq_zero ‹_›
      · rename_i indivisible
        cases candidate with
        | zero => exact absurd (Nat.mod_one sequence) indivisible
        | succ candidate => exact ih (Nat.succ_pos candidate)

theorem greatestDivisor_greatest {sequence candidate divisor : Nat}
    (bound : divisor ≤ candidate) (divides : divisor ∣ sequence) :
    divisor ≤ greatestDivisor sequence candidate := by
  induction candidate with
  | zero => exact bound
  | succ candidate ih =>
      unfold greatestDivisor
      split
      · exact bound
      · rename_i indivisible
        apply ih
        rcases Nat.lt_or_eq_of_le bound with below | same
        · exact Nat.le_of_lt_succ below
        · exact absurd (Nat.mod_eq_zero_of_dvd (same ▸ divides)) indivisible

end Blocks

def positions (batch sequence : Nat) : Tensor Int :=
  Tensor.ofFn [batch, sequence] fun index => ((index.getD 1 0 : Nat) : Int)

/-- The positions that a padding mask keeps, all of them when there is none. An entry is
truncated to an integer first, and keeps its position when that is not zero. -/
def keptPositions {α : Type} [Arithmetic α] (batch sequence : Nat)
    (padding : Option (TypedTensor α)) : Except Failure (Tensor Bool) :=
  match padding with
  | none => .ok (Tensor.replicate [batch, sequence] true)
  | some mask =>
      if mask.shape ≠ [batch, sequence] then
        .error (.paddingShapeMismatch [batch, sequence] mask.shape)
      else .ok (mask.convert .int64).truth

/-- The mask of local attention for a sequence that is cut into blocks. A query sees a slot of
its block's window when the slot's position is not in its future, is kept, and lies fewer than
`window` positions behind it. Slots in front of the sequence are never kept. -/
def blockMask {α : Type} [Arithmetic α] (batch sequence : Nat) (blocks : Blocks) (window : Int)
    (padding : Option (TypedTensor α)) : Except Failure (Tensor Bool) := do
  let tokens := positions batch sequence
  let queries ← tokens.splitSequence blocks.count blocks.length none
  let keys ← tokens.lookBack blocks.length window 0 false
  let queryColumn := queries.insertAxis 3
  let keyRow := keys.insertAxis 2
  let causal ← queryColumn.combine (fun query key => decide (key ≤ query)) keyRow
  let kept ← keptPositions batch sequence padding
  let keptSlots ← kept.lookBack blocks.length window false false
  let allowed ← causal.combine (fun first second => first && second) (keptSlots.insertAxis 2)
  let near ← keyRow.combine (fun key query => decide (-window < key - query)) queryColumn
  let visible ← allowed.combine (fun first second => first && second) near
  return visible.insertAxis 2

/-- The mask of local attention, of shape `[batch, blocks, 1, block length, window + block
length]`. An empty sequence has no position for a window to lie in front of. -/
def localMask {α : Type} [Arithmetic α] (batch sequence window : Int)
    (padding : Option (TypedTensor α)) : Except Failure (Tensor Bool) := do
  let blocks ← Blocks.ofSequence sequence window
  if batch < 0 then .error .invalidSize
  else if sequence = 0 then .error (Memory.emptyWindowFailure batch.toNat window)
  else blockMask batch.toNat sequence.toNat blocks window padding

/-- The mask of local attention for sizes of which a machine may not be able to hold some. -/
def heldLocalMask {α : Type} [Arithmetic α] (batch sequence window : Int)
    (padding : Option (TypedTensor α)) : Except Failure (Tensor Bool) := do
  let blocks ← Blocks.ofSequence sequence window
  require (sequence < (twoTo 64 : Int)) .numberTooLarge
  Memory.requireRoom .int64 [sequence.toNat]
  Memory.requireSizes [batch]
  Memory.requireRoom .int64 [batch.toNat, sequence.toNat]
  let spread := window.toNat + blocks.length
  if 0 < sequence then
    Memory.requireRoom .int64 [batch.toNat, sequence.toNat, spread]
  localMask batch sequence window padding

def causalMask (queries keys : Nat) : Tensor Bool :=
  Tensor.ofFn [1, 1, queries, keys] fun index =>
    decide (index.getD 3 0 ≤ index.getD 2 0 + (keys - queries))

def droppedTerm : Int := -10000

/-- A mask in the form that is added to scores. A mask of rank four has that form already and
is only converted; one of rank two drops every position that it does not mark, by its truth
value or else by a positive entry. -/
def additiveMask {α : Type} [Arithmetic α] (elementType : ElementType) (mask : TypedTensor α) :
    Except Failure (TypedTensor α) :=
  if mask.rank = 4 then .ok (mask.convert elementType)
  else if mask.rank ≠ 2 then .error (.unsupportedMaskShape mask.shape)
  else if elementType = .bool then .error .unsupportedElementType
  else
    let kept :=
      if mask.elementType = .bool then mask.truth else mask.tensor.map Arithmetic.isPositive
    let result := if elementType.isFloating then elementType else .float32
    let terms := kept.map fun flag =>
      (Arithmetic.ofInteger result (if flag then 0 else droppedTerm) : α)
    .ok ⟨result, (terms.insertAxis 1).insertAxis 1⟩

end CausalAttention
