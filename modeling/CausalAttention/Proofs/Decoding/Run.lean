import CausalAttention.Layer.Run
import CausalAttention.Proofs.Tensor.Slice
import Mathlib.Algebra.BigOperators.Intervals
import Mathlib.Data.List.Forall2

/-!
Decoding: a sequence is fed to a layer chunk by chunk, each chunk with the cache that the one
before it left and with the columns of a padding mask that were seen so far.
-/

set_option autoImplicit false

namespace CausalAttention

variable {α : Type} [Arithmetic α]

def chunks (start : Nat) : List Nat → List (Nat × Nat)
  | [] => []
  | size :: sizes => (start, size) :: chunks (start + size) sizes

theorem length_chunks (start : Nat) (sizes : List Nat) :
    (chunks start sizes).length = sizes.length := by
  induction sizes generalizing start with
  | nil => rfl
  | cons size sizes ih => simp only [chunks, List.length_cons, ih]

theorem size_mem_of_chunk {start : Nat} {sizes : List Nat} {chunk : Nat × Nat}
    (member : chunk ∈ chunks start sizes) : chunk.2 ∈ sizes := by
  induction sizes generalizing start with
  | nil => contradiction
  | cons size sizes ih =>
      rcases List.mem_cons.mp member with rfl | later
      · exact List.mem_cons_self
      · exact List.mem_cons_of_mem size (ih later)

theorem first_or_single {sizes : List Nat} (singles : ∀ size ∈ sizes.tail, size = 1)
    {chunk : Nat × Nat} (member : chunk ∈ chunks 0 sizes) : chunk.1 = 0 ∨ chunk.2 = 1 := by
  cases sizes with
  | nil => contradiction
  | cons size sizes =>
      rcases List.mem_cons.mp member with rfl | later
      · exact Or.inl rfl
      · exact Or.inr (singles _ (size_mem_of_chunk later))

namespace Layer

def chunkInput (hidden : TypedTensor α) (mask : Option (TypedTensor α))
    (past : Option (Cache α)) (start size : Nat) : LayerInput α :=
  { hidden := hidden.slice 1 start size
    past
    attentionMask := mask.map fun given => given.slice 1 0 (start + size)
    useCache := true }

/-- Runs a layer on consecutive chunks up to the first failure, which comes with the answers
before it. -/
def decode (layer : Layer α) (hidden : TypedTensor α) (mask : Option (TypedTensor α))
    (past : Option (Cache α)) (start : Nat) : List Nat → List (LayerOutput α) × Option Failure
  | [] => ([], none)
  | size :: sizes =>
      match layer.run (chunkInput hidden mask past start size) with
      | .error failure => ([], some failure)
      | .ok answer =>
          let later := decode layer hidden mask answer.present (start + size) sizes
          (answer :: later.1, later.2)

variable {layer : Layer α} {hidden : TypedTensor α} {mask : Option (TypedTensor α)}

theorem decode_cons_of_ok {past : Option (Cache α)} {start size : Nat} {answer : LayerOutput α}
    (ran : layer.run (chunkInput hidden mask past start size) = .ok answer) (sizes : List Nat) :
    layer.decode hidden mask past start (size :: sizes) =
      (answer :: (layer.decode hidden mask answer.present (start + size) sizes).1,
        (layer.decode hidden mask answer.present (start + size) sizes).2) := by
  rw [decode, ran]

theorem decode_cons_of_error {past : Option (Cache α)} {start size : Nat} {failure : Failure}
    (ran : layer.run (chunkInput hidden mask past start size) = .error failure)
    (sizes : List Nat) :
    layer.decode hidden mask past start (size :: sizes) = ([], some failure) := by
  rw [decode, ran]

/-- When every step keeps an invariant of the cache and answers well, so do all steps of a run, and
whatever follows them is decoded from a cache with the invariant. -/
theorem decode_of_step {invariant : Nat → Option (Cache α) → Prop}
    {good : Nat → Nat → LayerOutput α → Prop} {bound : Nat} {sizes : List Nat}
    (step : ∀ start size past, size ∈ sizes → start + size ≤ bound → invariant start past →
      ∃ answer, layer.run (chunkInput hidden mask past start size) = .ok answer ∧
        good start size answer ∧ invariant (start + size) answer.present)
    {start : Nat} {past : Option (Cache α)} (holds : invariant start past)
    (within : start + sizes.sum ≤ bound) :
    ∃ answers last, invariant (start + sizes.sum) last ∧
      List.Forall₂ (fun chunk answer => good chunk.1 chunk.2 answer) (chunks start sizes) answers ∧
      ∀ rest, layer.decode hidden mask past start (sizes ++ rest) =
        (answers ++ (layer.decode hidden mask last (start + sizes.sum) rest).1,
          (layer.decode hidden mask last (start + sizes.sum) rest).2) := by
  -- The induction is on the sizes; the cache that one step leaves is the cache of the next.
  induction sizes generalizing start past with
  | nil => exact ⟨[], past, holds, List.Forall₂.nil, fun rest => rfl⟩
  | cons size sizes ih =>
      rw [List.sum_cons, ← Nat.add_assoc] at within
      obtain ⟨answer, ran, answered, holdsNext⟩ :=
        step start size past List.mem_cons_self (by omega) holds
      have laterStep : ∀ start later past, later ∈ sizes → start + later ≤ bound →
          invariant start past →
          ∃ answer, layer.run (chunkInput hidden mask past start later) = .ok answer ∧
            good start later answer ∧ invariant (start + later) answer.present := by
        intro start later past member
        exact step start later past (List.mem_cons_of_mem size member)
      rcases ih laterStep holdsNext within with ⟨answers, last, holdsLast, answeredAll, decoded⟩
      rw [List.sum_cons, ← Nat.add_assoc]
      refine ⟨answer :: answers, last, holdsLast, List.Forall₂.cons answered answeredAll, ?_⟩
      intro rest
      rw [List.cons_append, decode_cons_of_ok ran, decoded rest]
      rfl

theorem exists_first_past {limit start : Nat} {sizes : List Nat} (below : start ≤ limit)
    (past : limit < start + sizes.sum) :
    ∃ front size back, sizes = front ++ size :: back ∧ start + front.sum ≤ limit ∧
      limit < start + front.sum + size := by
  induction sizes generalizing start with
  | nil => exact absurd past (Nat.not_lt.mpr below)
  | cons size sizes ih =>
      by_cases passed : limit < start + size
      · exact ⟨[], size, sizes, rfl, below, passed⟩
      · rw [List.sum_cons, ← Nat.add_assoc] at past
        rcases ih (Nat.le_of_not_lt passed) past with ⟨front, next, back, rfl, frontBelow, nextPast⟩
        refine ⟨size :: front, next, back, rfl, ?_, ?_⟩
        · rw [List.sum_cons, ← Nat.add_assoc]
          exact frontBelow
        · rw [List.sum_cons, ← Nat.add_assoc]
          exact nextPast

end Layer

section Columns

variable {mask : TypedTensor α} {batch sequence : Nat}

theorem get_columns (sizes : mask.shape = [batch, sequence]) (start : Nat) {count row key : Nat}
    (rowBelow : row < batch) (keyBelow : key < count) :
    (mask.slice 1 start count).tensor.get [row, key] = mask.tensor.get [row, start + key] := by
  have inside : Shape.Contains (mask.shape.set 1 count) [row, key] := by
    rw [sizes]
    exact ⟨rowBelow, keyBelow, trivial⟩
  refine (Tensor.get_slice inside).trans ?_
  simp only [List.getD_cons_succ, List.getD_cons_zero, List.set_cons_succ, List.set_cons_zero]

theorem shape_columns (sizes : mask.shape = [batch, sequence]) (start count : Nat) :
    (mask.slice 1 start count).shape = [batch, count] := by
  rw [TypedTensor.shape_slice, sizes]
  rfl

theorem shape_columns_of_mem {mask : Option (TypedTensor α)}
    (padding : ∀ given ∈ mask, given.shape = [batch, sequence]) (start count : Nat) :
    ∀ given ∈ mask.map fun given => given.slice 1 start count, given.shape = [batch, count] := by
  intro given member
  rcases Option.map_eq_some_iff.mp member with ⟨source, sourceMember, rfl⟩
  exact shape_columns (padding source sourceMember) start count

end Columns

theorem map_eq_map_of_forall₂ {β γ δ : Type} {read : γ → δ} {expected : β → δ} {items : List β}
    {answers : List γ}
    (all : List.Forall₂ (fun item answer => read answer = expected item) items answers) :
    answers.map read = items.map expected := by
  induction all with
  | nil => rfl
  | cons same _ ih => rw [List.map_cons, List.map_cons, same, ih]

namespace TypedTensor

def concatenate (axis : Int) : List (TypedTensor α) → Except Failure (TypedTensor α)
  | [] => .error .wrongCount
  | first :: rest => rest.foldlM (fun joined next => joined.append axis next) first

theorem foldlM_append_chunks {typed : TypedTensor α} {axis : Nat} (tall : 2 ≤ typed.rank)
    (within : axis < typed.rank) (start : Nat) (sizes : List Nat) :
    ((chunks start sizes).map fun chunk => typed.slice axis chunk.1 chunk.2).foldlM
        (fun joined next => joined.append (axis : Int) next) (typed.slice axis 0 start) =
      .ok (typed.slice axis 0 (start + sizes.sum)) := by
  induction sizes generalizing start with
  | nil => rfl
  | cons size sizes ih =>
      rw [List.sum_cons, ← Nat.add_assoc, ← ih (start + size)]
      change ((typed.slice axis 0 start).append (axis : Int)
        (typed.slice axis start size)).bind _ = _
      rw [append_slice start size tall within]
      rfl

theorem concatenate_chunks {typed : TypedTensor α} {axis : Nat} (tall : 2 ≤ typed.rank)
    (within : axis < typed.rank) {sizes : List Nat} (some : sizes ≠ [])
    (whole : typed.tensor.extent axis = sizes.sum) :
    concatenate (axis : Int) ((chunks 0 sizes).map fun chunk => typed.slice axis chunk.1 chunk.2) =
      .ok typed := by
  cases sizes with
  | nil => exact absurd rfl some
  | cons size sizes =>
      have joined := foldlM_append_chunks tall within (0 + size) sizes
      rw [List.sum_cons] at whole
      rw [Nat.zero_add, slice_all whole] at joined
      rw [← joined]
      simp only [chunks, List.map_cons, concatenate, Nat.zero_add]

end TypedTensor

end CausalAttention
