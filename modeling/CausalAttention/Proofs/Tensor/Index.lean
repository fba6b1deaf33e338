import CausalAttention.Tensor.Broadcast

/-!
Positions in a shape that is made of an outer and an inner one, and shapes that repeat their
entries along the axes of a larger one.
-/

set_option autoImplicit false

namespace CausalAttention.Shape

theorem contains_nil_iff {index : List Nat} : Contains [] index ↔ index = [] := by
  cases index with
  | nil => exact iff_of_true trivial rfl
  | cons coordinate rest => exact iff_of_false id (List.cons_ne_nil _ _)

theorem contains_cons_iff {size : Nat} {shape : Shape} {index : List Nat} :
    Contains (size :: shape) index ↔
      ∃ coordinate rest, index = coordinate :: rest ∧ coordinate < size ∧ Contains shape rest := by
  constructor
  · intro inside
    cases index with
    | nil => exact inside.elim
    | cons coordinate rest => exact ⟨coordinate, rest, rfl, inside⟩
  · rintro ⟨coordinate, rest, rfl, inside⟩
    exact inside

def Each : Shape → (List Nat → Prop) → Prop
  | [], holds => holds []
  | size :: rest, holds =>
      ∀ coordinate, coordinate < size → Each rest fun tail => holds (coordinate :: tail)

theorem Each.of_contains {shape : Shape} {holds : List Nat → Prop} (each : Each shape holds)
    {index : List Nat} (inside : Contains shape index) : holds index := by
  induction shape generalizing holds index with
  | nil =>
      rw [contains_nil_iff.mp inside]
      exact each
  | cons size shape ih =>
      rcases contains_cons_iff.mp inside with ⟨coordinate, rest, rfl, below, inner⟩
      exact ih (each coordinate below) inner

theorem contains_append_iff {outer inner : Shape} {index : List Nat} :
    Contains (outer ++ inner) index ↔
      ∃ place rest, index = place ++ rest ∧ Contains outer place ∧ Contains inner rest := by
  induction outer generalizing index with
  | nil =>
      constructor
      · intro inside
        exact ⟨[], index, rfl, trivial, inside⟩
      · rintro ⟨place, rest, rfl, empty, inside⟩
        rw [contains_nil_iff.mp empty]
        exact inside
  | cons size outer ih =>
      rw [List.cons_append, contains_cons_iff]
      constructor
      · rintro ⟨coordinate, tail, rfl, below, inside⟩
        rcases ih.mp inside with ⟨place, rest, rfl, outside, inner⟩
        exact ⟨coordinate :: place, rest, rfl, ⟨below, outside⟩, inner⟩
      · rintro ⟨place, rest, rfl, outside, inner⟩
        rcases contains_cons_iff.mp outside with ⟨coordinate, tail, rfl, below, outside⟩
        exact ⟨coordinate, tail ++ rest, rfl, below, ih.mpr ⟨tail, rest, rfl, outside, inner⟩⟩

theorem Contains.concat {outer : Shape} {place : List Nat} {size coordinate : Nat}
    (outside : Contains outer place) (below : coordinate < size) :
    Contains (outer ++ [size]) (place ++ [coordinate]) :=
  outside.append ⟨below, trivial⟩

theorem Contains.pair {outer : Shape} {place : List Nat} {height width row column : Nat}
    (outside : Contains outer place) (rowBelow : row < height) (columnBelow : column < width) :
    Contains (outer ++ [height, width]) (place ++ [row, column]) :=
  outside.append ⟨rowBelow, columnBelow, trivial⟩

theorem Contains.exists_concat {outer : Shape} {size : Nat} {index : List Nat}
    (inside : Contains (outer ++ [size]) index) :
    ∃ place coordinate, index = place ++ [coordinate] ∧ Contains outer place ∧
      coordinate < size := by
  rcases contains_append_iff.mp inside with ⟨place, tail, rfl, outside, last⟩
  rcases contains_cons_iff.mp last with ⟨coordinate, tail, rfl, below, last⟩
  obtain rfl := contains_nil_iff.mp last
  exact ⟨place, coordinate, rfl, outside, below⟩

theorem Contains.exists_pair {outer : Shape} {height width : Nat} {index : List Nat}
    (inside : Contains (outer ++ [height, width]) index) :
    ∃ place row column, index = place ++ [row, column] ∧ Contains outer place ∧ row < height ∧
      column < width := by
  rcases contains_append_iff.mp inside with ⟨place, tail, rfl, outside, last⟩
  rcases contains_cons_iff.mp last with ⟨row, tail, rfl, rowBelow, last⟩
  rcases contains_cons_iff.mp last with ⟨column, tail, rfl, columnBelow, last⟩
  obtain rfl := contains_nil_iff.mp last
  exact ⟨place, row, column, rfl, outside, rowBelow, columnBelow⟩

theorem Contains.exists_triple {outer : Shape} {many height width : Nat} {index : List Nat}
    (inside : Contains (outer ++ [many, height, width]) index) :
    ∃ place one row column, index = place ++ [one, row, column] ∧ Contains outer place ∧
      one < many ∧ row < height ∧ column < width := by
  rcases contains_append_iff.mp inside with ⟨place, tail, rfl, outside, last⟩
  rcases contains_cons_iff.mp last with ⟨one, tail, rfl, oneBelow, last⟩
  rcases contains_cons_iff.mp last with ⟨row, tail, rfl, rowBelow, last⟩
  rcases contains_cons_iff.mp last with ⟨column, tail, rfl, columnBelow, last⟩
  obtain rfl := contains_nil_iff.mp last
  exact ⟨place, one, row, column, rfl, outside, oneBelow, rowBelow, columnBelow⟩

theorem volume_append (outer inner : Shape) :
    volume (outer ++ inner) = volume outer * volume inner := by
  induction outer with
  | nil => simp [volume]
  | cons size outer ih => simp only [List.cons_append, volume, ih, Nat.mul_assoc]

theorem offset_append {outer : Shape} {place : List Nat} (outside : Contains outer place)
    (inner : Shape) (index : List Nat) :
    offset (outer ++ inner) (place ++ index) =
      offset outer place * volume inner + offset inner index := by
  induction outer generalizing place with
  | nil =>
      rw [contains_nil_iff.mp outside]
      simp [offset]
  | cons size outer ih =>
      rcases contains_cons_iff.mp outside with ⟨coordinate, rest, rfl, _, outside⟩
      simp only [List.cons_append, offset, ih outside, volume_append, Nat.add_mul,
        Nat.mul_assoc, Nat.add_assoc]

theorem swapAt_append {β : Type} (outer : List β) (first second : β) (rest : List β) :
    swapAt outer.length (outer ++ first :: second :: rest) =
      outer ++ second :: first :: rest := by
  induction outer with
  | nil => rfl
  | cons head outer ih => simp only [List.length_cons, List.cons_append, swapAt, ih]

def Stretches : Shape → Shape → Prop
  | [], [] => True
  | size :: rest, other :: others => (size = other ∨ size = 1) ∧ Stretches rest others
  | _, _ => False

/-- A shape whose entries are repeated along the axes of a larger one, the last axes of both
being matched. -/
def Repeats (small large : Shape) : Prop :=
  ∃ front back, large = front ++ back ∧ Stretches small back

theorem Stretches.append {small large otherSmall otherLarge : Shape}
    (first : Stretches small large) (second : Stretches otherSmall otherLarge) :
    Stretches (small ++ otherSmall) (large ++ otherLarge) := by
  induction small generalizing large with
  | nil =>
      cases large with
      | nil => exact second
      | cons other others => exact first.elim
  | cons size rest ih =>
      cases large with
      | nil => exact first.elim
      | cons other others => exact ⟨first.1, ih first.2⟩

theorem Stretches.reverse {small large : Shape} (stretches : Stretches small large) :
    Stretches small.reverse large.reverse := by
  induction small generalizing large with
  | nil =>
      cases large with
      | nil => trivial
      | cons other others => exact stretches.elim
  | cons size rest ih =>
      cases large with
      | nil => exact stretches.elim
      | cons other others =>
          rw [List.reverse_cons, List.reverse_cons]
          exact (ih stretches.2).append ⟨stretches.1, trivial⟩

theorem Stretches.joinReversed? {small large : Shape} (stretches : Stretches small large)
    (outer : Shape) :
    joinReversed? small (large ++ outer) = some (large ++ outer) ∧
      joinReversed? (large ++ outer) small = some (large ++ outer) := by
  induction small generalizing large with
  | nil =>
      cases large with
      | nil => cases outer <;> exact ⟨rfl, rfl⟩
      | cons other others => exact stretches.elim
  | cons size rest ih =>
      cases large with
      | nil => exact stretches.elim
      | cons other others =>
          rcases stretches with ⟨sizes, inner⟩
          rcases ih inner with ⟨forward, backward⟩
          simp only [List.cons_append, Shape.joinReversed?, forward, backward]
          rcases sizes with same | single
          · simp [joinSize?, same]
          · by_cases same : other = 1
            · simp [joinSize?, single, same]
            · simp [joinSize?, single, same, Ne.symm same]

theorem Repeats.join? {small large : Shape} (repeats : Repeats small large) :
    join? small large = some large ∧ join? large small = some large := by
  rcases repeats with ⟨front, back, rfl, stretches⟩
  rcases stretches.reverse.joinReversed? front.reverse with ⟨forward, backward⟩
  simp [Shape.join?, forward, backward]

theorem repeats_nil (large : Shape) : Repeats [] large :=
  ⟨large, [], (List.append_nil large).symm, trivial⟩

theorem Stretches.self (shape : Shape) : Stretches shape shape := by
  induction shape with
  | nil => trivial
  | cons size rest ih => exact ⟨Or.inl rfl, ih⟩

theorem repeats_self (shape : Shape) : Repeats shape shape :=
  ⟨[], shape, rfl, Stretches.self shape⟩

theorem Stretches.contains {small large : Shape} {index : List Nat}
    (stretches : Stretches small large) (inside : Contains large index) :
    Contains small
      (List.zipWith (fun size coordinate => if size = 1 then 0 else coordinate) small index) := by
  induction small generalizing large index with
  | nil => trivial
  | cons size rest ih =>
      cases large with
      | nil => exact stretches.elim
      | cons other others =>
          rcases contains_cons_iff.mp inside with ⟨coordinate, tail, rfl, below, inner⟩
          refine ⟨?_, ih stretches.2 inner⟩
          change (if size = 1 then 0 else coordinate) < size
          rcases stretches.1 with same | single
          · split <;> omega
          · rw [if_pos single]
            omega

theorem Stretches.length_eq {small large : Shape} (stretches : Stretches small large) :
    small.length = large.length := by
  induction small generalizing large with
  | nil =>
      cases large with
      | nil => rfl
      | cons other others => exact stretches.elim
  | cons size rest ih =>
      cases large with
      | nil => exact stretches.elim
      | cons other others => exact congrArg (· + 1) (ih stretches.2)

theorem stretches_append_iff {small inner large : Shape} :
    Stretches (small ++ inner) large ↔
      ∃ front back, large = front ++ back ∧ Stretches small front ∧ Stretches inner back := by
  induction small generalizing large with
  | nil =>
      constructor
      · intro stretches
        exact ⟨[], large, rfl, trivial, stretches⟩
      · rintro ⟨front, back, rfl, empty, stretches⟩
        obtain rfl := List.length_eq_zero_iff.mp empty.length_eq.symm
        exact stretches
  | cons size rest ih =>
      cases large with
      | nil =>
          refine iff_of_false id ?_
          rintro ⟨front, back, joined, stretches, _⟩
          rw [(List.append_eq_nil_iff.mp joined.symm).1] at stretches
          exact stretches
      | cons other others =>
          constructor
          · intro stretches
            rcases ih.mp stretches.2 with ⟨front, back, rfl, outer, last⟩
            exact ⟨other :: front, back, rfl, ⟨stretches.1, outer⟩, last⟩
          · rintro ⟨front, back, joined, stretches, last⟩
            cases front with
            | nil => exact stretches.elim
            | cons first front =>
                cases joined
                exact ⟨stretches.1, ih.mpr ⟨front, back, rfl, stretches.2, last⟩⟩

theorem Repeats.contains_project {small large : Shape} {index : List Nat}
    (repeats : Repeats small large) (inside : Contains large index) :
    Contains small (project small index) := by
  rcases repeats with ⟨front, back, rfl, stretches⟩
  rcases contains_append_iff.mp inside with ⟨place, inner, rfl, _, within⟩
  have dropped : (place ++ inner).length - small.length = place.length := by
    rw [List.length_append, within.length_eq, stretches.length_eq, Nat.add_sub_cancel]
  unfold project
  rw [dropped, List.drop_left]
  exact stretches.contains within

@[simp] theorem project_nil (index : List Nat) : project [] index = [] := by
  simp [project]

theorem project_append {shape : Shape} {index : List Nat} (enough : shape.length ≤ index.length)
    (outer : List Nat) : project shape (outer ++ index) = project shape index := by
  have dropped : (outer ++ index).length - shape.length =
      outer.length + (index.length - shape.length) := by
    rw [List.length_append]
    omega
  unfold project
  rw [dropped, List.drop_length_add_append]

theorem project_append_append {stack inner : Shape} {place rest : List Nat}
    (enough : stack.length ≤ place.length) (same : rest.length = inner.length) :
    project (stack ++ inner) (place ++ rest) = project stack place ++ project inner rest := by
  have dropped : (place ++ rest).length - (stack ++ inner).length =
      place.length - stack.length := by
    rw [List.length_append, List.length_append, same]
    omega
  have outer : (place.drop (place.length - stack.length)).length = stack.length := by
    rw [List.length_drop]
    omega
  unfold project
  rw [dropped, List.drop_append_of_le_length (by omega), List.zipWith_append outer.symm, same,
    Nat.sub_self, List.drop_zero]

theorem project_append_inside {stack inner : Shape} {place rest : List Nat}
    (enough : stack.length ≤ place.length) (inside : Contains inner rest) :
    project (stack ++ inner) (place ++ rest) = project stack place ++ rest := by
  rw [project_append_append enough inside.length_eq, project_self inside]

theorem Repeats.append {small large : Shape} (repeats : Repeats small large) (inner : Shape) :
    Repeats (small ++ inner) (large ++ inner) := by
  rcases repeats with ⟨front, back, rfl, stretches⟩
  exact ⟨front, back ++ inner, List.append_assoc _ _ _, stretches.append (Stretches.self inner)⟩

theorem Repeats.length_le {small large : Shape} (repeats : Repeats small large) :
    small.length ≤ large.length := by
  rcases repeats with ⟨front, back, rfl, stretches⟩
  rw [List.length_append, stretches.length_eq]
  exact Nat.le_add_left _ _

theorem joinSize?_iff {left right size : Nat} :
    joinSize? left right = some size ↔
      left = right ∧ size = left ∨ left = 1 ∧ size = right ∨ right = 1 ∧ size = left := by
  unfold joinSize?
  split
  · rw [Option.some_inj]
    omega
  · split
    · rw [Option.some_inj]
      omega
    · split
      · rw [Option.some_inj]
        omega
      · constructor
        · intro impossible
          contradiction
        · omega

theorem stretches_of_joinReversed? {left right shape : List Nat}
    (joined : joinReversed? left right = some shape) :
    (∃ back outer, shape = back ++ outer ∧ Stretches left back) ∧
      ∃ back outer, shape = back ++ outer ∧ Stretches right back := by
  induction left generalizing right shape with
  | nil =>
      cases joined
      exact ⟨⟨[], _, rfl, trivial⟩, _, [], (List.append_nil _).symm, Stretches.self _⟩
  | cons size rest ih =>
      cases right with
      | nil =>
          cases joined
          exact ⟨⟨_, [], (List.append_nil _).symm, Stretches.self _⟩, [], _, rfl, trivial⟩
      | cons other others =>
          simp only [joinReversed?] at joined
          split at joined
          · rename_i both tail sizeJoined tailJoined
            cases joined
            rw [joinSize?_iff] at sizeJoined
            rcases ih tailJoined with ⟨⟨back, outer, same, stretches⟩, otherBack, otherOuter,
              otherSame, otherStretches⟩
            refine ⟨⟨both :: back, outer, congrArg _ same, by omega, stretches⟩,
              both :: otherBack, otherOuter, congrArg _ otherSame, by omega, otherStretches⟩
          · contradiction

theorem repeats_of_join? {left right shape : Shape} (joined : join? left right = some shape) :
    Repeats left shape ∧ Repeats right shape := by
  rcases Option.map_eq_some_iff.mp joined with ⟨reversed, joinedReversed, rfl⟩
  rcases stretches_of_joinReversed? joinedReversed with ⟨⟨back, outer, same, stretches⟩,
    otherBack, otherOuter, otherSame, otherStretches⟩
  constructor
  · refine ⟨outer.reverse, back.reverse, ?_, ?_⟩
    · rw [same, List.reverse_append]
    · simpa using stretches.reverse
  · refine ⟨otherOuter.reverse, otherBack.reverse, ?_, ?_⟩
    · rw [otherSame, List.reverse_append]
    · simpa using otherStretches.reverse

theorem project_coordinate {size coordinate : Nat} (below : coordinate < size) :
    (if size = 1 then 0 else coordinate) = coordinate := by
  split
  · omega
  · rfl

end CausalAttention.Shape
