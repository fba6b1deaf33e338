import CausalAttention.Number.Dyadic

/-!
Element types of tensors, and the scalar operations that attention needs, as an interface.

Every operation of the library that computes with entries is written over this interface,
so that the same definitions run in rounded machine arithmetic and can be read over exact
numbers or over operations of which nothing is known.
-/

set_option autoImplicit false

namespace CausalAttention

inductive ElementType where
  | float32
  | float64
  | float16
  | bfloat16
  | int64
  | int32
  | uint8
  | bool
deriving DecidableEq

namespace ElementType

/-- Truth values come before whole numbers and whole numbers before fractional ones. -/
def category : ElementType → Nat
  | float32 | float64 | float16 | bfloat16 => 2
  | int64 | int32 | uint8 => 1
  | bool => 0

def isFloating (type : ElementType) : Bool :=
  type.category = 2

def width : ElementType → Nat
  | float64 => 64
  | float32 => 32
  | float16 | bfloat16 => 16
  | int64 => 64
  | int32 => 32
  | uint8 => 8
  | bool => 1

/-- The type in which sums of products are accumulated: the sixteen-bit types take single
precision and are rounded once at the end. -/
def accumulator : ElementType → ElementType
  | float16 | bfloat16 => float32
  | other => other

def join (left right : ElementType) : ElementType :=
  if left = right then left
  else if left.category < right.category then right
  else if right.category < left.category then left
  else if left.width < right.width then right
  else if right.width < left.width then left
  else float32

/-- The type that a binary operation answers with. A single value widens a tensor with axes
only when it belongs to a higher category. -/
def joinRanked (left : ElementType) (leftRank : Nat) (right : ElementType) (rightRank : Nat) :
    ElementType :=
  if 0 < leftRank ∧ rightRank = 0 ∧ right.category ≤ left.category then left
  else if leftRank = 0 ∧ 0 < rightRank ∧ left.category ≤ right.category then right
  else left.join right

theorem join_self (type : ElementType) : type.join type = type := by
  simp [join]

end ElementType

/-- Scalars of several element types in one carrier. An operation on a type expects operands
of that type and answers with a value of it. -/
class Arithmetic (α : Type) extends Inhabited α where
  /-- An integer as a value of a type. -/
  ofInteger : ElementType → Int → α
  convert : ElementType → α → α
  add : ElementType → α → α → α
  multiply : ElementType → α → α → α
  atLeast : α → α → α
  /-- The normalised exponentials of a row. -/
  softmax : ElementType → List α → List α
  isNonzero : α → Bool
  isPositive : α → Bool

namespace Arithmetic

variable {α : Type} [Arithmetic α]

def sumOfProducts (type : ElementType) (left right : List α) : α :=
  (left.zip right).foldl (fun total pair => add type total (multiply type pair.1 pair.2))
    (ofInteger type 0)

def accumulatedDot (type : ElementType) (left right : List α) : α :=
  let wide := type.accumulator
  if wide = type then sumOfProducts type left right
  else sumOfProducts wide (left.map (convert wide)) (right.map (convert wide))

def dot (type : ElementType) (left right : List α) : α :=
  let total := accumulatedDot type left right
  if type.accumulator = type then total else convert type total

def dotPlus (type : ElementType) (left right : List α) (term : α) : α :=
  let wide := type.accumulator
  let total := accumulatedDot type left right
  if wide = type then add type total term
  else convert type (add wide total (convert wide term))

def lowestSingle : Int :=
  -((twoTo 128 - twoTo 104 : Nat) : Int)

end Arithmetic

end CausalAttention
