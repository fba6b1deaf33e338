/-!
Dyadic numbers: whole multiples of powers of two, with the infinities and an undefined value.

Every double stands for one of them, and so does every integer, so numbers in different
notations are compared here by their exact values.
-/

set_option autoImplicit false

namespace CausalAttention

def twoTo (exponent : Nat) : Nat :=
  Nat.pow 2 exponent

def tenTo (exponent : Nat) : Nat :=
  Nat.pow 10 exponent

@[simp] theorem twoTo_zero : twoTo 0 = 1 := rfl

theorem twoTo_pos (exponent : Nat) : 0 < twoTo exponent :=
  Nat.pow_pos (Nat.succ_pos 1)

/-- What a double stands for. A finite value is `±magnitude · 2 ^ exponent`. -/
inductive DyadicValue where
  | finite (negative : Bool) (magnitude : Nat) (exponent : Int)
  | infinite (negative : Bool)
  | undefined

namespace DyadicValue

def ofFloat (value : Float) : DyadicValue :=
  let bits : Nat := value.toBits.toNat
  let negative : Bool := decide (twoTo 63 ≤ bits)
  let biased : Nat := bits / twoTo 52 % twoTo 11
  let fraction : Nat := bits % twoTo 52
  if biased = 2047 then
    if fraction = 0 then .infinite negative else .undefined
  else if biased = 0 then .finite negative fraction (-1074)
  else .finite negative (twoTo 52 + fraction) ((biased : Int) - 1075)

def ofInteger (number : Int) : DyadicValue :=
  .finite (decide (number < 0)) number.natAbs 0

def signed (negative : Bool) (magnitude : Nat) : Int :=
  if negative then -(magnitude : Int) else magnitude

def aligned? : DyadicValue → DyadicValue → Option (Int × Int)
  | .finite leftNegative leftMagnitude leftExponent,
    .finite rightNegative rightMagnitude rightExponent =>
      let least := min leftExponent rightExponent
      some (signed leftNegative leftMagnitude * twoTo (leftExponent - least).toNat,
        signed rightNegative rightMagnitude * twoTo (rightExponent - least).toNat)
  | _, _ => none

def isLess (left right : DyadicValue) : Bool :=
  match left.aligned? right with
  | some (leftFactor, rightFactor) => leftFactor < rightFactor
  | none =>
      match left, right with
      | .infinite leftNegative, .infinite rightNegative => leftNegative && !rightNegative
      | .infinite negative, .finite _ _ _ => negative
      | .finite _ _ _, .infinite negative => !negative
      | _, _ => false

def isEqual (left right : DyadicValue) : Bool :=
  match left.aligned? right with
  | some (leftFactor, rightFactor) => leftFactor = rightFactor
  | none =>
      match left, right with
      | .infinite leftNegative, .infinite rightNegative => leftNegative == rightNegative
      | _, _ => false

def isAtMost (left right : DyadicValue) : Bool :=
  left.isLess right || left.isEqual right

def truncated? : DyadicValue → Option Int
  | .finite negative magnitude exponent =>
      some (signed negative (magnitude * twoTo exponent.toNat / twoTo (-exponent).toNat))
  | .infinite _ | .undefined => none

theorem signed_natAbs (number : Int) :
    signed (decide (number < 0)) number.natAbs = number := by
  unfold signed
  split
  · rename_i negative
    have below : number < 0 := of_decide_eq_true negative
    omega
  · rename_i negative
    have above : ¬number < 0 := fun below => negative (decide_eq_true below)
    omega

theorem aligned?_ofInteger (left right : Int) :
    (ofInteger left).aligned? (ofInteger right) = some (left, right) := by
  simp [ofInteger, aligned?, signed_natAbs]

theorem isLess_ofInteger (left right : Int) :
    (ofInteger left).isLess (ofInteger right) = decide (left < right) := by
  simp [isLess, aligned?_ofInteger]

theorem isEqual_ofInteger (left right : Int) :
    (ofInteger left).isEqual (ofInteger right) = decide (left = right) := by
  simp [isEqual, aligned?_ofInteger]

end DyadicValue

end CausalAttention
