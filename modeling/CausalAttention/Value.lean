import CausalAttention.Number.Decimal
import CausalAttention.Text.Quoted

/-!
Loosely typed values, as they stand in settings and in caches that a caller hands over.

Settings are kept exactly as given. What a value can be used for is decided where it is used,
through the partial readings below; its two notations are the plain one of messages and the
literal one of nested values.
-/

set_option autoImplicit false

namespace CausalAttention

/-- A value of settings or caches. A mapping keeps the order of its entries. -/
inductive Value (τ : Type) where
  | null
  | bool (flag : Bool)
  | int (number : Int)
  | float (number : Float)
  | text (content : String)
  | list (items : List (Value τ))
  | tuple (items : List (Value τ))
  | mapping (entries : List (String × Value τ))
  | tensor (content : τ)

abbrev Setting := Value Empty

namespace Value

variable {τ : Type}

def bracketed (opening closing : String) (items : List String) : String :=
  opening ++ ", ".intercalate items ++ closing

mutual

def literal : Value τ → String
  | null => "None"
  | bool flag => if flag then "True" else "False"
  | int number => toString number
  | float number => plainNotation.write number
  | text content => Text.quoted content
  | list items => bracketed "[" "]" (literals items)
  | tuple [item] => "(" ++ literal item ++ ",)"
  | tuple items => bracketed "(" ")" (literals items)
  | mapping entries => bracketed "\x7b" "\x7d" (entryLiterals entries)
  | tensor _ => "tensor(...)"

def literals : List (Value τ) → List String
  | [] => []
  | item :: rest => literal item :: literals rest

def entryLiterals : List (String × Value τ) → List String
  | [] => []
  | (key, item) :: rest => (Text.quoted key ++ ": " ++ literal item) :: entryLiterals rest

end

def plain : Value τ → String
  | text content => content
  | other => other.literal

def sizes (shape : List Nat) : Setting :=
  tuple (shape.map fun (size : Nat) => int (size : Int))

def integer? : Value τ → Option Int
  | int number => some number
  | bool flag => some (if flag then 1 else 0)
  | _ => none

def number? : Value τ → Option DyadicValue
  | int number => some (.ofInteger number)
  | bool flag => some (.ofInteger (if flag then 1 else 0))
  | float number => some (.ofFloat number)
  | _ => none

/-- The items that a value runs through: those of a sequence, the characters of a text, the
keys of a mapping. -/
def items? : Value τ → Option (List (Value τ))
  | list items => some items
  | tuple items => some items
  | text content => some (content.toList.map fun character => text (String.singleton character))
  | mapping entries => some (entries.map fun entry => text entry.1)
  | _ => none

mutual

def isMember : Value τ → Bool
  | list _ | mapping _ => false
  | tuple items => areMembers items
  | _ => true

def areMembers : List (Value τ) → Bool
  | [] => true
  | item :: rest => isMember item && areMembers rest

end

end Value

end CausalAttention
