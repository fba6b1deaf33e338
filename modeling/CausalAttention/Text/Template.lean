import CausalAttention.Numeral

/-!
Templates: texts with places at which an argument is written.

A place is a percent sign, flags, a width, a precision, a mark of length without effect, and a
letter that says how the argument is written. A star instead of a width or a precision takes
an argument of its own. Two percent signs stand for one and take none. This module decides
whether a template can be filled with one number, which has to be taken exactly once.
-/

set_option autoImplicit false

namespace CausalAttention.Text.Template

structure Rest where
  characters : List Char
  argument : Option Numeral

def takeArgument (argument : Option Numeral) : Except Failure Numeral :=
  match argument with
  | some number => .ok number
  | none => .error .wrongKind

def isFlag (character : Char) : Bool :=
  character = '-' || character = '+' || character = ' ' || character = '#' || character = '0'

def greatestWidth : Nat :=
  twoTo 63 - 1

def greatestPrecision : Nat :=
  twoTo 31 - 1

def roomLimit : Nat :=
  twoTo 36

/-- A size in front of a letter: digits, a star that takes a whole argument, or nothing. -/
def readSize (greatest : Nat) (rest : Rest) : Except Failure (Option Int × Rest) :=
  match rest.characters with
  | '*' :: characters => do
      let number ← takeArgument rest.argument
      match number with
      | .fractional _ => .error .wrongKind
      | .whole size =>
          if size < -((greatest : Int) + 1) ∨ (greatest : Int) < size then .error .numberTooLarge
          else return (some size, ⟨characters, none⟩)
  | characters =>
      let digits := characters.takeWhile Char.isDigit
      if digits.isEmpty then .ok (none, rest)
      else
        let size := digits.foldl (fun total digit => 10 * total + (digit.toNat - 48)) 0
        if greatest < size then .error .malformedTemplate
        else .ok (some size, ⟨characters.dropWhile Char.isDigit, rest.argument⟩)

def readPrecision (rest : Rest) : Except Failure (Option Int × Rest) :=
  match rest.characters with
  | '.' :: characters => do
      let (precision, behind) ← readSize greatestPrecision ⟨characters, rest.argument⟩
      return (some (precision.getD 0), behind)
  | _ => .ok (none, rest)

def skipLengthMark : List Char → List Char
  | 'h' :: characters | 'l' :: characters | 'L' :: characters => characters
  | characters => characters

def requireIntegerPart (number : Numeral) : Except Failure Unit :=
  match number.value with
  | .finite _ _ _ => .ok ()
  | .infinite _ => .error .numberTooLarge
  | .undefined => .error .undefinedNumber

def requireWhole (number : Numeral) : Except Failure Int :=
  match number with
  | .whole value => .ok value
  | .fractional _ => .error .wrongKind

def requireDigits (precision : Option Int) : Except Failure Unit :=
  if (greatestPrecision : Int) - 3 < precision.getD 0 then .error .numberTooLarge else .ok ()

def requireWritable (letter : Char) (precision : Option Int) (number : Numeral) :
    Except Failure Unit :=
  match letter with
  | 's' | 'r' | 'a' => .ok ()
  | 'd' | 'i' | 'u' => do
      requireIntegerPart number
      requireDigits precision
  | 'o' | 'x' | 'X' => do
      let _ ← requireWhole number
      requireDigits precision
  | 'e' | 'E' | 'f' | 'F' | 'g' | 'G' => do
      let _ ← number.toFloat
      return ()
  | 'c' => do
      let code ← requireWhole number
      if 0 ≤ code ∧ code < 0x110000 then .ok () else .error .numberTooLarge
  | _ => .error .malformedTemplate

def fillPlace (rest : Rest) : Except Failure Rest :=
  match rest.characters with
  | '(' :: _ => .error .wrongKind
  | '%' :: characters => .ok ⟨characters, rest.argument⟩
  | _ => do
    let (width, behindWidth) ← readSize greatestWidth
      ⟨rest.characters.dropWhile isFlag, rest.argument⟩
    let (precision, behindPrecision) ← readPrecision behindWidth
    match skipLengthMark behindPrecision.characters with
    | [] => .error .malformedTemplate
    | letter :: characters => do
        let number ← takeArgument behindPrecision.argument
        requireWritable letter precision number
        if roomLimit ≤ (width.getD 0).natAbs then .error .outOfMemory
        else return ⟨characters, none⟩

/-- Fills the places of a template from left to right. A number of characters in front belongs
to a place that is filled already. Answers with the argument if no place has taken it. -/
def fillFrom (filled : Nat) (argument : Option Numeral) :
    List Char → Except Failure (Option Numeral)
  | [] => .ok argument
  | character :: characters =>
      match filled with
      | filled + 1 => fillFrom filled argument characters
      | 0 =>
          if character ≠ '%' then fillFrom 0 argument characters
          else do
            let rest ← fillPlace ⟨characters, argument⟩
            fillFrom (characters.length - rest.characters.length) rest.argument characters

def requireFillable (template : String) (number : Numeral) : Except Failure Unit := do
  let argument ← fillFrom 0 (some number) template.toList
  match argument with
  | none => .ok ()
  | some _ => .error .wrongKind

end CausalAttention.Text.Template
