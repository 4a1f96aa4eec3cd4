import Scanout.Text.Hex

/-!
# Numbers in text

A number is an optional plus sign and one or more digits of a radix, and must stay below a limit.
The text is read from the left and the first thing wrong with it is what is reported, so digits
after the point of overflow are not looked at.
-/

set_option autoImplicit false
set_option relaxedAutoImplicit false

namespace Scanout.Text.Number

/-- What is wrong with the text of a number. -/
inductive Flaw where
  | empty
  | invalidDigit
  | tooLarge
  deriving DecidableEq, Repr

/-- The flaw in words. -/
def Flaw.message : Flaw → String
  | empty => "cannot parse integer from empty string"
  | invalidDigit => "invalid digit found in string"
  | tooLarge => "number too large to fit in target type"

/-- The value of a digit below the radix. -/
def digit? (radix : Nat) (c : Char) : Option Nat :=
  match Hex.digitValue c with
  | some value => if value < radix then some value else none
  | none => none

/-- The value of digits behind a value already read. -/
def digits (radix limit : Nat) : List Char → (value : Nat) → Except Flaw Nat
  | [], value => .ok value
  | c :: rest, value =>
    match digit? radix c with
    | none => .error .invalidDigit
    | some digit =>
      if value * radix + digit < limit then digits radix limit rest (value * radix + digit)
      else .error .tooLarge

/-- The number below `limit` that the text stands for. -/
def parse (radix limit : Nat) (text : List Char) : Except Flaw Nat :=
  match text with
  | [] => .error .empty
  | ['+'] => .error .invalidDigit
  | '+' :: rest => digits radix limit rest 0
  | _ => digits radix limit text 0

end Scanout.Text.Number
