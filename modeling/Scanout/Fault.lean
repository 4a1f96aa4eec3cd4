import Scanout.Text.Hex

/-!
# Faults and failures

Words on the device have a fixed width, and arithmetic on them is checked: a sum that does not
fit its width, a difference below zero or a shift past the word is a `Fault`, never a wrapped
value. `Failure` separates such a fault from the errors that an operation reports on purpose, so
that "no operation faults" can be said of every operation at once.
-/

set_option autoImplicit false
set_option relaxedAutoImplicit false

namespace Scanout

/-- An operation on words that has no value in their width. -/
inductive Fault where
  | addition
  | subtraction
  | multiplication
  | leftShift
  | rightShift
  /-- A value was to be clamped into an interval whose ends are the wrong way round. -/
  | emptyInterval (lower upper : Nat)
  /-- An access left the mapped register region, or was not aligned to a word. -/
  | outsideMapping (offset length : Nat)
  deriving DecidableEq, Repr

/-- The fault in words. -/
def Fault.message : Fault → String
  | addition => "attempt to add with overflow"
  | subtraction => "attempt to subtract with overflow"
  | multiplication => "attempt to multiply with overflow"
  | leftShift => "attempt to shift left with overflow"
  | rightShift => "attempt to shift right with overflow"
  | emptyInterval lower upper => s!"min > max. min = {lower}, max = {upper}"
  | outsideMapping offset length =>
    "register offset " ++ Text.Hex.short offset ++ " outside the " ++ Text.Hex.short length ++
      " byte mapping"

/-- Why an operation stopped: an error it reports, or a fault of the arithmetic. -/
inductive Failure (ε : Type) where
  | error (cause : ε)
  | fault (reason : Fault)
  deriving DecidableEq, Repr

namespace Failure

variable {ε δ α : Type}

/-- The failure with its cause carried into a wider type of errors. -/
def map (widen : ε → δ) : Failure ε → Failure δ
  | error cause => .error (widen cause)
  | fault reason => .fault reason

/-- A faulting computation as one that may also report errors. -/
def ofFault : Except Fault α → Except (Failure ε) α
  | .ok value => .ok value
  | .error reason => .error (.fault reason)

/-- A computation that only reports errors as one that may also fault. -/
def ofError : Except ε α → Except (Failure ε) α
  | .ok value => .ok value
  | .error cause => .error (.error cause)

end Failure

end Scanout
