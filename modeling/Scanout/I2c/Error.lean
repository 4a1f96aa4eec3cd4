import Scanout.Text.Hex
import Scanout.Register.Ddc

/-!
# Failures on the monitor bus

Why a transaction failed, in words and by the kind that callers of any two-wire bus distinguish.
-/

set_option autoImplicit false
set_option relaxedAutoImplicit false

namespace Scanout.I2c

/-- Why a transaction on the monitor bus failed. -/
inductive Error where
  /-- The controller never reported completion. -/
  | timeout (polls : UInt32)
  /-- The slave did not acknowledge. -/
  | nack (address : UInt16)
  /-- The controller reported a status outside the protocol. -/
  | bus (status : UInt32)
  /-- A slave held the clock low for too long. -/
  | clockStretch
  /-- The configured chunk does not fit the byte count of one transaction. -/
  | chunkSize (size limit : Nat)
  deriving DecidableEq, Repr

/-- The kinds of failure that every two-wire bus has. -/
inductive Error.Kind where
  | noAcknowledge
  | bus
  | other
  deriving DecidableEq, Repr

namespace Error

/-- The failure in words. -/
def message : Error → String
  | timeout polls => s!"bus did not complete after {polls} status polls"
  | nack address => "no device acknowledged address " ++ Text.Hex.short address.toNat
  | bus status => "unexpected I2C status " ++ Text.Hex.short status.toNat
  | clockStretch => "clock held low by slave"
  | chunkSize size limit => s!"chunk size {size} outside 1..={limit}"

/-- The kind of the failure. -/
def kind : Error → Kind
  | nack _ => .noAcknowledge
  | bus _ => .bus
  | timeout _ | clockStretch | chunkSize _ _ => .other

/-- The failure was found before anything was put on the bus. -/
def isPrecondition : Error → Bool
  | chunkSize _ _ => true
  | _ => false

end Error

end Scanout.I2c
