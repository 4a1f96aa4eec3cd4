import Std.Data.HashMap
import Scanout.Hardware
import Scanout.Register.Ddc

/-!
# Dry-run registers

A register file that remembers writes. The engine always reads idle and the monitor bus always
reads done, so nothing ever waits.
-/

set_option autoImplicit false
set_option relaxedAutoImplicit false

namespace Scanout.Command

open Register

/-- What has been written: the last value of each offset, and every write in order. -/
structure DryRun where
  values : Std.HashMap UInt32 UInt32 := {}
  writes : Array (UInt32 × UInt32) := #[]

namespace DryRun

/-- What an offset reads. -/
def read (registers : DryRun) (offset : UInt32) : UInt32 :=
  if offset = engineStatus.offset then engineIdle
  else if offset = i2cStatus.offset then i2cDone
  else registers.values.getD offset 0

/-- Remember a write. -/
def write (registers : DryRun) (offset value : UInt32) : DryRun where
  values := registers.values.insert offset value
  writes := registers.writes.push (offset, value)

/-- The registers as a port. Nothing waits and nothing is noted. -/
def port : Handler Access.signature DryRun where
  answer request registers :=
    match request with
    | .read offset => (registers.read offset, registers)
    | .write offset value => ((), registers.write offset value)
    | .delay _ | .note _ => ((), registers)

end DryRun

end Scanout.Command
