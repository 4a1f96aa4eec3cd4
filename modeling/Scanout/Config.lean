import Scanout.I2c.Error

/-!
# Bounds and delays

Limits of polling loops and the timing of the monitor bus. The defaults suit the hardware.
-/

set_option autoImplicit false
set_option relaxedAutoImplicit false

namespace Scanout

/-- The hardware engine of the monitor bus. -/
structure Config.Controller where
  /-- Largest number of data bytes in one transaction. -/
  chunk : Nat := 12
  /-- Status polls of one transaction. -/
  pollLimit : UInt32 := 50
  /-- Delay between polls in microseconds. -/
  pollInterval : UInt32 := 1000
  /-- Consecutive completions that end a transaction. -/
  doneReads : UInt32 := 3
  /-- Refusals tolerated before the slave counts as absent. -/
  nackLimit : UInt32 := 3
  deriving DecidableEq, Repr

/-- The master that drives the monitor bus line by line. -/
structure Config.BitBang where
  /-- Half a clock period in microseconds. -/
  halfPeriod : UInt32 := 5
  /-- Half periods to wait for an acknowledgement. -/
  ackTimeout : UInt32 := 5
  /-- Half periods to wait for a slave that holds the clock. -/
  stretchTimeout : UInt32 := 50
  deriving DecidableEq, Repr

/-- Everything that can be tuned. -/
structure Config where
  /-- Polls of the engine status before the engine counts as locked up. -/
  idlePolls : UInt32 := 1000
  /-- Delay between polls in microseconds. -/
  idleInterval : UInt32 := 1
  controller : Config.Controller := {}
  bitBang : Config.BitBang := {}
  deriving DecidableEq, Repr

namespace Config.Controller

/-- A chunk holds at least one byte and no more than one transaction can count. -/
def validate (config : Controller) : Except I2c.Error Unit :=
  if config.chunk = 0 ∨ Register.i2cCountLimit < config.chunk then
    .error (.chunkSize config.chunk Register.i2cCountLimit)
  else .ok ()

/-- The same configuration with another chunk size, which must be valid. -/
def withChunk (config : Controller) (size : Nat) : Except I2c.Error Controller := do
  let config := { config with chunk := size }
  config.validate
  return config

end Config.Controller

end Scanout
