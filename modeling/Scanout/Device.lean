import Scanout.Chip
import Scanout.Config
import Scanout.Hardware
import Scanout.Register.Packed

/-!
# Devices

A chip with its tuning. `Device.waitIdle` polls the engine status until it reads idle, and
`Device.mapMemory` points the memory controller at video memory.
-/

set_option autoImplicit false
set_option relaxedAutoImplicit false

namespace Scanout

open Register

/-- The chip at hand and how to treat it. -/
structure Device where
  chip : Chip
  config : Config
  deriving DecidableEq, Repr

namespace Device

variable {σ : Type}

/-- Read the engine status up to `polls` times, waiting after each busy one. The answer is nothing
once it reads idle, and else the last status read. -/
def pollIdle (interval : UInt32) : (polls : Nat) → (last : UInt32) → Hardware (Option UInt32)
  | 0, last => return some last
  | polls + 1, _ => do
    let status ← Hardware.read engineStatus
    if status = engineIdle then
      return none
    Hardware.delay interval
    pollIdle interval polls status

/-- Wait until the engine is idle. Once every poll has failed the device counts as wedged. -/
def waitIdle (device : Device) : Action σ Unit := do
  let polls := device.config.idlePolls
  match ← pollIdle device.config.idleInterval polls.toNat 0 with
  | none => return
  | some status =>
    Hardware.note .error
      (s!"display engine lockup: status {Text.Hex.padded 10 status.toNat} after {polls} polls")
    Action.refuse (.lockup polls status)

/-- The memory controller's aperture register. -/
def aperture (device : Device) : Controller :=
  device.chip.generation.aperture

/-- Point the memory controller and the legacy core at `size` bytes of video memory from
`base`. -/
def mapMemory (device : Device) (base size : UInt32) : Action σ Unit := do
  let window := Aperture.covering base size
  Hardware.writeController device.aperture window.raw
  Hardware.write vgaMemoryBase ((base >>> 16) &&& 0xFFFF)
  Hardware.write vgaSurfaceStart base
  Hardware.note .debug
    (s!"memory map: base {Text.Hex.padded 10 base.toNat} size {Text.Hex.short size.toNat} " ++
      s!"-> MC {Text.Hex.padded 10 window.raw.toNat}")
  device.waitIdle

end Device

end Scanout
