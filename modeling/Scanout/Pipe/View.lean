import Scanout.Device
import Scanout.Pll
import Scanout.Power
import Scanout.Surface
import Scanout.Timing.Axis

/-!
# What is known of a pipe

`Pipe.View` caches a pipe's power, raster and surface so that they need not be read back.
`View.resync` rebuilds it from the registers after something else wrote them. `View.enable` and
`View.disable` switch scan-out; a pipe that did not settle stays on its way.
-/

set_option autoImplicit false
set_option relaxedAutoImplicit false

namespace Scanout.Pipe

open Register

/-- The cached state of a pipe. -/
structure View where
  pipe : Pipe
  power : Power := .off
  /-- The raster of the last mode set. -/
  timing : Option Timing := none
  surface : Option Surface := none
  deriving DecidableEq, Repr

/-- Read the raster registers of one axis. -/
def readAxis (pipe : Pipe) (total blank sync polarity : PipeRegister) :
    Hardware Timing.Axis := do
  let total ← Hardware.read (pipe.register total)
  let blank ← Hardware.read (pipe.register blank)
  let sync ← Hardware.read (pipe.register sync)
  let polarity ← Hardware.read (pipe.register polarity)
  return .decode total ⟨blank⟩ ⟨sync⟩ polarity

/-- Read the surface registers. A format that no surface has is noted and leaves none. -/
def readSurface (pipe : Pipe) : Hardware (Option Surface) := do
  let bits ← Hardware.read (pipe.register .surfaceFormat)
  match Surface.Format.ofBits? bits with
  | some format =>
    let location ← Hardware.read (pipe.register .surfaceLocation)
    let pitch ← Hardware.read (pipe.register .pitch)
    let height ← Hardware.read (pipe.register .surfaceHeight)
    return some { location, format, pitch, height }
  | none =>
    Hardware.note .warn
      (s!"{pipe.name}: scanning out an unsupported surface: " ++
        Surface.Format.unknownMessage bits.toNat)
    return none

namespace View

/-- The view of a pipe whose registers were restored. A disabled pipe has no raster and no
surface. -/
def resync (view : View) : Hardware View := do
  let pipe := view.pipe
  let control ← Hardware.read (pipe.register .control)
  if control &&& pipeEnabled = 0 then
    return { pipe }
  let h ← readAxis pipe .hTotal .hBlank .hSyncWidth .hSyncPolarity
  let v ← readAxis pipe .vTotal .vBlank .vSyncWidth .vSyncPolarity
  let surface ← readSurface pipe
  return { pipe, power := .on, timing := some { h, v }, surface }

/-- Start fetching and scanning, and wait for the engine to settle. -/
def enable (device : Device) : Action View Unit := do
  let pipe := (← get).pipe
  modify fun view => { view with power := .enabling }
  Hardware.write (pipe.register .scanEnable) scanEnabled
  Hardware.write (pipe.register .control) pipeEnabled
  device.waitIdle
  modify fun view => { view with power := .on }

/-- Stop fetching and scanning, and wait for the engine to settle. -/
def disable (device : Device) : Action View Unit := do
  let pipe := (← get).pipe
  modify fun view => { view with power := .disabling }
  Hardware.write (pipe.register .scanEnable) 0
  Hardware.write (pipe.register .control) 0
  device.waitIdle
  modify fun view => { view with power := .off }

/-- Switch scan-out on or off. -/
def setPower (device : Device) (request : Dpms) : Action View Unit := do
  Hardware.note .debug (s!"{(← get).pipe.name}: dpms {request.name}")
  if request.isOn then enable device else disable device

end View

end Scanout.Pipe
