import Scanout.Pipe.View

/-!
# Setting a mode on a pipe

`Plan` holds everything a mode set writes, computed before any register is touched.
`View.setMode` turns the pipe off, programs the surface, the PLL, the scaler and the raster in
this order, and turns it on again. The dividers of a PLL latch only while it is held in reset, so
`programPll` puts it to sleep first and releases it after the last divider.
-/

set_option autoImplicit false
set_option relaxedAutoImplicit false

namespace Scanout.Pipe

open Register

/-- Everything that a mode set programs. -/
structure Plan where
  timing : Timing
  pll : Pll.Solution
  surface : Surface
  /-- Left edge of the visible area inside the surface. -/
  x : UInt16
  /-- Top edge of the visible area inside the surface. -/
  y : UInt16
  /-- Width of the visible area, which the scaler may stretch to the raster's. -/
  width : UInt16
  /-- Height of the visible area. -/
  height : UInt16
  deriving DecidableEq, Repr

/-- The end of a surface must fit its register. -/
def surfaceStop (surface : Surface) : Except (Failure Error) UInt32 := do
  let stop ← Failure.ofFault surface.stop
  if stop < UInt32.size then
    return stop.toUInt32
  else
    throw (.error (.surfaceTooLarge stop (UInt32.size - 1)))

/-- The end registers of the visible area are biased by this many pixels. -/
def viewportBias : Nat := 128

/-- One coordinate of the end of the visible area, as its register has it. -/
def viewportStop (start size : Nat) : UInt16 :=
  (size + start - viewportBias).toUInt16

/-- Program where the picture comes from. The left edge is cut to a multiple of four pixels. -/
def programSurface (pipe : Pipe) (plan : Plan) (stop : UInt32) : Hardware Unit := do
  Hardware.write vga1Control vgaDisabled
  Hardware.write vga2Control vgaDisabled
  Hardware.write (pipe.register .surfaceLocation) plan.surface.location
  Hardware.write (pipe.register .surfaceFormat) plan.surface.format.bits
  Hardware.write (pipe.register .surfaceEnd) stop
  Hardware.write (pipe.register .mode) modeNative
  let x := plan.x - plan.x % 4
  Hardware.write (pipe.register .offsetEnd)
    (Point.of (viewportStop x.toNat plan.width.toNat)
      (viewportStop plan.y.toNat plan.height.toNat)).raw
  Hardware.write (pipe.register .offsetStart) (Point.of x plan.y).raw

/-- Program a pipe's PLL and make it the pipe's clock. -/
def programPll {σ : Type} (device : Device) (pipe : Pipe) (solution : Pll.Solution) :
    Action σ Unit := do
  Hardware.write (pipe.pll .control) (pllRunning ||| pllReset ||| pllSleep)
  Hardware.write (pipe.pll .referenceSource) referenceFromCrystal
  Hardware.write (pipe.pll .updateLock) updateLocked
  Hardware.write (pipe.pll .reference) solution.reference
  Hardware.write (pipe.pll .feedback)
    ((⟨0⟩ : Feedback).setMultiplier solution.multiplier.toUInt8).raw
  Hardware.write (pipe.pll .postSource) postFromOscillator
  Hardware.write (pipe.pll .post) solution.post
  Hardware.write (pipe.pll .extendedControl) pllExtendedControl
  Hardware.write (pipe.pll .control) pllRunning
  Hardware.write (pipe.pll .updateLock) 0
  Hardware.write clockSource (((⟨0⟩ : ClockSource).setFirst 0).setSecond 1).raw
  device.waitIdle

/-- Give registers of a pipe their values, in order. -/
def writeAll (pipe : Pipe) : List (PipeRegister × UInt32) → Hardware Unit
  | [] => return
  | (register, value) :: rest => do
    Hardware.write (pipe.register register) value
    writeAll pipe rest

/-- Program the scaler. -/
def programScaler (pipe : Pipe) (plan : Plan) : Hardware Unit := do
  Hardware.write (pipe.register .surfaceHeight) plan.surface.height
  Hardware.write (pipe.register .expansionSource) (Point.of plan.width plan.height).raw
  Hardware.write (pipe.register .expansionControl) expansionEnabled
  writeAll pipe scalerSettings

/-- Program the raster. -/
def programTiming {σ : Type} (pipe : Pipe) (plan : Plan) : Action σ Unit := do
  Hardware.write (pipe.register .xLength) plan.width.toUInt32
  Hardware.write (pipe.register .yLength) plan.height.toUInt32
  Hardware.write (pipe.register .pitch) plan.surface.pitch
  let h := plan.timing.h
  Hardware.write (pipe.register .hTotal) (← Action.checked h.totalRegister)
  Hardware.write (pipe.register .hBlank) h.blankRegister
  Hardware.write (pipe.register .hSyncWidth) h.syncRegister
  Hardware.write (pipe.register .hSyncPolarity) h.polarity.register
  let v := plan.timing.v
  Hardware.write (pipe.register .vTotal) (← Action.checked v.totalRegister)
  Hardware.write (pipe.register .vBlank) v.blankRegister
  Hardware.write (pipe.register .vSyncWidth) v.syncRegister
  Hardware.write (pipe.register .vSyncPolarity) v.polarity.register

/-- Run a whole mode set and leave the pipe scanning out. The cached raster and surface are
forgotten while the registers change. -/
def View.setMode (device : Device) (plan : Plan) : Action View Unit := do
  let stop ← Action.settled (surfaceStop plan.surface)
  View.disable device
  modify fun view => { view with timing := none, surface := none }
  let pipe := (← get).pipe
  programSurface pipe plan stop
  programPll device pipe plan.pll
  programScaler pipe plan
  programTiming pipe plan
  modify fun view => { view with timing := some plan.timing, surface := some plan.surface }
  View.enable device

end Scanout.Pipe
