import Scanout.Fault
import Scanout.I2c.Error
import Scanout.Output.Id
import Scanout.Register.Pipe
import Scanout.Timing.Mode

/-!
# Errors of the display engine

Everything an operation reports on purpose. `Error.category` tells the caller how to treat it: an
unresponsive device must not be retried, a transient error may be, and a precondition error was
found before any register was written.
-/

set_option autoImplicit false
set_option relaxedAutoImplicit false

namespace Scanout

/-- How the caller should treat an error. -/
inductive Error.Category where
  | hardwareUnresponsive
  | transient
  | precondition
  deriving DecidableEq, Repr

/-- Why an operation on the display engine was refused or failed. -/
inductive Error where
  /-- The register region is absent or empty. -/
  | notMapped
  /-- The engine status never read idle. -/
  | lockup (polls status : UInt32)
  /-- No divider combination reaches the clock. -/
  | noPllSolution (target : UInt32)
  /-- The device is not in the chip table. -/
  | unsupportedChip (device : UInt16)
  /-- A transaction with a monitor failed or was refused. -/
  | i2c (cause : I2c.Error)
  /-- A pixel clock of zero. -/
  | zeroClock
  /-- The mode cannot be scanned out. -/
  | invalidMode (flaw : Mode.Flaw)
  /-- No pixel format has this depth. -/
  | unsupportedDepth (depth : UInt8)
  /-- The surface ends past the memory it must lie in. -/
  | surfaceTooLarge (stop limit : Nat)
  /-- The output cannot be fed from the pipe. -/
  | invalidRouting (output : Output.Id) (pipe : Pipe) (reason : String)
  /-- The visible area does not lie inside the surface. -/
  | viewportOutOfBounds (x y width height surfaceWidth surfaceHeight : UInt16)
  /-- The cursor is empty or larger than the hardware's. -/
  | cursorTooLarge (width height limit : UInt32)
  /-- The device has no such output. -/
  | unknownOutput (output : Output.Id)
  /-- The output has no line to its monitor. -/
  | noDdcChannel (output : Output.Id)
  /-- Nothing was saved. -/
  | noSavedState
  deriving DecidableEq, Repr

namespace Error

/-- The error in words. -/
def message : Error → String
  | notMapped => "control register region is not mapped"
  | lockup polls status =>
    s!"display engine did not go idle after {polls} polls (status " ++
      Text.Hex.padded 10 status.toNat ++ ")"
  | noPllSolution target => s!"no PLL setting reaches {target} kHz"
  | unsupportedChip device => "unsupported chip " ++ Text.Hex.padded 6 device.toNat
  | i2c cause => "DDC transaction failed: " ++ cause.message
  | zeroClock => "pixel clock must be non-zero"
  | invalidMode flaw => "invalid mode: " ++ flaw.message
  | unsupportedDepth depth => s!"{depth} bits per pixel is not a supported scan-out depth"
  | surfaceTooLarge stop limit =>
    "framebuffer ends at " ++ Text.Hex.short stop ++ ", past the " ++ Text.Hex.short limit ++
      " byte aperture"
  | invalidRouting output pipe reason =>
    output.name ++ " cannot be routed to " ++ pipe.name ++ ": " ++ reason
  | viewportOutOfBounds x y width height surfaceWidth surfaceHeight =>
    s!"viewport {width}x{height}+{x}+{y} does not fit a " ++
      s!"{surfaceWidth}x{surfaceHeight} framebuffer"
  | cursorTooLarge width height limit =>
    s!"cursor {width}x{height} exceeds {limit}x{limit}"
  | unknownOutput output => "no " ++ output.name ++ " output on this device"
  | noDdcChannel output => output.name ++ " has no DDC channel"
  | noSavedState => "no saved register state to restore"

/-- The error in words, followed by the words of what caused it. -/
def chain (error : Error) : String :=
  match error with
  | i2c cause => error.message ++ ": " ++ cause.message
  | invalidMode flaw => error.message ++ ": " ++ flaw.message
  | _ => error.message

/-- How the caller should treat the error. -/
def category : Error → Category
  | notMapped | lockup _ _ | noPllSolution _ | unsupportedChip _ => .hardwareUnresponsive
  | i2c cause => if cause.isPrecondition then .precondition else .transient
  | _ => .precondition

/-- The device must be treated as wedged. -/
def isFatal (error : Error) : Bool :=
  error.category = .hardwareUnresponsive

/-- A failure to lay out a mode, as a failure of the engine. -/
def ofFlaw : Failure Mode.Flaw → Failure Error :=
  Failure.map invalidMode

end Error

end Scanout
