import Scanout.Command.Arguments
import Scanout.Command.DryRun
import Scanout.Command.ModeText
import Scanout.Display.Operation
import Scanout.Text.Layout

/-!
# Running a command

What each command prints. A command yields its lines and, if something stopped it, a complaint;
lines that came before the complaint are kept.
-/

set_option autoImplicit false
set_option relaxedAutoImplicit false

namespace Scanout.Command

/-- What a command came to. -/
structure Outcome where
  lines : List String
  complaint : Option Complaint := none
  deriving DecidableEq, Repr

/-- The lines of a command, or a complaint and no lines. -/
def Outcome.ofLines : Except Complaint (List String) → Outcome
  | .ok lines => { lines }
  | .error complaint => { lines := [], complaint := some complaint }

/-- The device identifier as it is printed. -/
def deviceText (chip : Chip) : String :=
  Text.Hex.padded 6 chip.device.toNat

/-- One row of the chip table. -/
def chipLine (chip : Chip) : String :=
  deviceText chip ++ "   " ++ Text.leftAlign 12 chip.name ++ " " ++
    Text.leftAlign 8 chip.family.name ++ " " ++ (if chip.mobile then "mobile" else "desktop")

/-- The chip table. -/
def chips : List String :=
  (Text.leftAlign 8 "ID" ++ " " ++ Text.leftAlign 12 "NAME" ++ " " ++
    Text.leftAlign 8 "FAMILY" ++ " OUTPUTS") :: Chip.table.map chipLine

/-- The dividers for a pixel clock. -/
def pll (khz : UInt32) : Except Complaint (List String) := do
  let solution ← (Pll.synthesize {} khz).mapError Complaint.ofFailure
  return [s!"target      {khz} kHz",
    s!"achieved    {solution.achieved} kHz (+{solution.error khz})",
    s!"reference   {solution.reference}",
    s!"feedback    {solution.multiplier}",
    s!"post        {solution.post}"]

/-- A mode on one line. -/
def modeLine (mode : Mode) : String :=
  s!"mode        {mode.h.display}x{mode.v.display}@{mode.refresh} {mode.clock} kHz" ++
    s!"  h {mode.h.display} {mode.h.syncStart} {mode.h.syncStop} {mode.h.total}" ++
    s!"  v {mode.v.display} {mode.v.syncStart} {mode.v.syncStop} {mode.v.total}"

/-- The registers of one axis on one line. -/
def axisLine (label : String) (axis : Timing.Axis) : Except Complaint String := do
  let total ← axis.totalRegister.mapError Complaint.fault
  let word (value : UInt32) : String := Text.Hex.padded 10 value.toNat
  return label ++ "_TOTAL " ++ word total ++ "  " ++ label ++ "_BLANK " ++
    word axis.blankRegister ++ "  " ++ label ++ "_SYNC " ++ word axis.syncRegister

/-- The raster registers of a mode. -/
def timing (text : String) (cvt : Bool) : Except Complaint (List String) := do
  let mode ← modeNamed text cvt
  let timing ← (Timing.ofMode mode).mapError Complaint.ofFlaw
  let h ← axisLine "H" timing.h
  let v ← axisLine "V" timing.v
  return [modeLine mode, h, v]

/-- Everything that a mode set needs to know beforehand. -/
structure Preparation where
  display : Display
  pipe : Pipe
  request : Request
  restore : Bool

/-- The pipe of a number. -/
def pipeNumbered (number : UInt8) : Except Complaint Pipe :=
  if number = 1 then .ok .first
  else if number = 2 then .ok .second
  else .error (.noPipe number)

/-- Check the options of a mode set in the order in which they are complained about. -/
def prepare (options : ModesetOptions) : Except Complaint Preparation := do
  let device ← hexNumber options.chip
  if UInt16.size ≤ device.toNat then
    throw .deviceTooWide
  let _ ← (Chip.lookup device.toUInt16).mapError Complaint.display
  let pipe ← pipeNumbered options.crtc
  let outputs ← outputsNamed options.outputs
  let mode ← modeNamed options.mode options.cvt
  let size := options.memory.toNat * 1048576
  if UInt32.size ≤ size then
    throw .memoryTooLarge
  let controller ← (({} : Config.Controller).withChunk options.chunk).mapError Complaint.bus
  let base ← hexNumber options.base
  let adapter : Adapter := { device := device.toUInt16, base, size := size.toUInt32 }
  let display ← (Display.attach adapter { controller }).mapError Complaint.display
  let request := { Request.of mode outputs with depth := options.bpp }
  return { display, pipe, request, restore := options.restore }

/-- Set the mode, with the state saved before and restored after it if so asked. -/
def modesetAction (preparation : Preparation) : Action Display Unit := do
  if preparation.restore then
    let _ ← Display.saveState
  Display.mapMemory
  Display.applyMode preparation.pipe preparation.request
  if preparation.restore then
    Display.restoreState

/-- One register write. -/
def writeLine (offset value : UInt32) : String :=
  "  " ++ Text.Hex.padded 6 offset.toNat ++ " " ++
    Text.leftAlign 28 ((Snapshot.registerName? offset).getD "") ++ " " ++
    Text.Hex.padded 10 value.toNat

/-- What a mode set writes. -/
def modeset (options : ModesetOptions) : Outcome :=
  match prepare options with
  | .error complaint => { lines := [], complaint := some complaint }
  | .ok preparation =>
    let chip := preparation.display.device.chip
    let heading := [chip.name ++ " (" ++ deviceText chip ++ "), " ++ chip.family.name,
      modeLine preparation.request.mode]
    let ((result, _), registers) :=
      ((modesetAction preparation).start preparation.display).run DryRun.port {}
    match result with
    | .error failure => { lines := heading, complaint := some (Complaint.ofFailure failure) }
    | .ok _ =>
      { lines := heading ++ s!"{registers.writes.size} register writes:" ::
          registers.writes.toList.map fun (offset, value) => writeLine offset value }

/-- Do a job. -/
def run : Job → Outcome
  | .chips => { lines := chips }
  | .pll khz => .ofLines (pll khz)
  | .timing mode cvt => .ofLines (timing mode cvt)
  | .modeset options => modeset options

end Scanout.Command
