import Scanout.Display.Request
import Scanout.Edid
import Scanout.Pipe.Cursor

/-!
# Operations of the display engine

A mode set validates the whole request before it touches a register. If the hardware stops
responding part way and a snapshot was saved, the snapshot is replayed before the error is
reported. Snapshots, cursors and the monitor channel have operations of their own.
-/

set_option autoImplicit false
set_option relaxedAutoImplicit false

namespace Scanout

/-- What an action came to, as a value. -/
def Action.attempt {σ α : Type} (action : Action σ α) :
    Action σ (Except (Failure Error) α) :=
  ExceptT.mk (Except.ok <$> action.run)

namespace Display

/-- What a power request is for. -/
inductive Target where
  | pipe (pipe : Pipe)
  | output (id : Output.Id)
  deriving DecidableEq, Repr

/-- Switch some outputs off in order. -/
def switchOff : List Output.Id → Action Display Unit
  | [] => return
  | id :: rest => do
    onOutput id fun view => view.setPower .off
    switchOff rest

/-- Route some outputs to a pipe and switch them on, in order. -/
def switchOn (pipe : Pipe) : List Output.Id → Action Display Unit
  | [] => return
  | id :: rest => do
    onOutput id fun view => do
      let view ← view.route pipe
      view.setPower .on
    switchOn pipe rest

/-- Program a pipe as planned, with the outputs dark meanwhile. -/
def program (pipe : Pipe) (outputs : List Output.Id) (plan : Pipe.Plan) :
    Action Display Unit := do
  switchOff outputs
  onPipe pipe (Pipe.View.setMode (← get).device plan)
  switchOn pipe outputs

/-- Replay the saved snapshot, if there is one, after a mode set failed on a pipe. -/
def recover (pipe : Pipe) : Action Display Unit := do
  let display ← get
  match display.saved with
  | none =>
    Hardware.note .error
      (s!"{pipe.name}: mode set failed with no saved state to fall back on")
  | some snapshot =>
    Hardware.note .warn (s!"{pipe.name}: mode set failed, restoring saved state")
    match ← (snapshot.restore display.device).attempt with
    | .error (.error cause) =>
      Hardware.note .error (s!"restore after failed mode set: {cause.message}")
    | .error (.fault reason) => throw (.fault reason)
    | .ok _ => pure ()
    refresh

/-- Program a pipe for a request and light its outputs. -/
def applyMode (pipe : Pipe) (request : Request) : Action Display Unit := do
  let mode := request.mode
  Hardware.note .info
    (s!"{pipe.name}: mode set {mode.h.display}x{mode.v.display} at {mode.clock} kHz")
  let display ← get
  let plan ← Action.settled (display.plan pipe request)
  let report := plan.pll.report (display.scanMode request).clock
  Hardware.note report.level report.text
  match ← (program pipe request.outputs plan).attempt with
  | .ok _ =>
    Hardware.note .info
      (s!"{pipe.name}: scanning out {plan.timing.h.active}x{plan.timing.v.active} at " ++
        s!"{plan.pll.achieved} kHz")
  | .error (.error cause) =>
    if cause.isFatal then
      recover pipe
    Action.refuse cause
  | .error (.fault reason) => throw (.fault reason)

/-- Feed an output from a pipe without touching its power. -/
def routeOutput (id : Output.Id) (pipe : Pipe) : Action Display Unit := do
  Action.accepted ((← get).checkRouting pipe [id])
  onOutput id fun view => view.route pipe

/-- Switch a pipe or an output. -/
def setPower (target : Target) (request : Dpms) : Action Display Unit := do
  match target with
  | .pipe pipe => onPipe pipe (Pipe.View.setPower (← get).device request)
  | .output id => onOutput id fun view => view.setPower request

/-- Point the memory controller at video memory. -/
def mapMemory : Action Display Unit := do
  let display ← get
  display.device.mapMemory display.base display.size

/-- Save the whole register footprint and keep a copy. -/
def saveState : Action Display Snapshot := do
  let snapshot ← Snapshot.save (← get).device
  modify fun display => { display with saved := some snapshot }
  return snapshot

/-- Replay a snapshot. -/
def restoreSnapshot (snapshot : Snapshot) : Action Display Unit := do
  snapshot.restore (← get).device
  refresh

/-- Replay the snapshot that was last saved. -/
def restoreState : Action Display Unit := do
  match (← get).saved with
  | none => Action.refuse .noSavedState
  | some snapshot => restoreSnapshot snapshot

/-- Place a pipe's cursor image. -/
def setCursor (pipe : Pipe) (location width height : UInt32) : Action Display Unit :=
  pipe.setCursor location width height

/-- Show a pipe's cursor. -/
def showCursor (pipe : Pipe) : Action Display Unit := do
  pipe.showCursor

/-- Hide a pipe's cursor. -/
def hideCursor (pipe : Pipe) : Action Display Unit := do
  pipe.hideCursor

/-- Move a pipe's cursor. -/
def moveCursor (pipe : Pipe) (x y : Int) : Action Display Unit := do
  pipe.moveCursor x y

/-- How the monitor of an output is reached. -/
def ddc (display : Display) (id : Output.Id) : Except Error Output.Ddc :=
  match display.output? id with
  | none => .error (.unknownOutput id)
  | some view =>
    match view.wiring.ddc with
    | .none => .error (.noDdcChannel id)
    | channel => .ok channel

/-- Talk to the monitor of an output over whichever transport it has. -/
def withDdc {α : Type} (id : Output.Id)
    (talk : {m : Type → Type} → [Monad m] → Edid.Bus m → m α) : Action Display α := do
  let display ← get
  let config := display.device.config
  match ← Action.accepted (display.ddc id) with
  | .hardware connector =>
    match I2c.Controller.bind? config.controller connector with
    | .error cause => Action.refuse (.i2c cause)
    | .ok controller => (talk (Edid.Bus.ofController controller) : Hardware α)
  | .pads base =>
    let session : I2c.Pads.Realisation α := do
      I2c.BitBang.attach base
      I2c.Pads.run base (talk (Edid.Bus.ofBitBang config.bitBang))
    let outcome ← session.run
    Action.checked outcome
  | .none => Action.refuse (.noDdcChannel id)

/-- A monitor answers on the output's channel. -/
def probeDdc (id : Output.Id) : Action Display Bool :=
  withDdc id Edid.probe

/-- Read one block of the monitor's description. A block with a wrong header or checksum is noted
and returned all the same. -/
def readEdid (id : Output.Id) (block : UInt8) : Action Display (List UInt8) := do
  match ← withDdc id fun bus => Edid.readBlock bus block with
  | .error cause => Action.refuse (.i2c cause)
  | .ok data =>
    if block = 0 ∧ !Edid.hasHeader data then
      Hardware.note .warn (s!"{id.name}: EDID base block has no header")
    if !Edid.checksumOk data then
      Hardware.note .warn (s!"{id.name}: EDID block {block} fails its checksum")
    return data

end Display

end Scanout
