import Scanout.Output.View
import Scanout.Pipe.ModeSet
import Scanout.Snapshot

/-!
# The display engine of one device

`Display` holds what is cached of a device: both pipes, the wired outputs and the last snapshot.
`Display.attach` binds it to an adapter with the outputs that its kind of board has;
`Display.attachWith` takes the outputs explicitly.
-/

set_option autoImplicit false
set_option relaxedAutoImplicit false

namespace Scanout

/-- What the bus tells of a device: its identifier, and where its video memory is. -/
structure Adapter where
  device : UInt16
  base : UInt32
  size : UInt32
  deriving DecidableEq, Repr

/-- The display engine of one device. -/
structure Display where
  device : Device
  first : Pipe.View
  second : Pipe.View
  outputs : List Output.View
  saved : Option Snapshot
  base : UInt32
  size : UInt32
  deriving DecidableEq, Repr

namespace Display

/-- Most outputs of one device. -/
def outputLimit : Nat := 4

/-- Bind to an adapter with explicit outputs, of which those past the limit are ignored. Nothing
is on yet. -/
def attachWith (adapter : Adapter) (config : Config) (wirings : List Output.Wiring) :
    Except Error Display := do
  let chip ← Chip.lookup adapter.device
  config.controller.validate.mapError Error.i2c
  return {
    device := { chip, config }
    first := { pipe := .first }
    second := { pipe := .second }
    outputs := (wirings.take outputLimit).map fun wiring => { wiring }
    saved := none
    base := adapter.base
    size := adapter.size }

/-- The outputs of a chip's usual board. -/
def boardOutputs (chip : Chip) : List Output.Wiring :=
  if chip.mobile then Output.mobile else Output.desktop

/-- Bind to an adapter with the outputs of its usual board. -/
def attach (adapter : Adapter) (config : Config) : Except Error Display := do
  attachWith adapter config (boardOutputs (← Chip.lookup adapter.device))

/-- What is noted when a device was bound with a number of outputs. -/
def greeting (display : Display) (count : Nat) : Log.Entry where
  level := .info
  text := display.device.chip.name ++ " (" ++
    Text.Hex.padded 6 display.device.chip.device.toNat ++ s!"): {count} outputs"

/-- The cached state of a pipe. -/
def pipe (display : Display) : Pipe → Pipe.View
  | .first => display.first
  | .second => display.second

/-- The engine with another cached state of a pipe. -/
def setPipe (display : Display) (pipe : Pipe) (view : Pipe.View) : Display :=
  match pipe with
  | .first => { display with first := view }
  | .second => { display with second := view }

/-- The first output of an identity. -/
def output? (display : Display) (id : Output.Id) : Option Output.View :=
  display.outputs.find? fun view => view.id = id

/-- The list with its first output of the view's identity replaced by the view. -/
def replaceOutput (changed : Output.View) : List Output.View → List Output.View
  | [] => []
  | view :: rest =>
    if view.id = changed.id then changed :: rest else view :: replaceOutput changed rest

/-- An action on one pipe's cached state. -/
def onPipe {α : Type} (pipe : Pipe) (action : Action Pipe.View α) : Action Display α :=
  action.zoom (fun display => display.pipe pipe) fun view display => display.setPipe pipe view

/-- Change the first output of an identity, which must exist. -/
def onOutput (id : Output.Id) (change : Output.View → Hardware Output.View) :
    Action Display Unit := do
  match (← get).output? id with
  | none => Action.refuse (.unknownOutput id)
  | some view =>
    let changed ← change view
    modify fun display => { display with outputs := replaceOutput changed display.outputs }

/-- Read back some outputs in order. -/
def resyncOutputs : List Output.View → Hardware (List Output.View)
  | [] => return []
  | view :: rest => do
    let view ← view.resync
    let rest ← resyncOutputs rest
    return view :: rest

/-- Rebuild everything cached from registers that were restored. -/
def resync (display : Display) : Hardware Display := do
  let first ← display.first.resync
  let second ← display.second.resync
  let outputs ← resyncOutputs display.outputs
  return { display with first, second, outputs }

/-- `resync` as an action. -/
def refresh : Action Display Unit := do
  let display ← (← get).resync
  set display

end Display

end Scanout
