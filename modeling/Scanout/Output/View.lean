import Scanout.Hardware
import Scanout.Output.Wiring
import Scanout.Power

/-!
# What is known of an output

`Output.View` caches an output's power and the pipe that feeds it. `View.setPower` runs the
encoder's own sequence, `View.route` selects the pipe, and `View.resync` rebuilds the cache from
the registers. The second transmitter and the panel link share a block; the panel's power
sequencer tells which of the two an enabled block is driving.
-/

set_option autoImplicit false
set_option relaxedAutoImplicit false

namespace Scanout.Output

open Register

/-- The cached state of an output. -/
structure View where
  wiring : Wiring
  power : Power := .off
  /-- The pipe last routed to the output. -/
  source : Option Pipe := none
  deriving DecidableEq, Repr

/-- Switch a converter. -/
def switchDac (id : Id) (on : Bool) : Hardware Unit := do
  if on then
    Hardware.write (id.register .powerDown) 0
    Hardware.write (id.register .bandgap) 0
    Hardware.write (id.register .control) dacEnabled
  else
    Hardware.write (id.register .control) 0
    Hardware.write (id.register .powerDown) dacPoweredDown
    Hardware.write (id.register .bandgap) dacBandgapOff

/-- Transmitter control of a block. -/
def transmitterControl (block : EncoderBlock) : UInt32 :=
  if block = .lvtm then tmdsTransmitterControl ||| tmdsTransmitterControlLvtm
  else tmdsTransmitterControl

/-- Lanes of an enabled transmitter of a block. -/
def transmitterLanes (block : EncoderBlock) : UInt32 :=
  if block = .lvtm then tmdsLanesOn ||| tmdsLanesLvtm else tmdsLanesOn

/-- Switch a transmitter. -/
def switchTmds (id : Id) (on : Bool) : Hardware Unit := do
  Hardware.write (id.register .bitDepth) (if on then tmdsBitDepthOn else tmdsBitDepthOff)
  Hardware.write (id.register .dataSync) (if on then tmdsDataSyncOn else tmdsDataSyncOff)
  Hardware.write (id.register .transmitterControl) (transmitterControl id.block)
  Hardware.write (id.register .transmitterEnable)
    (if on then transmitterLanes id.block else tmdsLanesOff)
  Hardware.write (id.register .control)
    (if on then tmdsControlBase ||| tmdsEnabled else tmdsControlBase)

/-- Switch the panel link. Panel power comes last when it is switched on and drops first when it
is switched off. -/
def switchLvds (id : Id) (on : Bool) : Hardware Unit := do
  if on then
    Hardware.write (id.register .transmitterControl) lvdsTransmitterControl
    Hardware.write (id.register .transmitterEnable) lvdsLanesOn
    Hardware.write (id.register .control) (tmdsControlBase ||| tmdsEnabled)
    Hardware.update panelSequencer 0 panelPowered
  else
    Hardware.update panelSequencer panelPowered 0
    Hardware.write (id.register .control) tmdsControlBase
    Hardware.write (id.register .transmitterEnable) tmdsLanesOff

/-- Switch an output's encoder. -/
def switch (id : Id) (on : Bool) : Hardware Unit :=
  match id.kind with
  | .dac => switchDac id on
  | .tmds => switchTmds id on
  | .lvds => switchLvds id on

/-- The enable bit in the control register of an output's block. -/
def enableBit (id : Id) : UInt32 :=
  match id.kind with
  | .dac => dacEnabled
  | .tmds | .lvds => tmdsEnabled

/-- Read whether an output is enabled. A block shared with the panel link belongs to the panel
exactly when the panel has power. -/
def readEnabled (id : Id) : Hardware Bool := do
  let control ← Hardware.read (id.register .control)
  let enabled := control &&& enableBit id != 0
  if id.block = .lvtm then
    let sequencer ← Hardware.read panelSequencer
    let panel := sequencer &&& panelPowered != 0
    return enabled && (panel == (id.kind = .lvds))
  else
    return enabled

namespace View

/-- The output's identity. -/
def id (view : View) : Id :=
  view.wiring.id

/-- The output is not fully off. -/
def isActive (view : View) : Bool :=
  view.power ≠ .off

/-- Switch the output. -/
def setPower (view : View) (request : Dpms) : Hardware View := do
  Hardware.note .debug (s!"{view.id.name}: dpms {request.name}")
  switch view.id request.isOn
  return { view with power := if request.isOn then .on else .off }

/-- Feed the output from a pipe. -/
def route (view : View) (pipe : Pipe) : Hardware View := do
  Hardware.write (view.id.register .sourceSelect) pipe.index.toUInt32
  return { view with source := some pipe }

/-- The view of an output whose registers were restored. -/
def resync (view : View) : Hardware View := do
  let enabled ← readEnabled view.id
  let select ← Hardware.read (view.id.register .sourceSelect)
  return { view with
    power := if enabled then .on else .off
    source := some (if select &&& 1 = 0 then .first else .second) }

end View

end Scanout.Output
