import Scanout.Hardware
import Scanout.Register.Ddc

/-!
# Open-drain lines

A clock and a data line, each either released (high, unless someone else holds it) or pulled low.
A `Wires` program drives and samples the two lines; `Pads.realise` carries it onto a pair of
pads in the register file, where the enable bits decide which line is pulled low.
-/

set_option autoImplicit false
set_option relaxedAutoImplicit false

namespace Scanout.I2c

open Register

/-- The levels of both lines; `true` is released. -/
structure Levels where
  clock : Bool
  data : Bool
  deriving DecidableEq, Repr

/-- Both lines released. -/
def Levels.released : Levels := ⟨true, true⟩

/-- One request to a pair of lines. -/
inductive WireAccess where
  | drive (levels : Levels)
  | sample
  | delay (microseconds : UInt32)
  | note (entry : Log.Entry)
  deriving DecidableEq, Repr

/-- What a request to the lines answers: a sample the levels seen, everything else nothing. -/
abbrev WireAccess.Answer : WireAccess → Type
  | sample => Levels
  | drive _ | delay _ | note _ => Unit

/-- A pair of lines as an interface. -/
abbrev WireAccess.signature : Signature where
  Request := WireAccess
  Answer := WireAccess.Answer

/-- A program over a pair of lines. -/
abbrev Wires := Program WireAccess.signature

namespace Wires

/-- Drive or release the lines. -/
def drive (levels : Levels) : Wires Unit :=
  .ask (.drive levels) .done

/-- The levels on the bus. -/
def sample : Wires Levels :=
  .ask .sample .done

/-- Wait. -/
def delay (microseconds : UInt32) : Wires Unit :=
  .ask (.delay microseconds) .done

/-- Leave a note in the log. -/
def note (level : Log.Level) (text : String) : Wires Unit :=
  .ask (.note { level, text }) .done

end Wires

namespace Pads

/-- A program over registers in which an address may overflow. -/
abbrev Realisation := ExceptT Fault Hardware

/-- A register of the pads at a base. -/
def register (base : Direct) (offset : UInt32) : Realisation Direct :=
  ExceptT.mk (pure (base.stride offset))

/-- The bits of the lines that are pulled low. -/
def pulled (levels : Levels) : UInt32 :=
  (if levels.clock then 0 else padClock) ||| (if levels.data then 0 else padData)

/-- Take the pads over, with both output values at zero. -/
def claim (base : Direct) : Realisation Unit := do
  Hardware.update (← register base padOutput) (padClock ||| padData) 0
  Hardware.update (← register base padMask) 0 (padClock ||| padData)

/-- Drive the pads, and read the enable bits back so that the write has arrived. -/
def drive (base : Direct) (levels : Levels) : Realisation Unit := do
  let enable ← register base padEnable
  Hardware.update enable (padClock ||| padData) (pulled levels)
  let _ ← (Hardware.read enable : Hardware UInt32)

/-- Read the pads. -/
def sample (base : Direct) : Realisation Levels := do
  let input ← register base padInput
  let value ← Hardware.read input
  return ⟨value &&& padClock != 0, value &&& padData != 0⟩

/-- A request to the lines as a program over the registers of the pads. -/
def realise (base : Direct) : (request : WireAccess) → Realisation request.Answer
  | .drive levels => drive base levels
  | .sample => sample base
  | .delay microseconds => Hardware.delay microseconds
  | .note entry => Hardware.note entry.level entry.text

/-- A program over the lines, on the pads at a base. -/
def run {α : Type} (base : Direct) (program : Wires α) : Realisation α :=
  program.interpret (realise base)

end Pads

end Scanout.I2c
