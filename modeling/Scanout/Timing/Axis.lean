import Scanout.Checked
import Scanout.Register.Packed
import Scanout.Timing.Mode

/-!
# Raster timing

The hardware counts an axis from the leading edge of its sync pulse: sync runs from zero to the
width of the pulse, blanking stops where the active region begins and starts again where it ends.
`Axis.ofMode` turns one axis of a mode into these positions and `Axis.toMode` goes back;
`totalRegister`, `blankRegister`, `syncRegister` and `Polarity.register` write the four registers
of an axis and `Axis.decode` reads them. `Timing.ofMode` does both axes of a mode that passes.
-/

set_option autoImplicit false
set_option relaxedAutoImplicit false

namespace Scanout

open Register

/-- Polarity of a sync pulse. -/
inductive Polarity where
  | positive
  | negative
  deriving DecidableEq, Repr, Inhabited

namespace Polarity

/-- The polarity register. -/
def register : Polarity → UInt32
  | positive => 0
  | negative => 1

/-- The polarity that a register value stands for: its lowest bit decides. -/
def ofRegister (value : UInt32) : Polarity :=
  if value &&& 1 = 0 then positive else negative

/-- The polarity of a set or clear negative flag. -/
def ofNegative (negated : Bool) : Polarity :=
  if negated then negative else positive

end Polarity

namespace Timing

/-- One axis, counted from the start of the sync pulse. -/
structure Axis where
  active : UInt16
  total : UInt16
  blankStart : UInt16
  blankStop : UInt16
  syncStart : UInt16
  syncStop : UInt16
  polarity : Polarity
  deriving DecidableEq, Repr, Inhabited

namespace Axis

/-- The positions of one axis of a mode. -/
def ofMode (axis : Mode.Axis) (polarity : Polarity) : Except Fault Axis := do
  let blankStop ← Checked.sub16 axis.total axis.syncStart
  let blankStart ← Checked.add16 blankStop axis.display
  let syncStop ← Checked.sub16 axis.syncStop axis.syncStart
  return {
    active := axis.display
    total := axis.total
    blankStart
    blankStop
    syncStart := 0
    syncStop
    polarity }

/-- The axis that four register values stand for. The active size is what the blank register
leaves, and the total is one more than its register. -/
def decode (total : UInt32) (blank sync : Span) (polarity : UInt32) : Axis where
  active := blank.start - blank.stop
  total := total.toUInt16 + 1
  blankStart := blank.start
  blankStop := blank.stop
  syncStart := sync.start
  syncStop := sync.stop
  polarity := .ofRegister polarity

/-- The total register: one less than the total, which must not be zero. -/
def totalRegister (axis : Axis) : Except Fault UInt32 :=
  if axis.total = 0 then .error .subtraction else .ok (axis.total.toUInt32 - 1)

/-- The blank register. -/
def blankRegister (axis : Axis) : UInt32 :=
  (Span.of axis.blankStart axis.blankStop).raw

/-- The sync width register. -/
def syncRegister (axis : Axis) : UInt32 :=
  (Span.of axis.syncStart axis.syncStop).raw

/-- The axis as part of a mode. -/
def toMode (axis : Axis) : Except Fault Mode.Axis := do
  let syncStart ← Checked.sub16 axis.total axis.blankStop
  let width ← Checked.sub16 axis.syncStop axis.syncStart
  let syncStop ← Checked.add16 syncStart width
  return { display := axis.active, syncStart, syncStop, total := axis.total }

end Axis

end Timing

/-- Raster positions on both axes. -/
structure Timing where
  h : Timing.Axis
  v : Timing.Axis
  deriving DecidableEq, Repr, Inhabited

/-- The raster of a mode, or the mode's first flaw. -/
def Timing.ofMode (mode : Mode) : Except (Failure Mode.Flaw) Timing := do
  Failure.ofError mode.validate
  let h ← Failure.ofFault (Axis.ofMode mode.h (.ofNegative (mode.has Mode.negativeHSync)))
  let v ← Failure.ofFault (Axis.ofMode mode.v (.ofNegative (mode.has Mode.negativeVSync)))
  return { h, v }

end Scanout
