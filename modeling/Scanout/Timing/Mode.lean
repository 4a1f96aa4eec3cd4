/-!
# Display modes

A mode in the usual modeline form: a pixel clock and, on each axis, where the active pixels end,
where the sync pulse begins and ends, and the total. `Mode.flaw?` names the first reason for
which the hardware cannot scan a mode out, in a fixed order of checks.
-/

set_option autoImplicit false
set_option relaxedAutoImplicit false

namespace Scanout

/-- One axis of a mode, counted from the first active pixel or line. -/
structure Mode.Axis where
  display : UInt16
  syncStart : UInt16
  syncStop : UInt16
  total : UInt16
  deriving DecidableEq, Repr, Inhabited

/-- A display mode: the pixel clock in kHz, both axes and the flag bits. -/
structure Mode where
  clock : UInt32
  h : Mode.Axis
  v : Mode.Axis
  flags : UInt32
  deriving DecidableEq, Repr, Inhabited

namespace Mode

/-- Flag: positive horizontal sync. -/
def positiveHSync : UInt32 := 0x01

/-- Flag: negative horizontal sync. -/
def negativeHSync : UInt32 := 0x02

/-- Flag: positive vertical sync. -/
def positiveVSync : UInt32 := 0x04

/-- Flag: negative vertical sync. -/
def negativeVSync : UInt32 := 0x08

/-- Flag: every line is scanned twice. -/
def doubleScan : UInt32 := 0x20

/-- A flag is set. -/
def has (mode : Mode) (flag : UInt32) : Bool :=
  mode.flags &&& flag == flag

/-- Lowest pixel clock that can be scanned out, in kHz. -/
def minClock : UInt32 := 25000

/-- Highest pixel clock that can be scanned out, in kHz. -/
def maxClock : UInt32 := 400000

/-- Smallest active width or height. -/
def minActive : UInt16 := 128

/-- Why a mode cannot be scanned out. -/
inductive Flaw where
  | doubleScan
  | clockOutOfRange (clock : UInt32)
  | horizontalOrder
  | verticalOrder
  | tooSmall (width height : UInt16)
  deriving DecidableEq, Repr

/-- The flaw in words. -/
def Flaw.message : Flaw → String
  | doubleScan => "doublescan modes are not supported"
  | clockOutOfRange clock =>
    s!"pixel clock {clock} kHz is outside {minClock}..={maxClock} kHz"
  | horizontalOrder =>
    "horizontal timings are not in display <= sync start <= sync end <= total order"
  | verticalOrder =>
    "vertical timings are not in display <= sync start <= sync end <= total order"
  | tooSmall width height =>
    s!"active area {width}x{height} is below the {minActive}x{minActive} minimum"

/-- Display, sync start, sync end and total stand in this order, with something shown and
something blank. -/
def Axis.Ordered (axis : Axis) : Prop :=
  0 < axis.display ∧ axis.display ≤ axis.syncStart ∧ axis.syncStart ≤ axis.syncStop ∧
    axis.syncStop ≤ axis.total ∧ axis.display < axis.total

instance (axis : Axis) : Decidable axis.Ordered :=
  inferInstanceAs (Decidable (_ ∧ _ ∧ _ ∧ _ ∧ _))

/-- The first reason for which the mode cannot be scanned out. -/
def flaw? (mode : Mode) : Option Flaw :=
  if mode.has doubleScan then some .doubleScan
  else if mode.clock < minClock ∨ maxClock < mode.clock then some (.clockOutOfRange mode.clock)
  else if ¬mode.h.Ordered then some .horizontalOrder
  else if ¬mode.v.Ordered then some .verticalOrder
  else if mode.h.display < minActive ∨ mode.v.display < minActive then
    some (.tooSmall mode.h.display mode.v.display)
  else none

/-- The mode passes, or its first flaw. -/
def validate (mode : Mode) : Except Flaw Unit :=
  match mode.flaw? with
  | some flaw => .error flaw
  | none => .ok ()

/-- Frames in a second, rounded to nearest; zero if a total is zero. -/
def refresh (mode : Mode) : UInt32 :=
  let pixels := mode.h.total.toNat * mode.v.total.toNat
  if pixels = 0 then 0
  else ((mode.clock.toNat * 1000 + pixels / 2) / pixels).toUInt32

end Mode

end Scanout
