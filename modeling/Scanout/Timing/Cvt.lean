import Scanout.Timing.Mode

/-!
# Computed modes

The coordinated timing formula with normal blanking: progressive, without margins. The estimate
of a line's duration and the blanking share are binary floating-point numbers in double
precision; each is cut to a whole number as soon as it becomes a count, and a negative count is
zero.
-/

set_option autoImplicit false
set_option relaxedAutoImplicit false

namespace Scanout.Mode

/-- Width of the vertical sync pulse in lines, which encodes the aspect ratio of the picture. -/
def verticalSyncWidth (width height : Nat) : Nat :=
  if height % 3 = 0 ∧ height * 4 / 3 = width then 4
  else if height % 9 = 0 ∧ height * 16 / 9 = width then 5
  else if height % 10 = 0 ∧ height * 16 / 10 = width then 6
  else if (height % 4 = 0 ∧ height * 5 / 4 = width) ∨
      (height % 9 = 0 ∧ height * 15 / 9 = width) then 7
  else 10

/-- The number with its remainder by `step` taken off. -/
def roundDown (step n : Nat) : Nat :=
  n - n % step

/-- A duration or share as a whole count: the fraction is cut off and negative values are
zero. -/
def wholeCount (value : Float) : Nat :=
  value.toUInt32.toNat

/-- A natural number below `2 ^ 32` as a floating-point number. -/
def exactFloat (n : Nat) : Float :=
  n.toUInt32.toFloat

/-- The mode that the formula gives for a size and refresh rate. Widths are cut to whole cells
of eight pixels and the clock to steps of 250 kHz. -/
def computed (width height : UInt16) (hz : UInt32) : Mode :=
  let active := roundDown 8 width.toNat
  let lines := height.toNat
  let vsync := verticalSyncWidth width.toNat lines
  let period := (1000000.0 / exactFloat (max hz.toNat 1) - 550.0) / exactFloat (lines + 3)
  let backPorch := max (wholeCount (550.0 / period) + 1) (vsync + 6)
  let vtotal := lines + backPorch + 3
  let share := 30.0 - 300.0 * period / 1000.0
  let share := if share < 20.0 then 20.0 else share
  let blank := roundDown 16 (wholeCount (exactFloat active * share / (100.0 - share)))
  let htotal := active + blank
  let clock := roundDown 250 (wholeCount (exactFloat htotal * 1000.0 / period))
  let hsyncStop := active + blank / 2
  let hsync := roundDown 8 (htotal * 8 / 100)
  let vsyncStart := lines + 3
  { clock := clock.toUInt32
    h := {
      display := active.toUInt16
      syncStart := (hsyncStop - hsync).toUInt16
      syncStop := hsyncStop.toUInt16
      total := htotal.toUInt16 }
    v := {
      display := height
      syncStart := vsyncStart.toUInt16
      syncStop := (vsyncStart + vsync).toUInt16
      total := vtotal.toUInt16 }
    flags := negativeHSync ||| positiveVSync }

end Scanout.Mode
