import Scanout.Pipe.View

/-!
# The hardware cursor

A cursor image is placed, shown, hidden and moved on its own. An image that is empty or larger
than the hardware's is refused before any register is written.
-/

set_option autoImplicit false
set_option relaxedAutoImplicit false

namespace Scanout.Pipe

open Register

/-- An edge of a cursor lies between one pixel and the largest edge. -/
def cursorFits (width height : UInt32) : Bool :=
  0 < width ∧ 0 < height ∧ width ≤ cursorLimit ∧ height ≤ cursorLimit

/-- Place a cursor image. The cursor stays hidden until it is shown. -/
def setCursor {σ : Type} (pipe : Pipe) (location width height : UInt32) : Action σ Unit := do
  if !cursorFits width height then
    Action.refuse (.cursorTooLarge width height cursorLimit)
  Hardware.write (pipe.register .cursorLocation) location
  Hardware.write (pipe.register .cursorSize)
    (Point.of (width - 1).toUInt16 (height - 1).toUInt16).raw
  Hardware.update (pipe.register .cursorControl) cursorFormatMask cursorFormatArgb

/-- Show the cursor. -/
def showCursor (pipe : Pipe) : Hardware Unit :=
  Hardware.update (pipe.register .cursorControl) 0 cursorEnabled

/-- Hide the cursor. -/
def hideCursor (pipe : Pipe) : Hardware Unit :=
  Hardware.update (pipe.register .cursorControl) cursorEnabled 0

/-- A coordinate moved into the range of its register. -/
def cursorCoordinate (value : Int) : UInt16 :=
  (min value.toNat 0xFFFF).toUInt16

/-- Move the cursor. Positions left of or above the screen count as zero. -/
def moveCursor (pipe : Pipe) (x y : Int) : Hardware Unit :=
  Hardware.write (pipe.register .cursorPosition)
    (Point.of (cursorCoordinate x) (cursorCoordinate y)).raw

end Scanout.Pipe
