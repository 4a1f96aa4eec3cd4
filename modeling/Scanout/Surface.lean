import Scanout.Checked
import Scanout.Text.Hex

/-!
# Surfaces

The picture memory that a pipe scans out: where it starts, how a pixel is stored, its pitch in
pixels and its height. `Format.ofBits?` decodes the format register; `Surface.length` and
`Surface.stop` are computed on sixty-four-bit words.
-/

set_option autoImplicit false
set_option relaxedAutoImplicit false

namespace Scanout

/-- How a pixel is stored. -/
inductive Surface.Format where
  | argb1555
  | rgb565
  | argb8888
  deriving DecidableEq, Repr

namespace Surface.Format

/-- The format register. -/
def bits : Format → UInt32
  | argb1555 => 0x001
  | rgb565 => 0x101
  | argb8888 => 0x002

/-- The format of a register value, if it stands for one. -/
def ofBits? (value : UInt32) : Option Format :=
  if value = 0x001 then some argb1555
  else if value = 0x101 then some rgb565
  else if value = 0x002 then some argb8888
  else none

theorem ofBits?_bits (format : Format) : ofBits? format.bits = some format := by
  cases format <;> decide

/-- What is said of bits that no format has. -/
def unknownMessage (bits : Nat) : String :=
  "unknown field encoding " ++ Text.Hex.short bits

/-- Bytes of one pixel. -/
def bytesPerPixel : Format → Nat
  | argb1555 | rgb565 => 2
  | argb8888 => 4

/-- The format for a depth in bits per pixel. -/
def ofDepth? (depth : UInt8) : Option Format :=
  if depth = 15 then some argb1555
  else if depth = 16 then some rgb565
  else if depth = 24 ∨ depth = 32 then some argb8888
  else none

end Surface.Format

/-- The memory that a pipe scans out. -/
structure Surface where
  location : UInt32
  format : Surface.Format
  pitch : UInt32
  height : UInt32
  deriving DecidableEq, Repr

namespace Surface

/-- Bytes of the surface. -/
def length (surface : Surface) : Except Fault Nat := do
  let pixels ← Checked.mul UInt64.size surface.pitch.toNat surface.height.toNat
  Checked.mul UInt64.size pixels surface.format.bytesPerPixel

/-- The address after the last byte. -/
def stop (surface : Surface) : Except Fault Nat := do
  Checked.add UInt64.size surface.location.toNat (← surface.length)

end Surface

end Scanout
