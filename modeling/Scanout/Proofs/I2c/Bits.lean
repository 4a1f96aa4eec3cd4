import Scanout.I2c.BitBang

/-!
A byte and its bits, most significant first. Taking a byte apart and shifting it together are
inverse to each other, whichever side of the bus does which.
-/

set_option autoImplicit false
set_option relaxedAutoImplicit false

namespace Scanout.I2c.BitBang

/-- Shift a bit in behind those already there. -/
def shiftIn (byte : UInt8) (bit : Bool) : UInt8 :=
  (byte <<< 1) ||| bit.toUInt8

/-- The bit of a byte that goes over the bus after `place` others. -/
def bitAt (byte : UInt8) (place : Nat) : Bool :=
  byte &&& ((0x80 : UInt8) >>> UInt8.ofNat place) != 0

theorem bits_eq_map_bitAt (byte : UInt8) : bits byte = (List.range 8).map (bitAt byte) := rfl

theorem bits_foldl_shiftIn {samples : List Bool} (hlength : samples.length = 8) :
    bits (samples.foldl shiftIn 0) = samples := by
  match samples, hlength with
  | [a, b, c, d, e, f, g, h], _ => revert a b c d e f g h; decide

theorem foldl_shiftIn_bits (byte : UInt8) : (bits byte).foldl shiftIn 0 = byte := by
  have hall : ∀ n < 256, (bits (UInt8.ofNat n)).foldl shiftIn 0 = UInt8.ofNat n := by
    decide +kernel
  simpa using hall byte.toNat byte.toNat_lt

end Scanout.I2c.BitBang
