/-!
# Slave addresses

A slave has a seven-bit or a ten-bit address. `Address.header` is what opens a transfer in either
direction; `Address.turnaround` is the byte after a repeated start that turns an addressed slave
around for reading.
-/

set_option autoImplicit false
set_option relaxedAutoImplicit false

namespace Scanout.I2c

/-- A slave address in either addressing mode. -/
inductive Address where
  | seven (value : UInt8)
  | ten (value : UInt16)
  deriving DecidableEq, Repr

/-- Which way a transfer goes. -/
inductive Direction where
  | write
  | read
  deriving DecidableEq, Repr

/-- The direction's bit in an address byte. -/
def Direction.bit : Direction → UInt8
  | write => 0
  | read => 1

namespace Address

/-- The two high bits of a ten-bit address, in the place that its first byte gives them. -/
def highBits (value : UInt16) : UInt8 :=
  ((value >>> 7) &&& 0x6).toUInt8

/-- The bytes that open a transfer. A ten-bit address takes two: the reserved pattern with the
high bits of the address, then the low eight. -/
def header (address : Address) (direction : Direction) : List UInt8 :=
  match address with
  | seven value => [((value &&& 0x7F) <<< 1) ||| direction.bit]
  | ten value => [highBits value ||| 0xF0 ||| direction.bit, value.toUInt8]

/-- The byte that turns the bus around for reading. A ten-bit slave is already selected by then,
so only its first byte is sent again. -/
def turnaround : Address → UInt8
  | seven value => ((value &&& 0x7F) <<< 1) ||| 1
  | ten value => highBits value ||| 0xF1

/-- The address as a number. -/
def number : Address → UInt16
  | seven value => value.toUInt16
  | ten value => value

end Address

end Scanout.I2c
