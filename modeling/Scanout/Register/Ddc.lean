import Scanout.Register.Address

/-!
# Registers of the monitor channel

The hardware engine that moves bytes to and from the monitor, and the pads on which the same
lines can be driven one by one. With a pad's output value held at zero, setting its enable bit
pulls the line low and clearing it releases the line.
-/

set_option autoImplicit false
set_option relaxedAutoImplicit false

namespace Scanout.Register

/-- Status of the engine. -/
def i2cStatus : Direct := ⟨0x7D30⟩

/-- Stop condition. -/
def i2cStop : Direct := ⟨0x7D34⟩

/-- Start condition, connector and pending commands. -/
def i2cStart : Direct := ⟨0x7D38⟩

/-- Bytes of the next transaction, and the prescale. -/
def i2cSize : Direct := ⟨0x7D3C⟩

/-- Acknowledge latch. -/
def i2cAcknowledge : Direct := ⟨0x7D40⟩

/-- Byte queue. -/
def i2cData : Direct := ⟨0x7D44⟩

/-- Enable and reset of the engine. -/
def i2cControl : Direct := ⟨0x7D50⟩

/-- Status: the transaction is complete. -/
def i2cDone : UInt32 := 1

/-- Status: the slave did not acknowledge. -/
def i2cNack : UInt32 := 2

/-- Status: the engine halted. -/
def i2cHalt : UInt32 := 4

/-- Status: the command is still waiting. -/
def i2cPending : UInt32 := 8

/-- The status bits that the start register repeats. -/
def i2cCommandMask : UInt32 := 0x7

/-- Bit that kicks a transaction off. -/
def i2cKick : UInt32 := 0x100

/-- Where the connector is chosen in the start register. -/
def i2cConnectorShift : UInt32 := 16

/-- Bits of the start register that choose the connector. -/
def i2cConnectorMask : UInt32 := 0x30000

/-- Bits of the size register that hold the prescale. -/
def i2cPrescaleMask : UInt32 := 0xFF

/-- Where the byte count sits in the size register. -/
def i2cCountShift : UInt32 := 24

/-- Bits of the size register that hold the byte count. -/
def i2cCountMask : UInt32 := 0x0F000000

/-- Largest byte count of one transaction. -/
def i2cCountLimit : Nat := 15

/-- Bit that enables the engine. -/
def i2cEnabled : UInt32 := 1

/-- Bit that resets the engine. -/
def i2cReset : UInt32 := 0x100

/-- The pads of the analog connector. -/
def padVga : Direct := ⟨0x7E50⟩

/-- The pads of the second digital connector. -/
def padDvi : Direct := ⟨0x7E30⟩

/-- The pads of the panel. -/
def padPanel : Direct := ⟨0x7E40⟩

/-- The pads of the second converter. -/
def padSecondary : Direct := ⟨0x7E20⟩

/-- Offset of a pad's software control mask. -/
def padMask : UInt32 := 0x0

/-- Offset of a pad's output value. -/
def padOutput : UInt32 := 0x4

/-- Offset of a pad's output enable. -/
def padEnable : UInt32 := 0x8

/-- Offset of a pad's input. -/
def padInput : UInt32 := 0xC

/-- Bit of the clock line. -/
def padClock : UInt32 := 0x1

/-- Bit of the data line. -/
def padData : UInt32 := 0x100

end Scanout.Register
