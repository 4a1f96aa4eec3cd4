import Scanout.Register.Address

/-!
# Encoder blocks

Two analog converters and two digital transmitters. The second transmitter also drives the link
of an internal panel, whose power sequencer has a register of its own.
-/

set_option autoImplicit false
set_option relaxedAutoImplicit false

namespace Scanout.Register

/-- A block of encoder registers. -/
inductive EncoderBlock where
  | dac1
  | dac2
  | tmdsA
  | lvtm
  deriving DecidableEq, Repr

/-- Where the block's registers begin. -/
def EncoderBlock.base : EncoderBlock → UInt32
  | dac1 => 0x7800
  | dac2 => 0x7A00
  | tmdsA => 0x7880
  | lvtm => 0x7A80

/-- The registers of encoder blocks. The first two are common to all blocks, the next two belong
to converters and the rest to transmitters. -/
inductive BlockRegister where
  | control
  | sourceSelect
  | bandgap
  | powerDown
  | bitDepth
  | dataSync
  | transmitterEnable
  | transmitterControl
  deriving DecidableEq, Repr

/-- The register's distance from the start of its block. -/
def BlockRegister.offset : BlockRegister → UInt32
  | control => 0x00
  | sourceSelect => 0x04
  | bandgap => 0x34
  | powerDown => 0x50
  | bitDepth => 0x14
  | dataSync => 0x50
  | transmitterEnable => 0x84
  | transmitterControl => 0x90

/-- A register of a block. -/
def EncoderBlock.register (block : EncoderBlock) (register : BlockRegister) : Direct :=
  ⟨block.base + register.offset⟩

/-- Enable bit of a converter. -/
def dacEnabled : UInt32 := 1

/-- Every power-down bit of a converter. -/
def dacPoweredDown : UInt32 := 0x01010101

/-- The bandgap setting of a converter that is off. -/
def dacBandgapOff : UInt32 := 1

/-- Enable bit of a transmitter. -/
def tmdsEnabled : UInt32 := 1

/-- Control bits of a transmitter that stay set whether or not it is enabled. -/
def tmdsControlBase : UInt32 := 0x1010

/-- Bit depth control of an enabled transmitter. -/
def tmdsBitDepthOn : UInt32 := 0

/-- Bit depth control of a disabled transmitter. -/
def tmdsBitDepthOff : UInt32 := 0x04000000

/-- Data synchronisation of an enabled transmitter. -/
def tmdsDataSyncOn : UInt32 := 1

/-- Data synchronisation of a disabled transmitter. -/
def tmdsDataSyncOff : UInt32 := 0

/-- Transmitter control of every block. -/
def tmdsTransmitterControl : UInt32 := 0x10000011

/-- Further transmitter control bit of the block that can drive a panel. -/
def tmdsTransmitterControlLvtm : UInt32 := 0x20000000

/-- Lanes of an enabled transmitter. -/
def tmdsLanesOn : UInt32 := 0x1F1F

/-- Further lane bit of the block that can drive a panel. -/
def tmdsLanesLvtm : UInt32 := 0x20

/-- Lanes of a disabled transmitter. -/
def tmdsLanesOff : UInt32 := 0x00060000

/-- Lanes of the panel link. -/
def lvdsLanesOn : UInt32 := 0x3E

/-- Transmitter control of the panel link. -/
def lvdsTransmitterControl : UInt32 := 0x30000011

/-- The power sequencer of the panel. -/
def panelSequencer : Direct := ⟨0x7AF0⟩

/-- Enable bit of the power sequencer. -/
def panelPowered : UInt32 := 1

end Scanout.Register
