import Scanout.Register.Address

/-!
# Scan-out pipes

The two pipes, the registers of a pipe's block and those of its PLL. The blocks of the pipes are
alike and `Pipe.stride` apart; the PLLs are not evenly spaced, so each has its own offsets. Pipe n
always runs from PLL n.
-/

set_option autoImplicit false
set_option relaxedAutoImplicit false

namespace Scanout

/-- One of the two scan-out pipes. -/
inductive Pipe where
  | first
  | second
  deriving DecidableEq, Repr

namespace Pipe

/-- Both pipes, in order. -/
def all : List Pipe := [first, second]

/-- The pipe's position, from zero. -/
def index : Pipe → Nat
  | first => 0
  | second => 1

/-- Distance of the pipe's block from the first one. -/
def stride : Pipe → UInt32
  | first => 0
  | second => 0x0800

/-- The pipe's written name. -/
def name (pipe : Pipe) : String :=
  s!"CRTC{pipe.index + 1}"

end Pipe

namespace Register

/-- The registers of a pipe's block. -/
inductive PipeRegister where
  | hTotal
  | hBlank
  | hSyncWidth
  | hSyncPolarity
  | vTotal
  | vBlank
  | vSyncWidth
  | vSyncPolarity
  | control
  | blankControl
  | interlaceControl
  | control60C0
  | scanEnable
  | surfaceFormat
  | surfaceLocation
  | surfaceEnd
  | pitch
  | xLength
  | yLength
  | mode
  | surfaceHeight
  | offsetStart
  | offsetEnd
  | expansionSource
  | expansionControl
  | scaler6594
  | scaler659C
  | scaler65A4
  | scaler65A8
  | scaler65AC
  | scaler65B0
  | scaler65B8
  | scaler65BC
  | scaler65C0
  | scaler65C8
  | cursorControl
  | cursorLocation
  | cursorSize
  | cursorPosition
  deriving DecidableEq, Repr

/-- The offset of a register in the first pipe's block. -/
def PipeRegister.offset : PipeRegister → UInt32
  | hTotal => 0x6000
  | hBlank => 0x6004
  | hSyncWidth => 0x6008
  | hSyncPolarity => 0x600C
  | vTotal => 0x6020
  | vBlank => 0x6024
  | vSyncWidth => 0x6028
  | vSyncPolarity => 0x602C
  | control => 0x6080
  | blankControl => 0x6084
  | interlaceControl => 0x6088
  | control60C0 => 0x60C0
  | scanEnable => 0x6100
  | surfaceFormat => 0x6104
  | surfaceLocation => 0x6110
  | surfaceEnd => 0x6118
  | pitch => 0x6120
  | xLength => 0x6134
  | yLength => 0x6138
  | mode => 0x6528
  | surfaceHeight => 0x652C
  | offsetStart => 0x6580
  | offsetEnd => 0x6584
  | expansionSource => 0x6588
  | expansionControl => 0x6590
  | scaler6594 => 0x6594
  | scaler659C => 0x659C
  | scaler65A4 => 0x65A4
  | scaler65A8 => 0x65A8
  | scaler65AC => 0x65AC
  | scaler65B0 => 0x65B0
  | scaler65B8 => 0x65B8
  | scaler65BC => 0x65BC
  | scaler65C0 => 0x65C0
  | scaler65C8 => 0x65C8
  | cursorControl => 0x6400
  | cursorLocation => 0x6408
  | cursorSize => 0x6410
  | cursorPosition => 0x6414

/-- The values that the scaler's fixed registers need for a stable picture, in the order in which
they are written. -/
def scalerSettings : List (PipeRegister × UInt32) :=
  [(.scaler6594, 0x00000000), (.scaler659C, 0x00000100), (.scaler65A8, 0x00010000),
    (.scaler65AC, 0x00000000), (.scaler65B8, 0x00010000), (.scaler65BC, 0x00000000),
    (.scaler65C8, 0x00000000), (.scaler65A4, 0x00010001), (.scaler65B0, 0x00000000),
    (.scaler65C0, 0x00000000)]

/-- Master enable in the control register. -/
def pipeEnabled : UInt32 := 1

/-- Surface fetch enable in the scan register. -/
def scanEnabled : UInt32 := 1

/-- Enable bit of the scaler. -/
def expansionEnabled : UInt32 := 1

/-- The mode that turns legacy text compatibility off. -/
def modeNative : UInt32 := 0

/-- Enable bit of the cursor. -/
def cursorEnabled : UInt32 := 1

/-- Bits of the cursor control that choose the image format. -/
def cursorFormatMask : UInt32 := 0x300

/-- The premultiplied thirty-two-bit image format of a cursor. -/
def cursorFormatArgb : UInt32 := 0x200

/-- Largest edge of a cursor in pixels. -/
def cursorLimit : UInt32 := 64

/-- The registers of a pixel clock PLL. -/
inductive PllRegister where
  | referenceSource
  | updateLock
  | reference
  | feedback
  | postSource
  | post
  | extendedControl
  | control
  deriving DecidableEq, Repr

/-- The registers of a PLL, in the order in which they are listed for inspection. -/
def PllRegister.all : List PllRegister :=
  [referenceSource, updateLock, reference, feedback, postSource, post, extendedControl, control]

/-- Reference divider fed from the crystal. -/
def referenceFromCrystal : UInt32 := 1

/-- Post divider fed from the oscillator. -/
def postFromOscillator : UInt32 := 1

/-- Value of the update lock while dividers change. -/
def updateLocked : UInt32 := 1

/-- Charge pump and oscillator range constants. -/
def pllExtendedControl : UInt32 := 0x00000201

/-- Loop filter constants, with the reset and sleep bits clear. -/
def pllRunning : UInt32 := 0x00010000

/-- Bit that holds a PLL in reset. -/
def pllReset : UInt32 := 1

/-- Bit that powers a PLL down. -/
def pllSleep : UInt32 := 2

/-- Which PLL drives each pipe. -/
def clockSource : Direct := ⟨0x0480⟩

end Register

open Register

/-- A register of this pipe's block. -/
def Pipe.register (pipe : Pipe) (register : PipeRegister) : Direct :=
  ⟨register.offset + pipe.stride⟩

/-- A register of this pipe's PLL. -/
def Pipe.pll : Pipe → PllRegister → Direct
  | .first, .referenceSource => ⟨0x0400⟩
  | .first, .reference => ⟨0x0404⟩
  | .first, .updateLock => ⟨0x0408⟩
  | .first, .feedback => ⟨0x0430⟩
  | .first, .postSource => ⟨0x0438⟩
  | .first, .post => ⟨0x043C⟩
  | .first, .extendedControl => ⟨0x0448⟩
  | .first, .control => ⟨0x0450⟩
  | .second, .referenceSource => ⟨0x0410⟩
  | .second, .reference => ⟨0x0414⟩
  | .second, .updateLock => ⟨0x0418⟩
  | .second, .feedback => ⟨0x0434⟩
  | .second, .postSource => ⟨0x0440⟩
  | .second, .post => ⟨0x0444⟩
  | .second, .extendedControl => ⟨0x044C⟩
  | .second, .control => ⟨0x0454⟩

/-- The offset of a pipe's register never leaves the word: it is the checked stride of the first
pipe's register. -/
theorem Pipe.stride_register (pipe : Pipe) (register : PipeRegister) :
    (Direct.mk register.offset).stride pipe.stride = .ok (pipe.register register) := by
  cases pipe <;> cases register <;> rfl

end Scanout
