import Scanout.Checked

/-!
# Register addresses

The device has two register spaces. `Direct` registers are mapped; those of the memory controller
are reached only through an index and a data register, and have a type of their own so that no
offset of one space is used in the other.
-/

set_option autoImplicit false
set_option relaxedAutoImplicit false

namespace Scanout.Register

/-- A byte offset in the mapped register region. -/
structure Direct where
  offset : UInt32
  deriving DecidableEq, Repr

/-- The same register in a block `delta` bytes further on. -/
def Direct.stride (register : Direct) (delta : UInt32) : Except Fault Direct := do
  return ⟨← Checked.add32 register.offset delta⟩

/-- An offset in the memory controller's own space. -/
structure Controller where
  offset : UInt32
  deriving DecidableEq, Repr

/-- A pair of registers through which another space is reached. -/
structure Window where
  index : Direct
  data : Direct
  deriving DecidableEq, Repr

/-- The index register of the memory controller. -/
def controllerIndex : Direct := ⟨0x0070⟩

/-- The data register of the memory controller. -/
def controllerData : Direct := ⟨0x0074⟩

/-- The window onto the memory controller. -/
def controllerWindow : Window := ⟨controllerIndex, controllerData⟩

/-- Bits of the index that select a read. -/
def controllerReadSelect : UInt32 := 0x007F0000

/-- Bits of the index that select a write: those of a read and the write enable. -/
def controllerWriteSelect : UInt32 := 0x00FF0000

/-- Bits of the index that carry the offset. -/
def controllerOffsetMask : UInt32 := 0x0000FFFF

/-- The index word that reads `register`. -/
def Controller.readIndex (register : Controller) : UInt32 :=
  controllerReadSelect ||| (register.offset &&& controllerOffsetMask)

/-- The index word that writes `register`. -/
def Controller.writeIndex (register : Controller) : UInt32 :=
  controllerWriteSelect ||| (register.offset &&& controllerOffsetMask)

/-- Busy status of the display engine. -/
def engineStatus : Direct := ⟨0x6494⟩

/-- The status once every pending update has been latched. -/
def engineIdle : UInt32 := 0x3FFFFFFF

/-- Base of the legacy aperture, in units of 64 KiB. -/
def vgaMemoryBase : Direct := ⟨0x0310⟩

/-- Start of video memory as the legacy core sees it. -/
def vgaSurfaceStart : Direct := ⟨0x0318⟩

/-- Legacy control of the first pipe. -/
def vga1Control : Direct := ⟨0x0330⟩

/-- Legacy control of the second pipe. -/
def vga2Control : Direct := ⟨0x0338⟩

/-- The legacy control that hands a pipe over to native scan-out. -/
def vgaDisabled : UInt32 := 0

end Scanout.Register
