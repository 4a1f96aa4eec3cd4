import Scanout.I2c.BitBang
import Scanout.I2c.Controller

/-!
# Monitor identification

A monitor keeps its description in blocks of 128 bytes behind one slave address, two blocks to a
segment; a second slave holds the number of the segment, which falls back to zero at every stop.
`Bus` is what fetching a block needs of a transport. The hardware engine and the line-by-line
master each provide one.
-/

set_option autoImplicit false
set_option relaxedAutoImplicit false

namespace Scanout.Edid

open I2c

/-- Address of the description's memory. -/
def memoryAddress : UInt8 := 0x50

/-- Address of the segment pointer. -/
def segmentAddress : UInt8 := 0x30

/-- Bytes of a block. -/
def blockLength : Nat := 128

/-- How every first block begins. -/
def header : List UInt8 := [0x00, 0xFF, 0xFF, 0xFF, 0xFF, 0xFF, 0xFF, 0x00]

/-- A transport to the monitor, in any monad. -/
structure Bus (m : Type → Type) where
  /-- One transaction with a seven-bit slave; the answer has a buffer for each read phase. -/
  exchange : (address : UInt8) → List Phase → m (Except I2c.Error (List (List UInt8)))
  /-- Point at a segment and read from an offset in it, as one transaction. -/
  readSegment : (segment offset : UInt8) → (count : Nat) → m (Except I2c.Error (List UInt8))
  /-- Leave a note in the log. -/
  note : Log.Entry → m Unit

variable {m : Type → Type} [Monad m]

/-- A monitor answers at the memory's address. -/
def probe (bus : Bus m) : m Bool := do
  match ← bus.exchange memoryAddress [.write []] with
  | .ok _ => return true
  | .error _ => return false

/-- Read bytes of the segment that no pointer has moved. -/
def readFirst (bus : Bus m) (offset : UInt8) (count : Nat) :
    m (Except I2c.Error (List UInt8)) := do
  match ← bus.exchange memoryAddress [.write [offset], .read count] with
  | .ok buffers => return .ok buffers.flatten
  | .error cause => return .error cause

/-- Read one block. Blocks past the first segment go through the segment pointer. -/
def readBlock (bus : Bus m) (block : UInt8) : m (Except I2c.Error (List UInt8)) := do
  let offset := (block % 2) * 128
  let outcome ←
    if block < 2 then readFirst bus offset blockLength
    else bus.readSegment (block / 2) offset blockLength
  if let .ok _ := outcome then
    bus.note { level := .debug, text := s!"ddc: read EDID block {block}" }
  return outcome

/-- The bytes of a block sum to zero modulo 256. -/
def checksumOk (block : List UInt8) : Bool :=
  block.foldl (· + ·) 0 = 0

/-- The block begins with the fixed header. -/
def hasHeader (block : List UInt8) : Bool :=
  block.take header.length = header

/-- The buffers of a finished transfer, or why it failed. -/
def answer (phases : List Phase) (outcome : Except I2c.Error Unit) (received : List UInt8) :
    Except I2c.Error (List (List UInt8)) :=
  outcome.map fun _ => Phase.buffers phases received

/-- The hardware engine's transfer that points at a segment and reads from an offset in it. -/
def Segment.ofController (controller : Controller) (segment offset : UInt8) (count : Nat) :
    Controller.Exchange Unit :=
  controller.readBehind (.seven segmentAddress) segment (.seven memoryAddress) offset count

/-- The line-by-line transfer that points at a segment and reads from an offset in it. -/
def Segment.ofBitBang (config : Config.BitBang) (segment offset : UInt8) (count : Nat) :
    BitBang.Exchange Unit :=
  BitBang.readBehind config (.seven segmentAddress) segment (.seven memoryAddress) offset count

/-- The hardware engine as a transport. -/
def Bus.ofController (controller : Controller) : Bus Hardware where
  exchange address phases := do
    let (outcome, link) ← Controller.perform (controller.transfer (.seven address) phases)
    return answer phases outcome link.received
  readSegment segment offset count := do
    let (outcome, link) ← Controller.perform (Segment.ofController controller segment offset count)
    return outcome.map fun _ => Phase.fill count link.received
  note entry := Hardware.note entry.level entry.text

/-- The line-by-line master as a transport. -/
def Bus.ofBitBang (config : Config.BitBang) : Bus Wires where
  exchange address phases := do
    let (outcome, master) ← BitBang.perform (BitBang.transfer config (.seven address) phases)
    return answer phases outcome master.received
  readSegment segment offset count := do
    let (outcome, master) ← BitBang.perform (Segment.ofBitBang config segment offset count)
    return outcome.map fun _ => Phase.fill count master.received
  note entry := Wires.note entry.level entry.text

end Scanout.Edid
