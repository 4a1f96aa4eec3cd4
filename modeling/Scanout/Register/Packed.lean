import Scanout.Register.Field

/-!
# Packed registers

Registers that hold more than one quantity, each as a word with its fields. Every setter goes
through `Field.set`, so it changes its own field only and cuts its argument to the field. A
`Layout` names the fields of one register, for inspection.
-/

set_option autoImplicit false
set_option relaxedAutoImplicit false

namespace Scanout.Register

/-- A field's value in a thirty-two-bit register. -/
def Field.get32 (field : Field 32) (raw : UInt32) : UInt32 :=
  ⟨field.get raw.toBitVec⟩

/-- A thirty-two-bit register with one field replaced. -/
def Field.set32 (field : Field 32) (raw value : UInt32) : UInt32 :=
  ⟨field.set raw.toBitVec value.toBitVec⟩

/-- The low half of a register. -/
def lowHalf : Field 32 := ⟨0, 0xFFFF⟩

/-- The high half of a register. -/
def highHalf : Field 32 := ⟨16, 0xFFFF⟩

/-- The named fields of a packed register. -/
structure Layout where
  title : String
  fields : List (String × Field 32)
  deriving DecidableEq, Repr

namespace Layout

/-- The field of a name. -/
def field? (layout : Layout) (name : String) : Option (Field 32) :=
  layout.fields.lookup name

/-- The values of all fields in order. -/
def values (layout : Layout) (raw : UInt32) : List UInt32 :=
  layout.fields.map fun (_, field) => field.get32 raw

/-- A register as text: its title, then each field with its value. -/
def describe (layout : Layout) (raw : UInt32) : String :=
  let shown := layout.fields.map fun (name, field) => name ++ s!": {field.get32 raw}"
  layout.title ++ " \x7b " ++ ", ".intercalate shown ++ " \x7d"

end Layout

/-- A coordinate or size pair, x in the high half and y in the low half. -/
structure Point where
  raw : UInt32
  deriving DecidableEq, Repr

namespace Point

/-- The horizontal part. -/
def x (point : Point) : UInt16 := (highHalf.get32 point.raw).toUInt16

/-- The vertical part. -/
def y (point : Point) : UInt16 := (lowHalf.get32 point.raw).toUInt16

/-- The pair with another horizontal part. -/
def setX (point : Point) (value : UInt16) : Point := ⟨highHalf.set32 point.raw value.toUInt32⟩

/-- The pair with another vertical part. -/
def setY (point : Point) (value : UInt16) : Point := ⟨lowHalf.set32 point.raw value.toUInt32⟩

/-- The pair of both parts. -/
def of (x y : UInt16) : Point := ((⟨0⟩ : Point).setX x).setY y

/-- The named fields. -/
def layout : Layout := ⟨"XyReg", [("x", highHalf), ("y", lowHalf)]⟩

end Point

/-- A start and an end, both counted from the start of the sync pulse. -/
structure Span where
  raw : UInt32
  deriving DecidableEq, Repr

namespace Span

/-- Where the span begins. -/
def start (span : Span) : UInt16 := (lowHalf.get32 span.raw).toUInt16

/-- Where the span stops. -/
def stop (span : Span) : UInt16 := (highHalf.get32 span.raw).toUInt16

/-- The span with another beginning. -/
def setStart (span : Span) (value : UInt16) : Span := ⟨lowHalf.set32 span.raw value.toUInt32⟩

/-- The span with another end. -/
def setStop (span : Span) (value : UInt16) : Span := ⟨highHalf.set32 span.raw value.toUInt32⟩

/-- The span with both ends given. -/
def of (start stop : UInt16) : Span := ((⟨0⟩ : Span).setStart start).setStop stop

/-- The named fields. -/
def layout : Layout := ⟨"StartEndReg", [("start", lowHalf), ("end", highHalf)]⟩

end Span

/-- The window of video memory in the address space of the device, in units of 64 KiB. The top
unit belongs to the window. -/
structure Aperture where
  raw : UInt32
  deriving DecidableEq, Repr

namespace Aperture

/-- The first unit. -/
def base (aperture : Aperture) : UInt16 := (lowHalf.get32 aperture.raw).toUInt16

/-- The last unit. -/
def top (aperture : Aperture) : UInt16 := (highHalf.get32 aperture.raw).toUInt16

/-- The window with another first unit. -/
def setBase (aperture : Aperture) (value : UInt16) : Aperture :=
  ⟨lowHalf.set32 aperture.raw value.toUInt32⟩

/-- The window with another last unit. -/
def setTop (aperture : Aperture) (value : UInt16) : Aperture :=
  ⟨highHalf.set32 aperture.raw value.toUInt32⟩

/-- The window over `size` bytes from `base`, both of them addresses in bytes. An empty window at
address zero keeps its top at zero. -/
def covering (base size : UInt32) : Aperture :=
  ((⟨0⟩ : Aperture).setBase (base >>> 16).toUInt16).setTop
    ((base.toNat + size.toNat) / 65536 - 1).toUInt16

/-- The named fields. -/
def layout : Layout := ⟨"McMemoryMapReg", [("base", lowHalf), ("top", highHalf)]⟩

end Aperture

/-- The feedback multiplier of a PLL. -/
structure Feedback where
  raw : UInt32
  deriving DecidableEq, Repr

namespace Feedback

/-- Where the multiplier sits. -/
def field : Field 32 := ⟨16, 0xFF⟩

/-- The multiplier. -/
def multiplier (feedback : Feedback) : UInt8 := (field.get32 feedback.raw).toUInt8

/-- The register with another multiplier. -/
def setMultiplier (feedback : Feedback) (value : UInt8) : Feedback :=
  ⟨field.set32 feedback.raw value.toUInt32⟩

/-- The named fields. -/
def layout : Layout := ⟨"PllFbDivReg", [("fb_div", field)]⟩

end Feedback

/-- The PLL that clocks each pipe: zero for the first, one for the second. -/
structure ClockSource where
  raw : UInt32
  deriving DecidableEq, Repr

namespace ClockSource

/-- Where the choice of the first pipe sits. -/
def firstField : Field 32 := ⟨0, 1⟩

/-- Where the choice of the second pipe sits. -/
def secondField : Field 32 := ⟨16, 1⟩

/-- The PLL of the first pipe. -/
def first (source : ClockSource) : UInt8 := (firstField.get32 source.raw).toUInt8

/-- The PLL of the second pipe. -/
def second (source : ClockSource) : UInt8 := (secondField.get32 source.raw).toUInt8

/-- The register with another choice for the first pipe. -/
def setFirst (source : ClockSource) (value : UInt8) : ClockSource :=
  ⟨firstField.set32 source.raw value.toUInt32⟩

/-- The register with another choice for the second pipe. -/
def setSecond (source : ClockSource) (value : UInt8) : ClockSource :=
  ⟨secondField.set32 source.raw value.toUInt32⟩

/-- The named fields. -/
def layout : Layout := ⟨"CrtcPllSourceReg", [("crtc1", firstField), ("crtc2", secondField)]⟩

end ClockSource

/-- Every packed register. -/
def Layout.all : List Layout :=
  [Point.layout, Span.layout, Aperture.layout, Feedback.layout, ClockSource.layout]

end Scanout.Register
