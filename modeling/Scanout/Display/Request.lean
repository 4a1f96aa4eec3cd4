import Scanout.Display.Basic

/-!
# Requests for a mode

A request names a mode, the outputs to drive and where the picture lies. `Display.plan` accepts
or refuses it as a whole, from cached state alone: routing, clocks, modes, depth, surface,
viewport and PLL are checked in this order, and what they yield is everything that a mode set
will program.
-/

set_option autoImplicit false
set_option relaxedAutoImplicit false

namespace Scanout

/-- A mode to scan out, and where from. -/
structure Request where
  mode : Mode
  /-- The outputs to drive. -/
  outputs : List Output.Id
  /-- Byte offset of the surface in video memory. -/
  offset : UInt32
  /-- Bits per pixel. -/
  depth : UInt8
  /-- Width of the surface in pixels. -/
  width : UInt16
  /-- Height of the surface in pixels. -/
  height : UInt16
  /-- Left edge of the visible area. -/
  x : UInt16
  /-- Top edge of the visible area. -/
  y : UInt16
  deriving DecidableEq, Repr

/-- A request for a surface of thirty-two bits per pixel at the start of video memory, exactly
as large as the mode. -/
def Request.of (mode : Mode) (outputs : List Output.Id) : Request where
  mode
  outputs
  offset := 0
  depth := 32
  width := mode.h.display
  height := mode.v.display
  x := 0
  y := 0

namespace Display

/-- Why an output of a request cannot share its block with another of the request. -/
def clashReason : String := "shares an encoder block with another requested output"

/-- Why an output cannot take a block that another one is using. -/
def busyReason : String := "encoder block is driving another output"

/-- An active output other than this one is on its block. -/
def isBusy (display : Display) (id : Output.Id) : Bool :=
  display.outputs.any fun view => view.isActive && id.sharesBlockWith view.id

/-- Every output exists, none shares its block with another of the list, and none's block is in
use by a different output. -/
def checkRouting (display : Display) (pipe : Pipe) : List Output.Id → Except Error Unit
  | [] => .ok ()
  | id :: rest =>
    if (display.output? id).isNone then .error (.unknownOutput id)
    else match rest.find? fun other => id.sharesBlockWith other with
      | some other => .error (.invalidRouting other pipe clashReason)
      | none =>
        if display.isBusy id then .error (.invalidRouting id pipe busyReason)
        else display.checkRouting pipe rest

/-- The mode that the outputs will be driven with: the first fixed panel's among them, and else
the one asked for. -/
def scanMode (display : Display) (request : Request) : Mode :=
  ((request.outputs.filterMap display.output?).findSome? fun view => view.wiring.panel).getD
    request.mode

/-- The surface of a request, which must end inside video memory and inside the address space. -/
def planSurface (display : Display) (request : Request) (format : Surface.Format) :
    Except (Failure Error) Surface := do
  let limit := display.base.toNat + display.size.toNat
  let location := display.base.toNat + request.offset.toNat
  let stop := location + request.width.toNat * request.height.toNat * format.bytesPerPixel
  if limit < stop then
    throw (.error (.surfaceTooLarge stop limit))
  if UInt32.size ≤ location then
    throw (.error (.surfaceTooLarge stop (UInt32.size - 1)))
  let surface : Surface := {
    location := location.toUInt32
    format
    pitch := request.width.toUInt32
    height := request.height.toUInt32 }
  let _ ← Pipe.surfaceStop surface
  return surface

/-- The visible area of a request lies inside its surface. -/
def checkViewport (request : Request) : Except Error Unit :=
  let width := request.mode.h.display
  let height := request.mode.v.display
  if request.width.toNat < request.x.toNat + width.toNat ∨
      request.height.toNat < request.y.toNat + height.toNat then
    .error (.viewportOutOfBounds request.x request.y width height request.width request.height)
  else .ok ()

/-- Everything that a mode set for the request will program, or the first reason to refuse it.
The mode asked for sizes the visible area even where a panel fixes the raster, so both must
pass. -/
def plan (display : Display) (pipe : Pipe) (request : Request) :
    Except (Failure Error) Pipe.Plan := do
  Failure.ofError (display.checkRouting pipe request.outputs)
  let scan := display.scanMode request
  if request.mode.clock = 0 ∨ scan.clock = 0 then
    throw (.error .zeroClock)
  Failure.ofError (request.mode.validate.mapError Error.invalidMode)
  let timing ← (Timing.ofMode scan).mapError Error.ofFlaw
  let format ← match Surface.Format.ofDepth? request.depth with
    | some format => pure format
    | none => throw (.error (.unsupportedDepth request.depth))
  let surface ← display.planSurface request format
  Failure.ofError (checkViewport request)
  let pll ← Pll.synthesize display.device.chip.generation.pllLimits scan.clock
  return {
    timing
    pll
    surface
    x := request.x
    y := request.y
    width := request.mode.h.display
    height := request.mode.v.display }

end Display

end Scanout
