import Scanout.Proofs.Display.Session
import Scanout.Proofs.Pll

/-!
The arithmetic on words that is done without a check of its own. Sums and products of words are
formed over the natural numbers, some differences and addresses modulo the word, and counters of
polling loops are natural numbers as well. Each such computation stands here once more with every
step in the word that the machine forms it in, and comes to the same; `Call.Fits` says so of all
that a call works out. What is checked in place, as the positions of a raster are, is not repeated:
it faults where it does not fit.
-/

set_option autoImplicit false
set_option relaxedAutoImplicit false

namespace Scanout

open Register

/-!
Addresses and shifts, which depend on nothing that is asked or answered.
-/

namespace Register

/-- The address of an encoder's register never leaves the word: it is the checked stride of its
block. -/
theorem EncoderBlock.stride_register (block : EncoderBlock) (register : BlockRegister) :
    (Direct.mk block.base).stride register.offset = .ok (block.register register) := by
  cases block <;> cases register <;> rfl

/-- Every named field of a packed register begins inside the word. -/
theorem Layout.offset_lt : ∀ layout ∈ Layout.all, ∀ entry ∈ layout.fields, entry.2.offset < 32 := by
  decide

/-- No address and no shift leaves its word. -/
structure WordsFit : Prop where
  pipes : ∀ (pipe : Pipe) (register : PipeRegister),
    (Direct.mk register.offset).stride pipe.stride = .ok (pipe.register register)
  encoders : ∀ (block : EncoderBlock) (register : BlockRegister),
    (Direct.mk block.base).stride register.offset = .ok (block.register register)
  reads : ∀ layout ∈ Layout.all, ∀ entry ∈ layout.fields, ∀ raw,
    entry.2.getChecked raw = .ok (entry.2.get raw)
  writes : ∀ layout ∈ Layout.all, ∀ entry ∈ layout.fields, ∀ raw value,
    entry.2.setChecked raw value = .ok (entry.2.set raw value)

theorem wordsFit : WordsFit where
  pipes := Pipe.stride_register
  encoders := EncoderBlock.stride_register
  reads layout hlayout entry hentry _ := if_pos (Layout.offset_lt layout hlayout entry hentry)
  writes layout hlayout entry hentry _ _ := if_pos (Layout.offset_lt layout hlayout entry hentry)

end Register

/-!
Planning a mode. The sums of a request are of words half as wide as the one they are formed in.
-/

theorem Checked.add_words16 (a b : UInt16) :
    Checked.add UInt32.size a.toNat b.toNat = .ok (a.toNat + b.toNat) := by
  have hsum := Nat.add_lt_add a.toNat_lt_size b.toNat_lt_size
  exact Checked.add_eq_ok.mpr ⟨Nat.lt_trans hsum (by decide), rfl⟩

theorem Checked.add_words32 (a b : UInt32) :
    Checked.add UInt64.size a.toNat b.toNat = .ok (a.toNat + b.toNat) := by
  have hsum := Nat.add_lt_add a.toNat_lt_size b.toNat_lt_size
  exact Checked.add_eq_ok.mpr ⟨Nat.lt_trans hsum (by decide), rfl⟩

theorem Surface.Format.bytesPerPixel_le (format : Format) : format.bytesPerPixel ≤ 4 := by
  cases format <;> decide

namespace Surface

/-- The bytes of a surface that is given in sixteen-bit sizes. -/
theorem bytes_lt (format : Format) {width height : Nat} (hwidth : width < UInt16.size)
    (hheight : height < UInt16.size) :
    width * height < UInt32.size ∧ width * height * format.bytesPerPixel < 4 * UInt32.size := by
  have hpixels : width * height < UInt32.size := Nat.mul_lt_mul'' hwidth hheight
  have hbytes : width * height * format.bytesPerPixel ≤ width * height * 4 :=
    Nat.mul_le_mul_left _ format.bytesPerPixel_le
  exact ⟨hpixels, by omega⟩

/-- Both products of a surface of sixteen-bit sizes fit. -/
theorem mul_sizes (format : Format) {width height : Nat} (hwidth : width < UInt16.size)
    (hheight : height < UInt16.size) :
    Checked.mul UInt64.size width height = .ok (width * height) ∧
      Checked.mul UInt64.size (width * height) format.bytesPerPixel =
        .ok (width * height * format.bytesPerPixel) := by
  obtain ⟨hpixels, hbytes⟩ := bytes_lt format hwidth hheight
  have hword : 4 * UInt32.size < UInt64.size := by decide
  exact ⟨Checked.mul_eq_ok.mpr ⟨by omega, rfl⟩, Checked.mul_eq_ok.mpr ⟨by omega, rfl⟩⟩

/-- The end of a surface of sixteen-bit sizes, from an address that is itself a sum. -/
theorem add_bytes (format : Format) {location width height : Nat}
    (hlocation : location < 2 * UInt32.size) (hwidth : width < UInt16.size)
    (hheight : height < UInt16.size) :
    Checked.add UInt64.size location (width * height * format.bytesPerPixel) =
      .ok (location + width * height * format.bytesPerPixel) := by
  obtain ⟨-, hbytes⟩ := bytes_lt format hwidth hheight
  have hword : 8 * UInt32.size < UInt64.size := by decide
  exact Checked.add_eq_ok.mpr ⟨by omega, rfl⟩

/-- The end of a surface of sixteen-bit sizes has an address, if not one that its register holds. -/
theorem exists_stop {surface : Surface} (hpitch : surface.pitch.toNat < UInt16.size)
    (hheight : surface.height.toNat < UInt16.size) : ∃ stop, surface.stop = .ok stop := by
  obtain ⟨hpixels, hbytes⟩ := mul_sizes surface.format hpitch hheight
  have hlocation := surface.location.toNat_lt_size
  rw [stop, length, hpixels, Except.ok_bind, hbytes, Except.ok_bind]
  exact ⟨_, add_bytes surface.format (by omega) hpitch hheight⟩

end Surface

namespace Display

/-- The surface of a request, with every step in words. -/
def planSurfaceWords (display : Display) (request : Request) (format : Surface.Format) :
    Except (Failure Error) Surface := do
  let limit ← Failure.ofFault
    (Checked.add UInt64.size display.base.toNat display.size.toNat)
  let location ← Failure.ofFault
    (Checked.add UInt64.size display.base.toNat request.offset.toNat)
  let pixels ← Failure.ofFault
    (Checked.mul UInt64.size request.width.toNat request.height.toNat)
  let length ← Failure.ofFault (Checked.mul UInt64.size pixels format.bytesPerPixel)
  let stop ← Failure.ofFault (Checked.add UInt64.size location length)
  if limit < stop then
    throw (.error (.surfaceTooLarge stop limit))
  if UInt32.size ≤ location then
    throw (.error (.surfaceTooLarge stop (UInt32.size - 1)))
  let surface : Surface := {
    location := location.toUInt32
    format
    pitch := request.width.toUInt32
    height := request.height.toUInt32 }
  let _ ← Pipe.surfaceStop surface
  return surface

theorem planSurfaceWords_eq (display : Display) (request : Request) (format : Surface.Format) :
    display.planSurfaceWords request format = display.planSurface request format := by
  have hwidth := request.width.toNat_lt_size
  have hheight := request.height.toNat_lt_size
  have hbase := display.base.toNat_lt_size
  have hoffset := request.offset.toNat_lt_size
  have hlocation : display.base.toNat + request.offset.toNat < 2 * UInt32.size := by omega
  obtain ⟨hpixels, hbytes⟩ := Surface.mul_sizes format hwidth hheight
  have hstop := Surface.add_bytes format hlocation hwidth hheight
  rw [planSurfaceWords, Checked.add_words32, Checked.add_words32, hpixels]
  simp only [Failure.ofFault, Except.ok_bind, hbytes, hstop]
  rfl

/-- The check of the visible area, with both of its far edges in words. -/
def checkViewportWords (request : Request) : Except (Failure Error) Unit := do
  let width := request.mode.h.display
  let height := request.mode.v.display
  let right ← Failure.ofFault (Checked.add UInt32.size request.x.toNat width.toNat)
  let bottom ← Failure.ofFault (Checked.add UInt32.size request.y.toNat height.toNat)
  if request.width.toNat < right ∨ request.height.toNat < bottom then
    throw (.error
      (.viewportOutOfBounds request.x request.y width height request.width request.height))

theorem checkViewportWords_eq (request : Request) :
    checkViewportWords request = Failure.ofError (checkViewport request) := by
  simp only [checkViewportWords, Checked.add_words16, Failure.ofFault, Except.ok_bind,
    checkViewport]
  split <;> rfl

end Display

namespace Pipe

/-- One coordinate of the end of the visible area, with its sum in words. -/
def viewportStopWords (start size : Nat) : Except Fault UInt16 := do
  let stop ← Checked.add UInt32.size size start
  return (stop - viewportBias).toUInt16

theorem viewportStopWords_eq (start size : UInt16) :
    viewportStopWords start.toNat size.toNat = .ok (viewportStop start.toNat size.toNat) := by
  rw [viewportStopWords, Checked.add_words16]
  rfl

end Pipe

/-- The aperture over video memory, with its end in words. -/
def Register.Aperture.coveringWords (base size : UInt32) : Except Fault Aperture := do
  let stop ← Checked.add UInt64.size base.toNat size.toNat
  return ((⟨0⟩ : Aperture).setBase (base >>> 16).toUInt16).setTop (stop / 65536 - 1).toUInt16

theorem Register.Aperture.coveringWords_eq (base size : UInt32) :
    coveringWords base size = .ok (covering base size) := by
  rw [coveringWords, Checked.add_words32]
  rfl

/-- What is worked out of a request before it is accepted comes to the same in words, and nothing is
divided by zero. -/
structure Request.Fits (display : Display) (request : Request) : Prop where
  surface : ∀ format, display.planSurfaceWords request format = display.planSurface request format
  viewport : Display.checkViewportWords request = Failure.ofError (Display.checkViewport request)
  candidates : ∀ reference post,
    display.device.chip.generation.pllLimits.candidateWords? (display.scanMode request).clock.toNat
      reference post =
    display.device.chip.generation.pllLimits.candidate? (display.scanMode request).clock.toNat
      reference post
  divisors : display.device.chip.generation.pllLimits.Accepts
    (display.scanMode request).clock.toNat fun candidate ↦
      0 < Pll.feedbackScale * candidate.product

/-- What is worked out of a plan while it is programmed comes to the same in words. -/
structure Pipe.Plan.Fits (plan : Pipe.Plan) : Prop where
  right : viewportStopWords (plan.x - plan.x % 4).toNat plan.width.toNat =
    .ok (viewportStop (plan.x - plan.x % 4).toNat plan.width.toNat)
  bottom : viewportStopWords plan.y.toNat plan.height.toNat =
    .ok (viewportStop plan.y.toNat plan.height.toNat)

theorem Request.fits (display : Display) (request : Request) : request.Fits display where
  surface := display.planSurfaceWords_eq request
  viewport := Display.checkViewportWords_eq request
  candidates := Pll.Limits.candidateWords?_eq _ _
  divisors := Pll.Limits.accepts_divisor _ _

theorem Pipe.Plan.fits (plan : Pipe.Plan) : plan.Fits where
  right := viewportStopWords_eq _ _
  bottom := viewportStopWords_eq _ _

/-!
Placing a cursor. The sizes are one less than what was checked to be at least one, and a position is
moved into an interval that is not empty.
-/

theorem Pipe.sub_one_fits {size : UInt32} (hsize : 0 < size) :
    Checked.sub size.toNat 1 = .ok (size - 1).toNat := by
  have hone : (1 : UInt32) ≤ size := UInt32.le_iff_toNat_le.mpr (UInt32.lt_iff_toNat_lt.mp hsize)
  rw [UInt32.toNat_sub_of_le _ _ hone]
  exact if_pos (UInt32.le_iff_toNat_le.mp hone)

/-- Placing a cursor, with both of its last coordinates in words. -/
def Pipe.setCursorWords {σ : Type} (pipe : Pipe) (location width height : UInt32) :
    Action σ Unit := do
  if !cursorFits width height then
    Action.refuse (.cursorTooLarge width height cursorLimit)
  Hardware.write (pipe.register .cursorLocation) location
  let right ← Action.checked (Checked.sub width.toNat 1)
  let bottom ← Action.checked (Checked.sub height.toNat 1)
  Hardware.write (pipe.register .cursorSize) (Point.of right.toUInt16 bottom.toUInt16).raw
  Hardware.update (pipe.register .cursorControl) cursorFormatMask cursorFormatArgb

/-- A cursor without pixels is refused before its last coordinates are worked out. -/
theorem Pipe.setCursorWords_eq {σ : Type} (pipe : Pipe) (location width height : UInt32) :
    (pipe.setCursorWords location width height : Action σ Unit) =
      pipe.setCursor location width height := by
  unfold setCursorWords setCursor
  cases hfits : cursorFits width height with
  | false => rfl
  | true =>
    rw [cursorFits, decide_eq_true_iff] at hfits
    obtain ⟨hwidth, hheight, -, -⟩ := hfits
    rw [sub_one_fits hwidth, sub_one_fits hheight]
    rfl

theorem Pipe.clamp_cursorCoordinate (value : Int) :
    Checked.clamp value.toNat 0 0xFFFF = .ok (cursorCoordinate value).toNat := by
  have hword : min value.toNat 0xFFFF < UInt16.size :=
    Nat.lt_of_le_of_lt (Nat.min_le_right _ _) (by decide)
  rw [Checked.clamp, if_pos (Nat.zero_le _), Nat.zero_max, cursorCoordinate]
  exact congrArg Except.ok (UInt16.toNat_ofNat_of_lt' hword).symm

/-!
Talking to a monitor.
-/

namespace I2c

/-- The place of a chunk, in bytes, lies before the end of what is cut. -/
theorem mul_lt_of_lt_length {chunk count place : Nat} (hchunk : 0 < chunk)
    (hplace : place < (chunkSizes chunk count).length) : place * chunk < count := by
  have hcount := Nat.div_add_mod count chunk
  rw [Nat.mul_comm] at hcount
  rw [chunkSizes, List.length_append, List.length_replicate] at hplace
  split at hplace
  · rename_i hrest
    have hle : (place + 1) * chunk ≤ count / chunk * chunk :=
      Nat.mul_le_mul_right _ (Nat.succ_le_of_lt (by simpa using hplace))
    rw [Nat.add_mul] at hle
    omega
  · rename_i hrest
    have hle : place * chunk ≤ count / chunk * chunk :=
      Nat.mul_le_mul_right _ (by simpa using Nat.lt_succ_iff.mp hplace)
    omega

namespace Controller

/-- Polling with both of its counters kept in words. -/
def pollWords (config : Config.Controller) :
    (polls done nacks : Nat) → ExceptT Fault Hardware Verdict
  | 0, _, _ => return .undecided
  | polls + 1, done, nacks => do
    let status ← Hardware.read i2cStatus
    if status = i2cDone then
      let done ← ExceptT.mk (pure (Checked.add UInt32.size done 1))
      if done = config.doneReads.toNat then
        return .complete
      Hardware.delay config.pollInterval
      pollWords config polls done nacks
    else if status = i2cNack then
      let nacks ← ExceptT.mk (pure (Checked.add UInt32.size nacks 1))
      if config.nackLimit.toNat < nacks then
        return .refused
      Hardware.delay config.pollInterval
      pollWords config polls 0 nacks
    else if status = i2cPending then
      Hardware.delay config.pollInterval
      pollWords config polls 0 nacks
    else
      return .unexpected status

/-- No counter passes the number of polls, so the words count as the natural numbers do. -/
theorem run_pollWords (config : Config.Controller) {polls done nacks : Nat}
    (hdone : done + polls < UInt32.size) (hnacks : nacks + polls < UInt32.size) :
    (pollWords config polls done nacks).run =
      (poll config polls done nacks).bind fun verdict ↦ .done (.ok verdict) := by
  induction polls generalizing done nacks with
  | zero => rfl
  | succ polls ih =>
    -- Both wait in the same way before they go on.
    have hwait : ∀ done nacks, done + polls < UInt32.size → nacks + polls < UInt32.size →
        (do
          Hardware.delay config.pollInterval
          pollWords config polls done nacks : ExceptT Fault Hardware Verdict).run =
        (do
          Hardware.delay config.pollInterval
          poll config polls done nacks : Hardware Verdict).bind fun verdict ↦
            .done (.ok verdict) :=
      fun done nacks hdone hnacks ↦
        congrArg (Program.ask (S := Access.signature) (.delay config.pollInterval))
          (funext fun _ ↦ ih hdone hnacks)
    have hone : Checked.add UInt32.size done 1 = .ok (done + 1) :=
      Checked.add_eq_ok.mpr ⟨by omega, rfl⟩
    have hnext : Checked.add UInt32.size nacks 1 = .ok (nacks + 1) :=
      Checked.add_eq_ok.mpr ⟨by omega, rfl⟩
    refine congrArg (Program.ask (S := Access.signature) (.read i2cStatus.offset))
      (funext fun status ↦ ?_)
    simp only [Program.done_bind, Function.comp_apply, ExceptT.bindCont, hone, hnext]
    split
    · show ExceptT.run (if done + 1 = config.doneReads.toNat then _ else _) =
        Program.bind (if done + 1 = config.doneReads.toNat then _ else _) _
      split
      · rfl
      · exact hwait _ _ (by omega) (by omega)
    · split
      · show ExceptT.run (if config.nackLimit.toNat < nacks + 1 then _ else _) =
          Program.bind (if config.nackLimit.toNat < nacks + 1 then _ else _) _
        split
        · rfl
        · exact hwait _ _ (by omega) (by omega)
      · split
        · exact hwait _ _ (by omega) (by omega)
        · rfl

end Controller

end I2c

open I2c

/-- What the hardware engine works out of its configuration fits: there are chunks to cut a block
into, each of them begins inside the block, and its counters are words. -/
structure Config.Controller.Fits (config : Config.Controller) : Prop where
  chunk : 0 < config.chunk
  places : ∀ place, place < (chunkSizes config.chunk Edid.blockLength).length →
    place * config.chunk < Edid.blockLength
  counters : (Controller.pollWords config config.pollLimit.toNat 0 0).run =
    (Controller.poll config config.pollLimit.toNat 0 0).bind fun verdict ↦ .done (.ok verdict)

theorem Config.Controller.fits {config : Config.Controller} (hvalid : config.validate = .ok ()) :
    config.Fits := by
  rw [validate] at hvalid
  split at hvalid
  · cases hvalid
  rename_i hchunk
  rw [not_or] at hchunk
  have hpos : 0 < config.chunk := Nat.pos_of_ne_zero hchunk.1
  have hpolls : 0 + config.pollLimit.toNat < UInt32.size := by
    rw [Nat.zero_add]
    exact config.pollLimit.toNat_lt_size
  exact ⟨hpos, fun _ ↦ mul_lt_of_lt_length hpos, Controller.run_pollWords config hpolls hpolls⟩

namespace Display

/-- What a call works out comes to the same in words, in the state that it is made in. -/
def Call.Fits (display : Display) : Call → Prop
  | .applyMode pipe request =>
    request.Fits display ∧ ∀ plan, display.plan pipe request = .ok plan → plan.Fits
  | .mapMemory => Aperture.coveringWords display.base display.size =
    .ok (.covering display.base display.size)
  | .setCursor pipe location width height =>
    pipe.setCursorWords location width height = Display.setCursor pipe location width height
  | .moveCursor _ x y =>
    Checked.clamp x.toNat 0 0xFFFF = .ok (Pipe.cursorCoordinate x).toNat ∧
      Checked.clamp y.toNat 0 0xFFFF = .ok (Pipe.cursorCoordinate y).toNat
  | .probeDdc _ => display.device.config.controller.Fits
  | .readEdid _ block =>
    display.device.config.controller.Fits ∧
      Checked.mul UInt8.size (block % 2).toNat 128 = .ok (block % 2 * 128).toNat
  | .routeOutput _ _ | .setPower _ _ | .saveState | .restoreState | .showCursor _ | .hideCursor _ =>
    True

theorem Call.fits {display : Display}
    (hvalid : display.device.config.controller.validate = .ok ()) (call : Call) :
    call.Fits display := by
  cases call with
  | applyMode pipe request => exact ⟨request.fits display, fun plan _ ↦ plan.fits⟩
  | mapMemory => exact Aperture.coveringWords_eq _ _
  | setCursor pipe location width height => exact pipe.setCursorWords_eq location width height
  | moveCursor pipe x y => exact ⟨Pipe.clamp_cursorCoordinate x, Pipe.clamp_cursorCoordinate y⟩
  | probeDdc id => exact Config.Controller.fits hvalid
  | readEdid id block =>
    have hhalf : (block % 2).toNat < 2 := Nat.mod_lt _ (by decide)
    have hoffset : (block % 2).toNat * 128 < UInt8.size := by
      simp only [UInt8.size]
      omega
    refine ⟨Config.Controller.fits hvalid, Checked.mul_eq_ok.mpr ⟨hoffset, ?_⟩⟩
    rw [UInt8.toNat_mul]
    exact (Nat.mod_eq_of_lt hoffset).symm
  | _ => trivial

end Display

end Scanout
