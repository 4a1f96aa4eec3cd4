import Scanout.Proofs.Display.Plan
import Scanout.Proofs.Display.Resync
import Scanout.Proofs.Pipe.ModeSet
import Scanout.Proofs.Pll
import Scanout.Proofs.Timing

/-!
What the registers of a pipe hold once a plan has been programmed. The three lists of writes that
matter are kept apart by their registers, so that each of them is still held at the end, and reading
the raster back gives the planned one.
-/

set_option autoImplicit false
set_option relaxedAutoImplicit false

namespace Scanout.Pipe

open Register

/-- The registers that say where the picture comes from. -/
def pictureRegisters : List PipeRegister :=
  [.surfaceLocation, .surfaceFormat, .surfaceEnd, .mode, .offsetEnd, .offsetStart]

theorem map_fst_surfaceWrites (pipe : Pipe) (plan : Plan) (stop : UInt32) :
    (surfaceWrites pipe plan stop).map Prod.fst =
      vga1Control :: vga2Control :: pictureRegisters.map pipe.register := rfl

/-- The first and the last list of writes have no register twice, and none in common. -/
theorem nodup_writes (pipe : Pipe) (plan : Plan) (stop : UInt32) :
    ((surfaceWrites pipe plan stop).map Prod.fst ++ (drawWrites pipe plan).map Prod.fst).Nodup := by
  rw [map_fst_surfaceWrites, map_fst_drawWrites]
  cases pipe <;> exact nodup_of_offsets (by decide +kernel)

/-- The last stage leaves the surface alone. -/
theorem surfaceWrites_ne (pipe : Pipe) (plan : Plan) (stop : UInt32) :
    ∀ entry ∈ surfaceWrites pipe plan stop, ∀ written ∈ drawWrites pipe plan,
      written.1 ≠ entry.1 := by
  obtain ⟨-, -, hdisjoint⟩ := List.nodup_append.mp (nodup_writes pipe plan stop)
  intro entry hentry written hwritten
  exact (hdisjoint _ (List.mem_map_of_mem hentry) _ (List.mem_map_of_mem hwritten)).symm

/-- What is left in the registers of a PLL that was programmed. -/
def clockWrites (pipe : Pipe) (solution : Pll.Solution) : List (Direct × UInt32) :=
  [(pipe.pll .reference, solution.reference),
    (pipe.pll .feedback, ((⟨0⟩ : Feedback).setMultiplier solution.multiplier.toUInt8).raw),
    (pipe.pll .post, solution.post), (pipe.pll .control, pllRunning), (pipe.pll .updateLock, 0),
    (clockSource, ownClocks)]

theorem latest_clockWrites (pipe : Pipe) (solution : Pll.Solution) :
    ∀ entry ∈ clockWrites pipe solution,
      latest (pllWrites pipe solution) entry.1 = some entry.2 := by
  simp only [clockWrites, List.forall_mem_cons, List.not_mem_nil, false_implies, implies_true,
    and_true]
  cases pipe <;> exact ⟨rfl, rfl, rfl, rfl, rfl, rfl⟩

theorem region_clockWrites (pipe : Pipe) (solution : Pll.Solution) :
    ∀ entry ∈ clockWrites pipe solution,
      region entry.1.offset = .pll pipe ∨ region entry.1.offset = .clock := by
  simp [clockWrites]

/-- The registers of a pipe that hold a surface, with what they hold of it. -/
def surfaceFields (pipe : Pipe) (surface : Surface) : List (Direct × UInt32) :=
  [(pipe.register .surfaceLocation, surface.location),
    (pipe.register .surfaceFormat, surface.format.bits), (pipe.register .pitch, surface.pitch),
    (pipe.register .surfaceHeight, surface.height)]

/-- The registers of a pipe hold a plan. -/
structure Carries (pipe : Pipe) (plan : Plan) (stop : UInt32) (file : RegisterFile) : Prop where
  surface : file.Holds (surfaceWrites pipe plan stop)
  clock : file.Holds (clockWrites pipe plan.pll)
  drawn : file.Holds (drawWrites pipe plan)

theorem region_drawWrites (pipe : Pipe) (plan : Plan) :
    ∀ entry ∈ drawWrites pipe plan, region entry.1.offset = .pipe pipe := by
  intro entry hentry
  have hmem := List.mem_map_of_mem (f := Prod.fst) hentry
  rw [map_fst_drawWrites] at hmem
  obtain ⟨register, -, hregister⟩ := List.mem_map.mp hmem
  rw [← hregister, region_pipe]

/-- The regions that a mode set writes for a pipe. -/
def ownRegions (pipe : Pipe) : List Region :=
  [.legacy, .clock, .pll pipe, .pipe pipe]

theorem region_mem_ownRegions (pipe : Pipe) (plan : Plan) (stop : UInt32) :
    (∀ entry ∈ stopWrites pipe, region entry.1.offset ∈ pipe.ownRegions) ∧
      (∀ entry ∈ surfaceWrites pipe plan stop ++ pllWrites pipe plan.pll,
        region entry.1.offset ∈ pipe.ownRegions) ∧
      ∀ entry ∈ drawWrites pipe plan, region entry.1.offset ∈ pipe.ownRegions := by
  refine ⟨by simp [stopWrites, ownRegions], fun entry hentry ↦ ?_, fun entry hentry ↦ ?_⟩
  · rcases List.mem_append.mp hentry with hsurface | hpll
    · rcases (region_surfaceWrites pipe plan stop entry hsurface).1 with hregion | hregion <;>
        simp [hregion, ownRegions]
    · rcases region_pllWrites pipe plan.pll entry hpll with hregion | hregion <;>
        simp [hregion, ownRegions]
  · simp [region_drawWrites pipe plan entry hentry, ownRegions]

/-- The last two stages of a mode set leave a plan in the registers. -/
theorem carries_stages (pipe : Pipe) (plan : Plan) (stop : UInt32) (file : RegisterFile)
    (first second : Nat) :
    Carries pipe plan stop
      ((((file.store (surfaceWrites pipe plan stop ++ pllWrites pipe plan.pll)).advance first).store
        (drawWrites pipe plan)).advance second) := by
  obtain ⟨hsurfaceNodup, hdrawNodup, -⟩ := List.nodup_append.mp (nodup_writes pipe plan stop)
  rw [RegisterFile.store_append]
  have hpicture : (file.store (surfaceWrites pipe plan stop)).Holds
      (surfaceWrites pipe plan stop) := file.holds_store hsurfaceNodup
  have hsurface := hpicture.store fun entry hentry written hwritten ↦ ne_of_region <| by
    obtain ⟨hplace, -⟩ := region_surfaceWrites pipe plan stop entry hentry
    have hclock := region_pllWrites pipe plan.pll written hwritten
    rcases hplace with hplace | hplace <;> rcases hclock with hclock | hclock <;>
      · rw [hplace, hclock]
        exact Region.noConfusion
  have hclock : ((file.store (surfaceWrites pipe plan stop)).store (pllWrites pipe plan.pll)).Holds
      (clockWrites pipe plan.pll) := by
    intro entry hentry
    rw [RegisterFile.value_store, latest_clockWrites pipe plan.pll entry hentry]
    rfl
  constructor
  · exact ((hsurface.advance first).store (surfaceWrites_ne pipe plan stop)).advance second
  · refine ((hclock.advance first).store fun entry hentry written hwritten ↦
      ne_of_region ?_).advance second
    rw [region_drawWrites pipe plan written hwritten]
    rcases region_clockWrites pipe plan.pll entry hentry with hregion | hregion <;>
      · rw [hregion]
        exact Region.noConfusion
  · exact (RegisterFile.holds_store _ hdrawNodup).advance second

/-- The raster registers of a pipe read back as a mode. -/
structure HoldsMode (pipe : Pipe) (mode : Mode) (file : RegisterFile) : Prop where
  horizontal : (timingOf file pipe).h.toMode = .ok mode.h
  vertical : (timingOf file pipe).v.toMode = .ok mode.v
  horizontalSync :
    (timingOf file pipe).h.polarity = .ofNegative (mode.has Mode.negativeHSync)
  verticalSync :
    (timingOf file pipe).v.polarity = .ofNegative (mode.has Mode.negativeVSync)

/-- The PLL of a pipe runs with a setting, and each pipe runs from its own PLL. -/
structure Clocked (pipe : Pipe) (solution : Pll.Solution) (file : RegisterFile) : Prop where
  reference : file.value (pipe.pll .reference) = solution.reference
  multiplier : (Feedback.mk (file.value (pipe.pll .feedback))).multiplier.toNat =
    solution.multiplier.toNat
  post : file.value (pipe.pll .post) = solution.post
  running : file.value (pipe.pll .control) &&& (pllReset ||| pllSleep) = 0
  unlocked : file.value (pipe.pll .updateLock) = 0
  first : (ClockSource.mk (file.value clockSource)).first = 0
  second : (ClockSource.mk (file.value clockSource)).second = 1

/-- The pipe fetches a surface of a size from an address. -/
structure Fetches (pipe : Pipe) (address : Nat) (format : Surface.Format) (width height : UInt16)
    (file : RegisterFile) : Prop where
  location : (file.value (pipe.register .surfaceLocation)).toNat = address
  stop : (file.value (pipe.register .surfaceEnd)).toNat =
    address + width.toNat * height.toNat * format.bytesPerPixel
  format : file.value (pipe.register .surfaceFormat) = format.bits
  pitch : file.value (pipe.register .pitch) = width.toUInt32
  height : file.value (pipe.register .surfaceHeight) = height.toUInt32

/-- The pipe shows an area of its surface, whose left edge is cut to a multiple of four pixels. -/
structure Shows (pipe : Pipe) (x y width height : UInt16) (file : RegisterFile) : Prop where
  xLength : file.value (pipe.register .xLength) = width.toUInt32
  yLength : file.value (pipe.register .yLength) = height.toUInt32
  sourceWidth : (Point.mk (file.value (pipe.register .expansionSource))).x = width
  sourceHeight : (Point.mk (file.value (pipe.register .expansionSource))).y = height
  left : (Point.mk (file.value (pipe.register .offsetStart))).x.toNat =
    x.toNat - x.toNat % 4
  top : (Point.mk (file.value (pipe.register .offsetStart))).y = y
  right : (Point.mk (file.value (pipe.register .offsetEnd))).x.toNat + viewportBias =
    x.toNat - x.toNat % 4 + width.toNat
  bottom : (Point.mk (file.value (pipe.register .offsetEnd))).y.toNat + viewportBias =
    y.toNat + height.toNat

/-- The pipe is scanning out by itself. -/
structure Runs (pipe : Pipe) (file : RegisterFile) : Prop where
  scanning : file.value (pipe.register .scanEnable) = scanEnabled
  enabled : file.value (pipe.register .control) = pipeEnabled
  native : file.value (pipe.register .mode) = modeNative
  expanding : file.value (pipe.register .expansionControl) = expansionEnabled
  firstLegacy : file.value vga1Control = vgaDisabled
  secondLegacy : file.value vga2Control = vgaDisabled

theorem Plan.toNat_left (plan : Plan) : plan.left.toNat = plan.x.toNat - plan.x.toNat % 4 := by
  have hmod : (plan.x % 4).toNat = plan.x.toNat % 4 := UInt16.toNat_mod _ _
  have hle : plan.x % 4 ≤ plan.x := by
    rw [UInt16.le_iff_toNat_le, hmod]
    exact Nat.mod_le _ _
  rw [Plan.left, UInt16.toNat_sub_of_le _ _ hle, hmod]

/-- The end of the visible area is exact: its bias is covered, and the sum fits its register. -/
theorem toNat_viewportStop {start size : Nat} (hbias : viewportBias ≤ size)
    (hfits : start + size < UInt16.size) :
    (viewportStop start size).toNat + viewportBias = start + size := by
  have hexact : (viewportStop start size).toNat = size + start - viewportBias :=
    UInt16.toNat_ofNat_of_lt' (by omega)
  rw [hexact]
  omega

namespace Carries

variable {pipe : Pipe} {plan : Plan} {stop : UInt32} {file : RegisterFile}
  (hcarries : Carries pipe plan stop file)
include hcarries

/-- The value of a register that the last stage writes. -/
theorem value_drawn {register : PipeRegister} {value : UInt32}
    (hmem : (pipe.register register, value) ∈ drawWrites pipe plan) :
    file.value (pipe.register register) = value :=
  hcarries.drawn _ hmem

/-- The surface is held, by registers of the first and of the last stage. -/
theorem surface_held : file.Holds (pipe.surfaceFields plan.surface) := by
  have hsurface := hcarries.surface
  simp only [RegisterFile.Holds, surfaceWrites, List.forall_mem_cons] at hsurface
  obtain ⟨-, -, hbegin, hformat, -⟩ := hsurface
  have hpitch : file.value (pipe.register .pitch) = plan.surface.pitch :=
    hcarries.value_drawn (by simp [drawWrites, timingWrites])
  have hheight : file.value (pipe.register .surfaceHeight) = plan.surface.height :=
    hcarries.value_drawn (by simp [drawWrites, scalerWrites])
  simp only [RegisterFile.Holds, surfaceFields, List.forall_mem_cons, List.not_mem_nil,
    false_implies, implies_true, and_true]
  exact ⟨hbegin, hformat, hpitch, hheight⟩

/-- The raster reads back as it was planned. -/
theorem timingOf_eq {mode : Mode} (hof : Timing.ofMode mode = .ok plan.timing) :
    timingOf file pipe = plan.timing := by
  obtain ⟨-, hh, hv⟩ := Timing.of_ofMode hof
  have hraster : file.Holds (rasterWrites pipe plan.timing) := hcarries.drawn.mono fun _ hentry ↦
    List.mem_append_left _ (List.mem_append_right _ (List.mem_append_right _ hentry))
  simp only [RegisterFile.Holds, rasterWrites, List.forall_mem_cons] at hraster
  obtain ⟨hTotal, hBlank, hSync, hPolarity, vTotal, vBlank, vSync, vPolarity, -⟩ := hraster
  have hAxis : axisOf file pipe .hTotal .hBlank .hSyncWidth .hSyncPolarity = plan.timing.h := by
    rw [axisOf, hTotal, hBlank, hSync, hPolarity]
    exact Timing.Axis.decode_registers hh
  have vAxis : axisOf file pipe .vTotal .vBlank .vSyncWidth .vSyncPolarity = plan.timing.v := by
    rw [axisOf, vTotal, vBlank, vSync, vPolarity]
    exact Timing.Axis.decode_registers hv
  rw [timingOf, hAxis, vAxis]

/-- What is written to the encoders leaves a pipe alone. -/
theorem store {writes : List (Direct × UInt32)}
    (hwrites : ∀ entry ∈ writes, ∃ block, region entry.1.offset = .encoder block) :
    Carries pipe plan stop (file.store writes) := by
  have hne : ∀ entry : Direct × UInt32, (∀ block, region entry.1.offset ≠ .encoder block) →
      ∀ written ∈ writes, written.1 ≠ entry.1 := by
    intro entry hentry written hwritten heq
    obtain ⟨block, hblock⟩ := hwrites written hwritten
    exact hentry block (by rw [← heq, hblock])
  constructor
  · refine hcarries.surface.store fun entry hentry ↦ hne entry fun block ↦ ?_
    rcases (region_surfaceWrites pipe plan stop entry hentry).1 with hregion | hregion <;>
      · rw [hregion]
        exact Region.noConfusion
  · refine hcarries.clock.store fun entry hentry ↦ hne entry fun block ↦ ?_
    rcases region_clockWrites pipe plan.pll entry hentry with hregion | hregion <;>
      · rw [hregion]
        exact Region.noConfusion
  · refine hcarries.drawn.store fun entry hentry ↦ hne entry fun block ↦ ?_
    rw [region_drawWrites pipe plan entry hentry]
    exact Region.noConfusion

theorem holdsMode {mode : Mode} (hof : Timing.ofMode mode = .ok plan.timing) :
    HoldsMode pipe mode file := by
  obtain ⟨-, hh, hv⟩ := Timing.of_ofMode hof
  have htiming := hcarries.timingOf_eq hof
  constructor
  · rw [htiming]
    exact Timing.Axis.toMode_of_ofMode hh
  · rw [htiming]
    exact Timing.Axis.toMode_of_ofMode hv
  · rw [htiming, (Timing.Axis.of_ofMode hh).2.2]
  · rw [htiming, (Timing.Axis.of_ofMode hv).2.2]

theorem clocked {limits : Pll.Limits} {target : UInt32}
    (hpll : Pll.synthesize limits target = .ok plan.pll) : Clocked pipe plan.pll file := by
  have hclock := hcarries.clock
  simp only [RegisterFile.Holds, clockWrites, List.forall_mem_cons] at hclock
  obtain ⟨hreference, hfeedback, hpost, hcontrol, hlock, hsource, -⟩ := hclock
  refine ⟨hreference, ?_, hpost, ?_, hlock, ?_, ?_⟩
  · rw [hfeedback, Feedback.multiplier_set, Pll.toNat_toUInt8_multiplier hpll]
  · rw [hcontrol]
    decide
  · rw [hsource]
    decide
  · rw [hsource]
    decide

theorem fetches {address : Nat} {width height : UInt16}
    (hstop : surfaceStop plan.surface = .ok stop)
    (hlocation : plan.surface.location.toNat = address)
    (hpitch : plan.surface.pitch = width.toUInt32)
    (hheight : plan.surface.height = height.toUInt32) :
    Fetches pipe address plan.surface.format width height file := by
  have hheld := hcarries.surface_held
  simp only [RegisterFile.Holds, surfaceFields, List.forall_mem_cons] at hheld
  obtain ⟨hbegin, hformat, hrow, hrows, -⟩ := hheld
  have hend : file.value (pipe.register .surfaceEnd) = stop :=
    hcarries.surface (pipe.register .surfaceEnd, stop) (by simp [surfaceWrites])
  refine ⟨by rw [hbegin, hlocation], ?_, hformat, hrow.trans hpitch, hrows.trans hheight⟩
  rw [hend, toNat_surfaceStop hstop, hlocation, hpitch, hheight, UInt16.toNat_toUInt32,
    UInt16.toNat_toUInt32]

theorem shows (hwidth : viewportBias ≤ plan.width.toNat)
    (hright : plan.x.toNat + plan.width.toNat < UInt16.size)
    (hheight : viewportBias ≤ plan.height.toNat)
    (hbottom : plan.y.toNat + plan.height.toNat < UInt16.size) :
    Shows pipe plan.x plan.y plan.width plan.height file := by
  have hsurface := hcarries.surface
  simp only [RegisterFile.Holds, surfaceWrites, List.forall_mem_cons] at hsurface
  obtain ⟨-, -, -, -, -, -, hend, hstart, -⟩ := hsurface
  have hsource : file.value (pipe.register .expansionSource) =
      (Point.of plan.width plan.height).raw :=
    hcarries.value_drawn (by simp [drawWrites, scalerWrites])
  have hleft : plan.left.toNat + plan.width.toNat < UInt16.size := by
    rw [plan.toNat_left]
    omega
  constructor
  · exact hcarries.value_drawn (by simp [drawWrites, timingWrites])
  · exact hcarries.value_drawn (by simp [drawWrites, timingWrites])
  · rw [hsource, Point.x_of]
  · rw [hsource, Point.y_of]
  · rw [hstart, Point.x_of, plan.toNat_left]
  · rw [hstart, Point.y_of]
  · rw [hend, Point.x_of, toNat_viewportStop hwidth hleft, plan.toNat_left]
  · rw [hend, Point.y_of, toNat_viewportStop hheight hbottom]

theorem runs : Runs pipe file := by
  have hsurface := hcarries.surface
  simp only [RegisterFile.Holds, surfaceWrites, List.forall_mem_cons] at hsurface
  obtain ⟨hfirst, hsecond, -, -, -, hmode, -⟩ := hsurface
  refine ⟨?_, ?_, hmode, ?_, hfirst, hsecond⟩
  · exact hcarries.value_drawn (by simp [drawWrites, startWrites])
  · exact hcarries.value_drawn (by simp [drawWrites, startWrites])
  · exact hcarries.value_drawn (by simp [drawWrites, scalerWrites])

end Carries

end Scanout.Pipe
