import Scanout.Pipe.ModeSet
import Scanout.Proofs.Device

/-!
The sequences of a pipe as lists of writes. Switching a pipe is one stage, and a mode set is three:
the pipe is stopped, the surface and the PLL are programmed, then the scaler and the raster and the
pipe is started. `View.start_setMode` also says what is cached wherever one of them gets stuck.
-/

set_option autoImplicit false
set_option relaxedAutoImplicit false

namespace Scanout.Pipe

open Register

/-- The writes that start a pipe. -/
def startWrites (pipe : Pipe) : List (Direct × UInt32) :=
  [(pipe.register .scanEnable, scanEnabled), (pipe.register .control, pipeEnabled)]

/-- The writes that stop a pipe. -/
def stopWrites (pipe : Pipe) : List (Direct × UInt32) :=
  [(pipe.register .scanEnable, 0), (pipe.register .control, 0)]

/-- The left edge of the visible area, as it is programmed. -/
def Plan.left (plan : Plan) : UInt16 :=
  plan.x - plan.x % 4

/-- The writes that program where the picture comes from. -/
def surfaceWrites (pipe : Pipe) (plan : Plan) (stop : UInt32) : List (Direct × UInt32) :=
  [(vga1Control, vgaDisabled), (vga2Control, vgaDisabled),
    (pipe.register .surfaceLocation, plan.surface.location),
    (pipe.register .surfaceFormat, plan.surface.format.bits),
    (pipe.register .surfaceEnd, stop), (pipe.register .mode, modeNative),
    (pipe.register .offsetEnd,
      (Point.of (viewportStop plan.left.toNat plan.width.toNat)
        (viewportStop plan.y.toNat plan.height.toNat)).raw),
    (pipe.register .offsetStart, (Point.of plan.left plan.y).raw)]

/-- The writes that set the dividers of a PLL while it is held. -/
def dividerWrites (pipe : Pipe) (solution : Pll.Solution) : List (Direct × UInt32) :=
  [(pipe.pll .referenceSource, referenceFromCrystal), (pipe.pll .updateLock, updateLocked),
    (pipe.pll .reference, solution.reference),
    (pipe.pll .feedback, ((⟨0⟩ : Feedback).setMultiplier solution.multiplier.toUInt8).raw),
    (pipe.pll .postSource, postFromOscillator), (pipe.pll .post, solution.post),
    (pipe.pll .extendedControl, pllExtendedControl)]

/-- The choice of each pipe's own PLL. -/
def ownClocks : UInt32 :=
  (((⟨0⟩ : ClockSource).setFirst 0).setSecond 1).raw

/-- The writes that program a PLL: it is held, given its dividers, released and chosen. -/
def pllWrites (pipe : Pipe) (solution : Pll.Solution) : List (Direct × UInt32) :=
  (pipe.pll .control, pllRunning ||| pllReset ||| pllSleep) :: dividerWrites pipe solution ++
    [(pipe.pll .control, pllRunning), (pipe.pll .updateLock, 0), (clockSource, ownClocks)]

/-- The writes that program the scaler. -/
def scalerWrites (pipe : Pipe) (plan : Plan) : List (Direct × UInt32) :=
  [(pipe.register .surfaceHeight, plan.surface.height),
    (pipe.register .expansionSource, (Point.of plan.width plan.height).raw),
    (pipe.register .expansionControl, expansionEnabled)] ++
    scalerSettings.map fun entry ↦ (pipe.register entry.1, entry.2)

/-- The registers that hold a raster. -/
def rasterRegisters : List PipeRegister :=
  [.hTotal, .hBlank, .hSyncWidth, .hSyncPolarity, .vTotal, .vBlank, .vSyncWidth, .vSyncPolarity]

/-- The writes of the registers that hold a raster. -/
def rasterWrites (pipe : Pipe) (timing : Timing) : List (Direct × UInt32) :=
  [(pipe.register .hTotal, timing.h.total.toUInt32 - 1),
    (pipe.register .hBlank, timing.h.blankRegister),
    (pipe.register .hSyncWidth, timing.h.syncRegister),
    (pipe.register .hSyncPolarity, timing.h.polarity.register),
    (pipe.register .vTotal, timing.v.total.toUInt32 - 1),
    (pipe.register .vBlank, timing.v.blankRegister),
    (pipe.register .vSyncWidth, timing.v.syncRegister),
    (pipe.register .vSyncPolarity, timing.v.polarity.register)]

/-- The writes that program the raster. -/
def timingWrites (pipe : Pipe) (plan : Plan) : List (Direct × UInt32) :=
  [(pipe.register .xLength, plan.width.toUInt32), (pipe.register .yLength, plan.height.toUInt32),
    (pipe.register .pitch, plan.surface.pitch)] ++ rasterWrites pipe plan.timing

/-- The writes of the last stage: the scaler and the raster are programmed, then the pipe is
started. -/
def drawWrites (pipe : Pipe) (plan : Plan) : List (Direct × UInt32) :=
  scalerWrites pipe plan ++ timingWrites pipe plan ++ startWrites pipe

/-- The registers that the last stage writes. -/
def drawnRegisters : List PipeRegister :=
  [PipeRegister.surfaceHeight, .expansionSource, .expansionControl] ++
    scalerSettings.map Prod.fst ++ [PipeRegister.xLength, .yLength, .pitch] ++ rasterRegisters ++
      [PipeRegister.scanEnable, .control]

theorem map_fst_drawWrites (pipe : Pipe) (plan : Plan) :
    (drawWrites pipe plan).map Prod.fst = drawnRegisters.map pipe.register := rfl

/-!
Where the writes go. Only the writes that start and stop the pipe reach its two control registers,
and only those of the PLL reach the clock.
-/

section Regions

variable (pipe : Pipe) (plan : Plan)

theorem region_surfaceWrites (stop : UInt32) : ∀ entry ∈ surfaceWrites pipe plan stop,
    (region entry.1.offset = .legacy ∨ region entry.1.offset = .pipe pipe) ∧
      entry.1 ≠ pipe.register .scanEnable ∧ entry.1 ≠ pipe.register .control := by
  simp only [surfaceWrites, List.forall_mem_cons, List.not_mem_nil, false_implies, implies_true,
    and_true]
  cases pipe <;> decide

theorem region_pllWrites (solution : Pll.Solution) : ∀ entry ∈ pllWrites pipe solution,
    region entry.1.offset = .pll pipe ∨ region entry.1.offset = .clock := by
  simp only [pllWrites, dividerWrites, List.cons_append, List.nil_append, List.forall_mem_cons,
    List.not_mem_nil, false_implies, implies_true, and_true]
  cases pipe <;> decide

/-- The dividers leave the control of the PLL alone. -/
theorem dividerWrites_ne (solution : Pll.Solution) : ∀ entry ∈ dividerWrites pipe solution,
    entry.1 ≠ pipe.pll .control := by
  simp only [dividerWrites, List.forall_mem_cons, List.not_mem_nil, false_implies, implies_true,
    and_true]
  cases pipe <;> decide

theorem region_scalerWrites : ∀ entry ∈ scalerWrites pipe plan,
    region entry.1.offset = .pipe pipe ∧
      entry.1 ≠ pipe.register .scanEnable ∧ entry.1 ≠ pipe.register .control := by
  simp only [scalerWrites, scalerSettings, List.map_cons, List.map_nil, List.cons_append,
    List.nil_append, List.forall_mem_cons, List.not_mem_nil, false_implies, implies_true, and_true]
  cases pipe <;> decide

theorem region_timingWrites : ∀ entry ∈ timingWrites pipe plan,
    region entry.1.offset = .pipe pipe ∧
      entry.1 ≠ pipe.register .scanEnable ∧ entry.1 ≠ pipe.register .control := by
  simp only [timingWrites, rasterWrites, List.cons_append, List.nil_append, List.forall_mem_cons,
    List.not_mem_nil, false_implies, implies_true, and_true]
  cases pipe <;> decide

theorem exists_mem_rasterWrites (timing : Timing) {register : PipeRegister}
    (hregister : register ∈ rasterRegisters) :
    ∃ value, (pipe.register register, value) ∈ rasterWrites pipe timing := by
  have hmem : pipe.register register ∈ rasterRegisters.map pipe.register :=
    List.mem_map_of_mem hregister
  change pipe.register register ∈ (rasterWrites pipe timing).map Prod.fst at hmem
  obtain ⟨⟨_, value⟩, hentry, rfl⟩ := List.mem_map.mp hmem
  exact ⟨value, hentry⟩

end Regions

variable {σ : Type}

theorem programSurface_eq (pipe : Pipe) (plan : Plan) (stop : UInt32) :
    programSurface pipe plan stop = Hardware.writeAll (surfaceWrites pipe plan stop) := rfl

theorem start_programPll (device : Device) (pipe : Pipe) (solution : Pll.Solution) (state : σ) :
    (programPll device pipe solution).start state =
      device.stage (pllWrites pipe solution) state (.done (.ok (), state)) := by
  simp only [programPll, Action.start_lift_bind, Device.start_waitIdle]
  rfl

theorem programScaler_eq (pipe : Pipe) (plan : Plan) :
    programScaler pipe plan = Hardware.writeAll (scalerWrites pipe plan) := rfl

/-- A total that is not zero has a register value. -/
theorem totalRegister_eq {axis : Timing.Axis} (htotal : axis.total ≠ 0) :
    axis.totalRegister = .ok (axis.total.toUInt32 - 1) :=
  if_neg htotal

theorem start_programTiming {plan : Plan} (hh : plan.timing.h.total ≠ 0)
    (hv : plan.timing.v.total ≠ 0) (pipe : Pipe) (state : σ) :
    (programTiming pipe plan).start state =
      (Hardware.writeAll (timingWrites pipe plan)).bind fun _ ↦ .done (.ok (), state) := by
  simp only [programTiming, totalRegister_eq hh, totalRegister_eq hv, Action.start_lift_bind]
  rfl

namespace View

/-- The view of a pipe that could not be stopped. -/
def stopping (view : View) : View :=
  { view with power := .disabling }

/-- The view of a pipe that was stopped. -/
def stopped (view : View) : View :=
  { view with power := .off }

/-- The view of a pipe that could not be started. -/
def starting (view : View) : View :=
  { view with power := .enabling }

/-- The view of a pipe that was started. -/
def started (view : View) : View :=
  { view with power := .on }

/-- The view of a stopped pipe while its registers change. -/
def forgotten (view : View) : View :=
  { view with power := .off, timing := none, surface := none }

/-- The view of a pipe once a plan has been programmed. -/
def planned (view : View) (plan : Plan) : View :=
  { view with timing := some plan.timing, surface := some plan.surface }

theorem start_enable (device : Device) (view : View) :
    (enable device).start view =
      device.stage view.pipe.startWrites view.starting (.done (.ok (), view.started)) := by
  simp only [enable, Action.start_lift_bind, Action.start_get_bind, Action.start_modify_bind,
    Device.start_waitIdle_bind]
  rfl

theorem start_disable (device : Device) (view : View) :
    (disable device).start view =
      device.stage view.pipe.stopWrites view.stopping (.done (.ok (), view.stopped)) := by
  simp only [disable, Action.start_lift_bind, Action.start_get_bind, Action.start_modify_bind,
    Device.start_waitIdle_bind]
  rfl

theorem start_setPower (device : Device) (request : Dpms) (view : View) :
    (setPower device request).start view =
      (Hardware.note .debug (s!"{view.pipe.name}: dpms {request.name}")).bind fun _ ↦
        (if request.isOn then enable device else disable device).start view := by
  simp only [setPower, Action.start_lift_bind, Action.start_get_bind]

/-- A mode set in its three stages. -/
theorem start_setMode {device : Device} {plan : Plan} {stop : UInt32}
    (hstop : surfaceStop plan.surface = .ok stop) (hh : plan.timing.h.total ≠ 0)
    (hv : plan.timing.v.total ≠ 0) (view : View) :
    (setMode device plan).start view =
      device.stage view.pipe.stopWrites view.stopping
        (device.stage (view.pipe.surfaceWrites plan stop ++ view.pipe.pllWrites plan.pll)
          view.forgotten
          (device.stage (view.pipe.drawWrites plan) (view.planned plan).starting
            (.done (.ok (), (view.planned plan).started)))) := by
  simp only [setMode, hstop, Action.start_settled_bind, Action.start_bind (View.disable device),
    start_disable, Device.stage_follow, Program.done_bind, Action.follow_ok,
    Action.start_modify_bind, Action.start_get_bind]
  -- The first stage is done; the other two end at the next waits.
  simp only [Action.start_lift_bind, programSurface_eq, Action.start_bind (programPll _ _ _),
    start_programPll, Device.stage_follow, Device.writeAll_stage, Program.done_bind,
    Action.follow_ok]
  simp only [programScaler_eq, Action.start_bind (programTiming _ _),
    start_programTiming hh hv, Program.bind_bind, Program.done_bind, Action.follow_ok,
    Action.start_modify_bind, start_enable, Device.writeAll_stage, ← List.append_assoc]
  rfl

end View

end Scanout.Pipe
