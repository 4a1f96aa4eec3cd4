import Scanout.Proofs.Display.Outputs
import Scanout.Proofs.Display.Plan
import Scanout.Proofs.Pipe.ModeSet

/-!
A mode set as one program of accesses. `start_program` lays the whole sequence out: the outputs go
dark, the three stages of the pipe follow, and the outputs are lit. `start_applyMode` puts it
between the notes of an accepted request and what happens when it fails.
-/

set_option autoImplicit false
set_option relaxedAutoImplicit false

namespace Scanout

open Register

namespace Display

variable {σ : Type} {display : Display} {pipe : Pipe} {request : Request} {plan : Pipe.Plan}

theorem start_onPipe {α : Type} (pipe : Pipe) (action : Action Pipe.View α) (display : Display) :
    (onPipe pipe action).start display =
      (action.start (display.pipe pipe)).bind fun out ↦
        .done (out.1, display.setPipe pipe out.2) := rfl

@[simp] theorem device_setPipe (display : Display) (pipe : Pipe) (view : Pipe.View) :
    (display.setPipe pipe view).device = display.device := by
  cases pipe <;> rfl

@[simp] theorem outputs_setPipe (display : Display) (pipe : Pipe) (view : Pipe.View) :
    (display.setPipe pipe view).outputs = display.outputs := by
  cases pipe <;> rfl

@[simp] theorem saved_setPipe (display : Display) (pipe : Pipe) (view : Pipe.View) :
    (display.setPipe pipe view).saved = display.saved := by
  cases pipe <;> rfl

theorem output?_setPipe (display : Display) (pipe : Pipe) (view : Pipe.View) (id : Output.Id) :
    (display.setPipe pipe view).output? id = display.output? id := by
  rw [output?, output?, outputs_setPipe]

@[simp] theorem pipe_setPipe (display : Display) (pipe : Pipe) (view : Pipe.View) :
    (display.setPipe pipe view).pipe pipe = view := by
  cases pipe <;> rfl

theorem pipe_setPipe_of_ne {pipe other : Pipe} (hother : other ≠ pipe) (display : Display)
    (view : Pipe.View) : (display.setPipe pipe view).pipe other = display.pipe other := by
  cases pipe <;> cases other <;> first | rfl | exact absurd rfl hother

/-- The three stages of a mode set on a pipe, and what follows when the pipe is running. -/
def modeStages (display : Display) (pipe : Pipe) (plan : Pipe.Plan) (stop : UInt32)
    (rest : Hardware (Except (Failure Error) Unit × Display)) :
    Hardware (Except (Failure Error) Unit × Display) :=
  let view := display.pipe pipe
  display.device.stage pipe.stopWrites (display.setPipe pipe view.stopping)
    (display.device.stage (pipe.surfaceWrites plan stop ++ pipe.pllWrites plan.pll)
      (display.setPipe pipe view.forgotten)
      (display.device.stage (pipe.drawWrites plan)
        (display.setPipe pipe (view.planned plan).starting) rest))

theorem modeStages_follow (stop : UInt32) (rest : Hardware (Except (Failure Error) Unit × Display))
    (next : Unit → Action Display Unit) :
    (display.modeStages pipe plan stop rest).bind (Action.follow next) =
      display.modeStages pipe plan stop (rest.bind (Action.follow next)) := by
  simp only [modeStages, Device.stage_follow]

theorem start_onPipe_setMode {stop : UInt32} (hwired : (display.pipe pipe).pipe = pipe)
    (hstop : Pipe.surfaceStop plan.surface = .ok stop) (hh : plan.timing.h.total ≠ 0)
    (hv : plan.timing.v.total ≠ 0) :
    (onPipe pipe (Pipe.View.setMode display.device plan)).start display =
      display.modeStages pipe plan stop
        (.done (.ok (), display.setPipe pipe ((display.pipe pipe).planned plan).started)) := by
  rw [start_onPipe, Pipe.View.start_setMode hstop hh hv, hwired]
  rw [Device.stage_bind _ (display.setPipe pipe) fun _ _ ↦ rfl,
    Device.stage_bind _ (display.setPipe pipe) fun _ _ ↦ rfl,
    Device.stage_bind _ (display.setPipe pipe) fun _ _ ↦ rfl]
  rfl

/-- The cached state once a plan is scanned out of a pipe to some outputs. -/
def scanning (display : Display) (pipe : Pipe) (ids : List Output.Id) (plan : Pipe.Plan) :
    Display :=
  ((display.dark ids).setPipe pipe ((display.pipe pipe).planned plan).started).lit pipe ids

theorem pipe_scanning (display : Display) (pipe : Pipe) (ids : List Output.Id) (plan : Pipe.Plan) :
    (display.scanning pipe ids plan).pipe pipe = ((display.pipe pipe).planned plan).started := by
  rw [scanning, (sameBoard_lit _ pipe ids).pipe, pipe_setPipe]

theorem pipe_scanning_of_ne {pipe other : Pipe} (hother : other ≠ pipe) (display : Display)
    (ids : List Output.Id) (plan : Pipe.Plan) :
    (display.scanning pipe ids plan).pipe other = display.pipe other := by
  rw [scanning, (sameBoard_lit _ pipe ids).pipe, pipe_setPipe_of_ne hother,
    (sameBoard_dark display ids).pipe]

/-- The named outputs are on and fed from the pipe. -/
theorem output?_scanning (display : Display) (pipe : Pipe) (ids : List Output.Id)
    (plan : Pipe.Plan) (id : Output.Id) :
    (display.scanning pipe ids plan).output? id = (display.output? id).map fun view ↦
      if id ∈ ids then (view.routed pipe).switched true else view := by
  rw [scanning, output?_lit, output?_setPipe, output?_dark, Option.map_map]
  congr 1
  funext view
  by_cases hid : id ∈ ids <;> simp [hid, Output.View.switched, Output.View.routed]

/-- The others are as they were. -/
theorem filter_scanning (display : Display) (pipe : Pipe) (ids : List Output.Id)
    (plan : Pipe.Plan) :
    (display.scanning pipe ids plan).outputs.filter (fun view ↦ view.id ∉ ids) =
      display.outputs.filter fun view ↦ view.id ∉ ids := by
  rw [scanning, filter_lit, outputs_setPipe, filter_dark]

/-- A mode set whose outputs exist and whose plan can be written, from its first access to its
last. -/
theorem start_program {stop : UInt32} (hwired : (display.pipe pipe).pipe = pipe)
    (hexist : ∀ id ∈ request.outputs, ∃ view, display.output? id = some view)
    (hstop : Pipe.surfaceStop plan.surface = .ok stop) (hh : plan.timing.h.total ≠ 0)
    (hv : plan.timing.v.total ≠ 0) :
    (program pipe request.outputs plan).start display =
      (Output.darkenAll request.outputs).bind fun _ ↦
        (display.dark request.outputs).modeStages pipe plan stop
          ((Output.lightAll pipe request.outputs).bind fun _ ↦
            .done (.ok (), display.scanning pipe request.outputs plan)) := by
  have hdark := sameBoard_dark display request.outputs
  have hdarkWired : ((display.dark request.outputs).pipe pipe).pipe = pipe := by
    rw [hdark.pipe, hwired]
  have hset := start_onPipe_setMode hdarkWired hstop hh hv
  rw [program, Action.start_bind, start_switchOff hexist, Program.bind_bind]
  simp only [Program.done_bind, Action.follow_ok, Action.start_get_bind]
  rw [Action.start_bind, hset, modeStages_follow, Program.done_bind, Action.follow_ok, hdark.pipe,
    start_switchOn pipe fun id hid ↦ ?_]
  · rfl
  · rw [output?_setPipe]
    exact hdark.exists_output (hexist id hid)

/-- What is noted when a mode set is asked for. -/
def announcement (pipe : Pipe) (request : Request) : Log.Entry :=
  let mode := request.mode
  { level := .info
    text := s!"{pipe.name}: mode set {mode.h.display}x{mode.v.display} at {mode.clock} kHz" }

/-- What is noted when a mode set has succeeded. -/
def completion (pipe : Pipe) (plan : Pipe.Plan) : Log.Entry where
  level := .info
  text := s!"{pipe.name}: scanning out {plan.timing.h.active}x{plan.timing.v.active} at " ++
    s!"{plan.pll.achieved} kHz"

/-- How a mode set concludes: a success is noted, and a fatal error replays the snapshot before it
is reported. -/
def conclude (pipe : Pipe) (plan : Pipe.Plan) :
    Except (Failure Error) Unit × Display → Hardware (Except (Failure Error) Unit × Display)
  | (.ok _, display) => .ask (.note (completion pipe plan)) fun _ ↦ .done (.ok (), display)
  | (.error (.error cause), display) =>
    if cause.isFatal then
      ((recover pipe).start display).bind (Action.follow fun _ ↦ Action.refuse cause)
    else .done (.error (.error cause), display)
  | (.error (.fault reason), display) => .done (.error (.fault reason), display)

theorem trace_conclude_ok {out : Except (Failure Error) Unit × Display} (hok : out.1 = .ok ())
    (handler : Handler Access.signature σ) (state : σ) :
    (conclude pipe plan out).trace handler state = [Event.note (completion pipe plan)] := by
  obtain ⟨result, left⟩ := out
  cases hok
  rfl

theorem start_applyMode_of_error {failure : Failure Error}
    (hplan : display.plan pipe request = .error failure) :
    (applyMode pipe request).start display =
      .ask (.note (announcement pipe request)) fun _ ↦ .done (.error failure, display) := by
  simp only [applyMode, Action.start_lift_bind, Action.start_get_bind, hplan]
  rfl

theorem start_applyMode (hplan : display.plan pipe request = .ok plan) :
    (applyMode pipe request).start display =
      .ask (.note (announcement pipe request)) fun _ ↦
        .ask (.note (plan.pll.report (display.scanMode request).clock)) fun _ ↦
          ((program pipe request.outputs plan).start display).bind (conclude pipe plan) := by
  simp only [applyMode, Action.start_lift_bind, Action.start_get_bind, hplan,
    Action.start_settled_bind, Action.start_bind (Action.attempt _), Action.start_attempt,
    Program.bind_bind, Program.done_bind, Action.follow_ok]
  refine congrArg (Program.ask _) (funext fun _ ↦ congrArg (Program.ask _) (funext fun _ ↦ ?_))
  rw [Program.done_bind]
  refine congrArg (Program.bind _) (funext ?_)
  rintro ⟨result, left⟩
  rcases result with (cause | reason) | _
  · rw [conclude]
    dsimp only
    split
    · rw [Action.start_bind]
    · rfl
  · rfl
  · rfl

/-- The notes of an accepted request do not change a register file. -/
theorem run_applyMode_eq (hplan : display.plan pipe request = .ok plan) (file : RegisterFile) :
    let finished := ((program pipe request.outputs plan).start display).run RegisterFile.port file
    ((applyMode pipe request).start display).run RegisterFile.port file =
      (conclude pipe plan finished.1).run RegisterFile.port finished.2 := by
  rw [start_applyMode hplan, Program.run_ask, Program.run_ask, Program.run_bind]
  rfl

/-- Two notes, then the sequence, then its conclusion. -/
theorem trace_applyMode_eq (hplan : display.plan pipe request = .ok plan) (file : RegisterFile) :
    let sequence := (program pipe request.outputs plan).start display
    ((applyMode pipe request).start display).trace RegisterFile.port file =
      [Event.note (announcement pipe request),
          Event.note (plan.pll.report (display.scanMode request).clock)] ++
        (sequence.trace RegisterFile.port file ++
          (conclude pipe plan (sequence.run RegisterFile.port file).1).trace RegisterFile.port
            (sequence.run RegisterFile.port file).2) := by
  rw [start_applyMode hplan, Program.trace_ask, Program.trace_ask, Program.trace_bind]
  rfl

/-- A program that succeeds leaves its plan scanned out, whatever is answered. -/
theorem program_scanning (haccepted : display.Accepted pipe request plan)
    (hwired : (display.pipe pipe).pipe = pipe) :
    ((program pipe request.outputs plan).start display).Returns fun out ↦
      out.1 = .ok () → out.2 = display.scanning pipe request.outputs plan := by
  obtain ⟨stop, hstop⟩ := haccepted.placed.fits
  obtain ⟨hh, hv⟩ := haccepted.totals
  have hstuck : ∀ {device : Device} {stuck : Display} (status : UInt32),
      (.error (device.lockup status) : Except (Failure Error) Unit) = .ok () →
        stuck = display.scanning pipe request.outputs plan := by
    rintro _ _ _ ⟨⟩
  rw [start_program hwired haccepted.exists_output hstop hh hv]
  exact .after _ fun _ ↦ Device.stage_returns hstuck (Device.stage_returns hstuck
    (Device.stage_returns hstuck (.after _ fun _ ↦ .done fun _ ↦ rfl)))

/-- So does a mode set that succeeds. -/
theorem applyMode_scanning (hwired : (display.pipe pipe).pipe = pipe) :
    ((applyMode pipe request).start display).Returns fun out ↦ out.1 = .ok () →
      ∃ plan, display.plan pipe request = .ok plan ∧
        out.2 = display.scanning pipe request.outputs plan := by
  cases hplan : display.plan pipe request with
  | error failure =>
    rw [start_applyMode_of_error hplan]
    exact .ask fun _ ↦ .done (by rintro ⟨⟩)
  | ok plan =>
    rw [start_applyMode hplan]
    refine .ask fun _ ↦ .ask fun _ ↦
      (program_scanning (accepted_of_plan hplan) hwired).bind ?_
    rintro ⟨(cause | reason) | _, left⟩ hleft
    · rw [conclude]
      split
      · refine .after _ ?_
        rintro ⟨_ | _, _⟩ <;> exact .done (by rintro ⟨⟩)
      · exact .done (by rintro ⟨⟩)
    · exact .done (by rintro ⟨⟩)
    · exact .ask fun _ ↦ .done fun _ ↦ ⟨plan, rfl, hleft rfl⟩

end Display

end Scanout
