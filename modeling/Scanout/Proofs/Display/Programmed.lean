import Scanout.Proofs.Display.Board
import Scanout.Proofs.Display.Program
import Scanout.Proofs.Output.Lit
import Scanout.Proofs.Pipe.Programmed

/-!
A mode set that succeeds leaves the request in the registers, whatever they held before and whatever
was cached. `Programmed` says what each of them is read as, over natural numbers where a register is
narrower than what was asked for: that nothing was cut on the way follows from the checks that a
request has to pass.
-/

set_option autoImplicit false
set_option relaxedAutoImplicit false

namespace Scanout.Display

open Register

/-- The registers of a pipe and of the requested outputs hold a request. -/
structure Programmed (display : Display) (pipe : Pipe) (request : Request)
    (file : RegisterFile) : Prop where
  raster : pipe.HoldsMode (display.scanMode request) file
  clocked : ∃ solution, Pll.synthesize display.device.chip.generation.pllLimits
    (display.scanMode request).clock = .ok solution ∧ pipe.Clocked solution file
  fetches : ∃ format, Surface.Format.ofDepth? request.depth = some format ∧
    pipe.Fetches (display.base.toNat + request.offset.toNat) format request.width request.height
      file
  shows : pipe.Shows request.x request.y request.mode.h.display request.mode.v.display file
  runs : pipe.Runs file
  lit : ∀ id ∈ request.outputs, Output.Lit id pipe file

/-- The register is one that a request has nothing to do with: it belongs to the other pipe or its
clock, to an output that was not asked for, or to something else altogether. -/
def Spares (pipe : Pipe) (request : Request) (register : Direct) : Prop :=
  region register.offset ∉ pipe.ownRegions ∧
    ∀ id ∈ request.outputs, region register.offset ≠ .encoder id.block

variable {display : Display} {pipe : Pipe} {request : Request} {plan : Pipe.Plan}

theorem Accepted.programmed (haccepted : display.Accepted pipe request plan) {stop : UInt32}
    (hstop : Pipe.surfaceStop plan.surface = .ok stop) {file : RegisterFile}
    (hcarries : pipe.Carries plan stop file)
    (hlit : ∀ id ∈ request.outputs, Output.Lit id pipe file) :
    display.Programmed pipe request file := by
  obtain ⟨hwidth, hheight, hright, hbottom⟩ := haccepted.visible
  have hplaced := haccepted.placed
  have hshows := hcarries.shows hwidth (Nat.lt_of_le_of_lt hright request.width.toNat_lt) hheight
    (Nat.lt_of_le_of_lt hbottom request.height.toNat_lt)
  rw [haccepted.x, haccepted.y, haccepted.width, haccepted.height] at hshows
  exact {
    raster := hcarries.holdsMode haccepted.timing
    clocked := ⟨plan.pll, haccepted.pll, hcarries.clocked haccepted.pll⟩
    fetches := ⟨plan.surface.format, haccepted.format,
      hcarries.fetches hstop hplaced.location hplaced.pitch hplaced.height⟩
    shows := hshows
    runs := hcarries.runs
    lit := hlit }

/-- Where the pipe is running, lighting the outputs completes the request. -/
theorem meets_lightAll (haccepted : display.Accepted pipe request plan) {stop : UInt32}
    (hstop : Pipe.surfaceStop plan.surface = .ok stop) {file : RegisterFile}
    (hcarries : pipe.Carries plan stop file) :
    (Output.lightAll pipe request.outputs).Meets (.of RegisterFile.port)
      (fun _ left ↦ display.Programmed pipe request left) file := by
  have hlights := Output.lights_lightAllWrites pipe request.outputs (file.value panelSequencer)
  rw [Program.meets_of_iff, Output.run_lightAll]
  refine haccepted.programmed hstop (hcarries.store fun entry hentry ↦ ?_)
    (hlights.lit haccepted.apart file)
  obtain ⟨id, -, sequencer, hmem⟩ := hlights.belongs entry hentry
  exact ⟨id.block, Output.region_lightWrites id pipe sequencer entry hmem⟩

/-!
What a mode set has nothing to do with, it does not write.
-/

/-- The registers that a mode set on a pipe writes: those of the pipe and its PLL, those of the
requested outputs, and three that every mode set writes. -/
inductive Touches (pipe : Pipe) (request : Request) : Direct → Prop where
  | pipe (register : PipeRegister) : Touches pipe request (pipe.register register)
  | pll (register : PllRegister) : Touches pipe request (pipe.pll register)
  | vga1 : Touches pipe request vga1Control
  | vga2 : Touches pipe request vga2Control
  | clock : Touches pipe request clockSource
  | block {id : Output.Id} {register : BlockRegister} (hid : id ∈ request.outputs)
    (hhas : id.block.has register = true) : Touches pipe request (id.register register)
  | panel {id : Output.Id} (hid : id ∈ request.outputs) (hkind : id.kind = .lvds) :
    Touches pipe request panelSequencer

attribute [simp] Touches.pipe Touches.pll Touches.vga1 Touches.vga2 Touches.clock

theorem Touches.not_spares {register : Direct} (htouches : Touches pipe request register) :
    ¬Spares pipe request register := by
  rintro ⟨hown, hother⟩
  cases htouches with
  | pipe name => simp [Pipe.ownRegions] at hown
  | pll name => simp [Pipe.ownRegions] at hown
  | vga1 => simp [Pipe.ownRegions] at hown
  | vga2 => simp [Pipe.ownRegions] at hown
  | clock => simp [Pipe.ownRegions] at hown
  | block hid hhas => exact hother _ hid (region_encoder hhas)
  | panel hid hkind =>
    refine hother _ hid ?_
    rw [Output.Id.block, hkind]
    rfl

theorem switch_touches {id : Output.Id} (hid : id ∈ request.outputs) (on : Bool) :
    (Output.switch id on).IsWithin (Touches pipe request) :=
  Output.switch_within (fun _ hhas ↦ .block hid hhas) (fun hkind ↦ .panel hid hkind) on

theorem program_touches (haccepted : display.Accepted pipe request plan)
    (hwired : (display.pipe pipe).pipe = pipe) :
    ((program pipe request.outputs plan).start display).IsWithin (Touches pipe request) := by
  obtain ⟨stop, hstop⟩ := haccepted.placed.fits
  obtain ⟨hh, hv⟩ := haccepted.totals
  have hdraw : ∀ entry ∈ pipe.drawWrites plan, Touches pipe request entry.1 := by
    intro entry hentry
    have hregister : entry.1 ∈ Pipe.drawnRegisters.map pipe.register := by
      rw [← Pipe.map_fst_drawWrites]
      exact List.mem_map_of_mem hentry
    obtain ⟨register, -, heq⟩ := List.mem_map.mp hregister
    rw [← heq]
    exact .pipe register
  rw [start_program hwired haccepted.exists_output hstop hh hv]
  refine .bind (Output.darkenAll_within fun _ hid ↦ switch_touches hid false) fun _ ↦ ?_
  refine Device.stage_within (by simp [Pipe.stopWrites]) (fun _ ↦ trivial) ?_
  refine Device.stage_within (by simp [Pipe.surfaceWrites, Pipe.pllWrites, Pipe.dividerWrites])
    (fun _ ↦ trivial) ?_
  refine Device.stage_within hdraw (fun _ ↦ trivial) ?_
  exact Program.IsWithin.bind (Output.lightAll_within
    (fun id hid ↦ .block hid id.block.has_common.2) fun _ hid ↦ switch_touches hid true)
      fun _ ↦ .done _

theorem program_spares (haccepted : display.Accepted pipe request plan)
    (hwired : (display.pipe pipe).pipe = pipe) :
    ((program pipe request.outputs plan).start display).IsWithin
      fun register ↦ ¬Spares pipe request register :=
  (program_touches haccepted hwired).widen fun _ htouches offset value hwrite ↦
    (htouches offset value hwrite).not_spares

theorem meets_program (haccepted : display.Accepted pipe request plan)
    (hwired : (display.pipe pipe).pipe = pipe) (file : RegisterFile) :
    ((program pipe request.outputs plan).start display).Meets (.of RegisterFile.port)
      (fun out left ↦ out.1 = .ok () → display.Programmed pipe request left) file := by
  obtain ⟨stop, hstop⟩ := haccepted.placed.fits
  obtain ⟨hh, hv⟩ := haccepted.totals
  have hstart := start_program hwired haccepted.exists_output hstop hh hv
  rw [hstart, Program.meets_bind, Program.meets_of_iff, modeStages]
  -- A stage that gets stuck fails, so only the way through all three of them is left.
  refine Device.meets_stage (fun _ _ ↦ by rintro ⟨⟩) fun first ↦ ?_
  refine Device.meets_stage (fun _ _ ↦ by rintro ⟨⟩) fun second ↦ ?_
  refine Device.meets_stage (fun _ _ ↦ by rintro ⟨⟩) fun third ↦ ?_
  refine (meets_lightAll haccepted hstop (Pipe.carries_stages ..)).bind fun _ left hdone ↦ ?_
  exact .done fun _ ↦ hdone

/-- A mode set that is concluded with success was successful before. -/
theorem meets_conclude (out : Except (Failure Error) Unit × Display) {file : RegisterFile}
    {goal : RegisterFile → Prop} (hgoal : out.1 = .ok () → goal file) :
    (conclude pipe plan out).Meets (.of RegisterFile.port)
      (fun final left ↦ final.1 = .ok () → goal left) file := by
  obtain ⟨(cause | reason) | _, left⟩ := out
  · rw [conclude]
    split
    · rw [Program.meets_bind, Program.meets_of_iff]
      generalize ((recover pipe).start left).run RegisterFile.port file = recovered
      obtain ⟨⟨_ | _, changed⟩, after⟩ := recovered <;> exact .done (by rintro ⟨⟩)
    · exact .done (by rintro ⟨⟩)
  · exact .done (by rintro ⟨⟩)
  · rw [conclude, Program.meets_ask]
    exact .done fun _ ↦ hgoal rfl

/-- A mode set that succeeds programs exactly the request, and leaves alone what the request has
nothing to do with. -/
theorem applyMode_programmed (display : Display) (pipe : Pipe) (request : Request)
    (hwired : display.Wired) (file : RegisterFile) :
    let run := ((applyMode pipe request).start display).run RegisterFile.port file
    run.1.1 = .ok () →
      display.Programmed pipe request run.2 ∧ file.Agrees (Spares pipe request) run.2 := by
  suffices hmeets : ((applyMode pipe request).start display).Meets (.of RegisterFile.port)
      (fun out left ↦ out.1 = .ok () →
        display.Programmed pipe request left ∧ file.Agrees (Spares pipe request) left) file from
    (Program.meets_of_iff ..).mp hmeets
  cases hplan : display.plan pipe request with
  | error failure =>
    rw [start_applyMode_of_error hplan, Program.meets_ask]
    exact .done (by rintro ⟨⟩)
  | ok plan =>
    have haccepted := accepted_of_plan hplan
    have hprogram := (Program.meets_of_iff ..).mp (meets_program haccepted (hwired pipe) file)
    have hspares := file.agrees_of_within (program_spares haccepted (hwired pipe))
    rw [start_applyMode hplan, Program.meets_ask]
    show Program.Meets _ _ (Program.ask _ _) file
    rw [Program.meets_ask]
    show Program.Meets _ _ (Program.bind _ _) file
    rw [Program.meets_bind, Program.meets_of_iff]
    exact meets_conclude _ fun hok ↦ ⟨hprogram hok, hspares⟩

/-- A mode set on a desktop board whose registers were all clear. -/
theorem applyMode_programmed_desktop :
    desktop.Programmed .first desktopRequest
      (((applyMode .first desktopRequest).start desktop).run RegisterFile.port .cleared).2 :=
  (applyMode_programmed desktop .first desktopRequest (fresh_of_attach attach_desktop).wired
    .cleared (Except.eq_ok (by decide +kernel))).1

end Scanout.Display
