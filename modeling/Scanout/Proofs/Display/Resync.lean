import Scanout.Display.Operation
import Scanout.Proofs.Action
import Scanout.Proofs.Display.Board
import Scanout.Proofs.RegisterFile
import Scanout.Proofs.Snapshot

/-!
Rebuilding what is cached. Everything is read from registers that keep their values
(`resync_readback`), so what a view becomes is a function of the register file (`Pipe.View.ofFile`,
`Output.View.ofFile`), and no register changes.
-/

set_option autoImplicit false
set_option relaxedAutoImplicit false

namespace Scanout

open Register

/-- The access reads a register that keeps its value, or leaves a note. -/
def Access.IsReadback : Access → Prop
  | .read offset => (region offset).isStored = true
  | .note _ => True
  | .write _ _ | .delay _ => False

/-- The program reads registers that keep their values, and leaves notes. -/
abbrev Program.IsReadback {α : Type} (program : Hardware α) : Prop :=
  program.Meets (.asking Access.IsReadback) (fun _ _ ↦ True) ()

namespace Hardware

theorem read_readback {register : Direct} (hstored : (region register.offset).isStored = true) :
    (read register).IsReadback :=
  .ask hstored fun _ ↦ .done trivial

theorem read_pipe_readback (pipe : Pipe) (register : PipeRegister) :
    (read (pipe.register register)).IsReadback :=
  read_readback (by rw [region_pipe]; rfl)

theorem read_block_readback {block : EncoderBlock} {register : BlockRegister}
    (hhas : block.has register = true) : (read (block.register register)).IsReadback :=
  read_readback (by rw [region_encoder hhas]; rfl)

end Hardware

/-- A register in a pipe's block keeps its value. -/
theorem RegisterFile.run_read_pipe (file : RegisterFile) (pipe : Pipe) (register : PipeRegister) :
    (Hardware.read (pipe.register register)).run port file =
      (file.value (pipe.register register), file) :=
  file.run_read (by rw [region_pipe]; rfl)

/-- A register of an encoder block keeps its value. -/
theorem RegisterFile.run_read_block (file : RegisterFile) {block : EncoderBlock}
    {register : BlockRegister} (hhas : block.has register = true) :
    (Hardware.read (block.register register)).run port file =
      (file.value (block.register register), file) :=
  file.run_read (by rw [region_encoder hhas]; rfl)

namespace Pipe

/-- The raster of one axis that the registers of a pipe stand for. -/
def axisOf (file : RegisterFile) (pipe : Pipe) (total blank sync polarity : PipeRegister) :
    Timing.Axis :=
  .decode (file.value (pipe.register total)) ⟨file.value (pipe.register blank)⟩
    ⟨file.value (pipe.register sync)⟩ (file.value (pipe.register polarity))

/-- The raster that the registers of a pipe stand for. -/
def timingOf (file : RegisterFile) (pipe : Pipe) : Timing where
  h := axisOf file pipe .hTotal .hBlank .hSyncWidth .hSyncPolarity
  v := axisOf file pipe .vTotal .vBlank .vSyncWidth .vSyncPolarity

/-- The surface that the registers of a pipe stand for, if there is one of their format. -/
def surfaceOf? (file : RegisterFile) (pipe : Pipe) : Option Surface :=
  (Surface.Format.ofBits? (file.value (pipe.register .surfaceFormat))).map fun format ↦
    { location := file.value (pipe.register .surfaceLocation)
      format
      pitch := file.value (pipe.register .pitch)
      height := file.value (pipe.register .surfaceHeight) }

/-- The view that the registers of a pipe stand for. -/
def View.ofFile (file : RegisterFile) (pipe : Pipe) : View :=
  if file.value (pipe.register .control) &&& pipeEnabled = 0 then { pipe }
  else { pipe, power := .on, timing := some (timingOf file pipe), surface := surfaceOf? file pipe }

theorem readAxis_readback (pipe : Pipe) (total blank sync polarity : PipeRegister) :
    (readAxis pipe total blank sync polarity).IsReadback :=
  .bind (Hardware.read_pipe_readback pipe _) fun _ _ _ ↦
    .bind (Hardware.read_pipe_readback pipe _) fun _ _ _ ↦
      .bind (Hardware.read_pipe_readback pipe _) fun _ _ _ ↦
        .bind (Hardware.read_pipe_readback pipe _) fun _ _ _ ↦ .done trivial

theorem readSurface_readback (pipe : Pipe) : (readSurface pipe).IsReadback := by
  refine .bind (Hardware.read_pipe_readback pipe _) fun bits _ _ ↦ ?_
  split
  · exact .bind (Hardware.read_pipe_readback pipe _) fun _ _ _ ↦
      .bind (Hardware.read_pipe_readback pipe _) fun _ _ _ ↦
        .bind (Hardware.read_pipe_readback pipe _) fun _ _ _ ↦ .done trivial
  · exact .ask trivial fun _ ↦ .done trivial

theorem View.resync_readback (view : View) :
    view.resync.Meets (.asking Access.IsReadback) (fun left _ ↦ left.pipe = view.pipe) () := by
  refine .bind (Hardware.read_pipe_readback view.pipe _) fun control _ _ ↦ ?_
  split
  · exact .done rfl
  · exact .bind (readAxis_readback view.pipe _ _ _ _) fun _ _ _ ↦
      .bind (readAxis_readback view.pipe _ _ _ _) fun _ _ _ ↦
        .bind (readSurface_readback view.pipe) fun _ _ _ ↦ .done rfl

theorem run_readAxis (file : RegisterFile) (pipe : Pipe)
    (total blank sync polarity : PipeRegister) :
    (readAxis pipe total blank sync polarity).run RegisterFile.port file =
      (axisOf file pipe total blank sync polarity, file) := by
  simp only [readAxis, Program.bind_eq, Program.run_bind, RegisterFile.run_read_pipe]
  rfl

theorem run_readSurface (file : RegisterFile) (pipe : Pipe) :
    (readSurface pipe).run RegisterFile.port file = (surfaceOf? file pipe, file) := by
  simp only [readSurface, surfaceOf?, Program.bind_eq, Program.run_bind,
    RegisterFile.run_read_pipe]
  cases Surface.Format.ofBits? (file.value (pipe.register .surfaceFormat)) with
  | none => rfl
  | some format =>
    simp only [Program.run_bind, RegisterFile.run_read_pipe]
    rfl

theorem View.run_resync (file : RegisterFile) (view : View) :
    view.resync.run RegisterFile.port file = (ofFile file view.pipe, file) := by
  simp only [resync, ofFile, Program.bind_eq, Program.run_bind, RegisterFile.run_read_pipe]
  split
  · rfl
  · simp only [Program.run_bind, run_readAxis, run_readSurface]
    rfl

end Pipe

namespace Output

/-- The register file enables an output. A block that the panel link shares belongs to the panel
exactly when the panel has power. -/
def enabledIn (file : RegisterFile) (id : Id) : Bool :=
  if id.block = .lvtm then
    file.value (id.register .control) &&& enableBit id != 0 &&
      ((file.value panelSequencer &&& panelPowered != 0) == (id.kind = .lvds))
  else file.value (id.register .control) &&& enableBit id != 0

/-- The pipe that the register file feeds an output from. -/
def sourceIn (file : RegisterFile) (id : Id) : Pipe :=
  if file.value (id.register .sourceSelect) &&& 1 = 0 then .first else .second

/-- The view that the registers of an output stand for. -/
def View.ofFile (file : RegisterFile) (wiring : Wiring) : View where
  wiring
  power := if enabledIn file wiring.id then .on else .off
  source := some (sourceIn file wiring.id)

theorem readEnabled_readback (id : Id) : (readEnabled id).IsReadback := by
  refine .bind (Hardware.read_block_readback id.block.has_common.1) fun control _ _ ↦ ?_
  dsimp only
  split
  · exact .bind (Hardware.read_readback rfl) fun _ _ _ ↦ .done trivial
  · exact .done trivial

theorem View.resync_readback (view : View) : view.resync.IsReadback :=
  .bind (readEnabled_readback view.id) fun _ _ _ ↦
    .bind (Hardware.read_block_readback view.id.block.has_common.2) fun _ _ _ ↦ .done trivial

theorem run_readEnabled (file : RegisterFile) (id : Id) :
    (readEnabled id).run RegisterFile.port file = (enabledIn file id, file) := by
  have hcontrol := file.run_read_block (id.block.has_common).1
  have hsequencer : (Hardware.read panelSequencer).run RegisterFile.port file =
      (file.value panelSequencer, file) := file.run_read rfl
  simp only [readEnabled, enabledIn, Id.register, Program.bind_eq, Program.run_bind, hcontrol]
  split
  · simp only [Program.run_bind, hsequencer]
    rfl
  · rfl

theorem View.run_resync (file : RegisterFile) (view : View) :
    view.resync.run RegisterFile.port file = (ofFile file view.wiring, file) := by
  have hsource := file.run_read_block (view.id.block.has_common).2
  simp only [resync, Id.register, Program.bind_eq, Program.run_bind, run_readEnabled, hsource]
  rfl

end Output

namespace Display

/-- The cached state that a register file stands for. -/
def reread (file : RegisterFile) (display : Display) : Display :=
  { display with
    first := .ofFile file display.first.pipe
    second := .ofFile file display.second.pipe
    outputs := display.outputs.map fun view ↦ .ofFile file view.wiring }

theorem resyncOutputs_readback (views : List Output.View) : (resyncOutputs views).IsReadback := by
  induction views with
  | nil => exact .done trivial
  | cons view rest ih =>
    exact .bind view.resync_readback fun _ _ _ ↦ .bind ih fun _ _ _ ↦ .done trivial

/-- What is cached is rebuilt from registers that keep their values, and of the same device. -/
theorem resync_readback (display : Display) :
    display.resync.Meets (.asking Access.IsReadback) (fun left _ ↦ display.SameDevice left) () :=
  .bind display.first.resync_readback fun _ _ hfirst ↦
    .bind display.second.resync_readback fun _ _ hsecond ↦
      .bind (resyncOutputs_readback display.outputs) fun _ _ _ ↦
        .done ⟨rfl, fun pipe ↦ by cases pipe <;> first | exact hfirst | exact hsecond⟩

theorem run_resyncOutputs (file : RegisterFile) (views : List Output.View) :
    (resyncOutputs views).run RegisterFile.port file =
      (views.map fun view ↦ .ofFile file view.wiring, file) := by
  induction views with
  | nil => rfl
  | cons view rest ih =>
    simp only [resyncOutputs, Program.bind_eq, Program.run_bind, Output.View.run_resync, ih]
    rfl

theorem run_resync (file : RegisterFile) (display : Display) :
    display.resync.run RegisterFile.port file = (reread file display, file) := by
  simp only [resync, Program.bind_eq, Program.run_bind, Pipe.View.run_resync, run_resyncOutputs]
  rfl

/-- What was rebuilt from a register file is what the file still stands for. -/
theorem reread_reread (file : RegisterFile) (display : Display) :
    reread file (reread file display) = reread file display := by
  have hpipe : ∀ pipe, (Pipe.View.ofFile file pipe).pipe = pipe := by
    intro pipe
    rw [Pipe.View.ofFile]
    split <;> rfl
  simp only [reread, hpipe, List.map_map]
  rfl

theorem start_refresh (display : Display) :
    refresh.start display = display.resync.bind fun left ↦ .done (.ok (), left) := by
  simp only [refresh, Action.start_get_bind, Action.start_lift_bind]
  rfl

theorem run_refresh (file : RegisterFile) (display : Display) :
    (refresh.start display).run RegisterFile.port file = ((.ok (), reread file display), file) := by
  rw [start_refresh, Program.run_bind, run_resync]
  rfl

theorem meets_refresh {post : Except (Failure Error) Unit × Display → RegisterFile → Prop}
    {display : Display} {file : RegisterFile} (hpost : post (.ok (), reread file display) file) :
    (refresh.start display).Meets (.of RegisterFile.port) post file := by
  rw [start_refresh, Program.meets_bind, Program.meets_of_iff, run_resync]
  exact .done hpost

theorem start_saveState_bind (display : Display) (rest : Snapshot → Action Display Unit) :
    (saveState >>= rest).start display = (Snapshot.save display.device).bind fun snapshot ↦
      (rest snapshot).start { display with saved := some snapshot } := by
  rw [Action.start_bind, saveState, Action.start_get_bind, Action.start_lift_bind,
    Program.bind_bind]
  rfl

theorem meets_saveState_bind {display : Display} {rest : Snapshot → Action Display Unit}
    {post : Except (Failure Error) Unit × Display → RegisterFile → Prop} {file : RegisterFile}
    (hrest : ((rest (.ofFile display.device file)).start
      { display with saved := some (.ofFile display.device file) }).Meets
        (.of RegisterFile.port) post (file.store (Snapshot.selection display.device))) :
    ((saveState >>= rest).start display).Meets (.of RegisterFile.port) post file := by
  rw [start_saveState_bind, Program.meets_bind, Program.meets_of_iff, Snapshot.run_save]
  exact hrest

end Display

end Scanout
