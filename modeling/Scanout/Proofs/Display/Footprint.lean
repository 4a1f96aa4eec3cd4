import Scanout.Proofs.Display.Board
import Scanout.Proofs.Display.Outputs
import Scanout.Proofs.Display.Resync
import Scanout.Proofs.Display.Session
import Scanout.Proofs.Pipe.ModeSet
import Scanout.Proofs.Snapshot

/-!
Which registers the operations write. Everything that is ever written is an entry of the snapshot
table or belongs to the window of the memory controller: each list of writes is held against the
table once, and the rest follows the structure of the operations, whatever is answered and wherever
they stop. Only the monitor channel has registers of its own that no snapshot covers.
-/

set_option autoImplicit false
set_option relaxedAutoImplicit false

namespace Scanout

open Register

namespace Snapshot

/-- The register is saved and restored, or belongs to the window of the memory controller. -/
def Covers (register : Direct) : Prop :=
  register ∈ registers ∨ register = controllerIndex ∨ register = controllerData

@[simp] theorem covers_pipe (pipe : Pipe) (register : PipeRegister) :
    Covers (pipe.register register) :=
  .inl (pipe_mem_registers pipe register)

@[simp] theorem covers_pll (pipe : Pipe) (register : PllRegister) :
    Covers (pipe.pll register) :=
  .inl (pll_mem_registers pipe register)

theorem covers_block {block : EncoderBlock} {register : BlockRegister}
    (hhas : block.has register = true) : Covers (block.register register) :=
  .inl (block_mem_registers hhas)

@[simp] theorem covers_panelSequencer : Covers panelSequencer :=
  .inl (mem_registers_of_single (.inr (.inr rfl)))

@[simp] theorem covers_clockSource : Covers clockSource :=
  .inl (mem_registers_of_single (.inr (.inl rfl)))

@[simp] theorem covers_vga1Control : Covers vga1Control :=
  .inl (mem_registers_of_single (.inl (by simp)))

@[simp] theorem covers_vga2Control : Covers vga2Control :=
  .inl (mem_registers_of_single (.inl (by simp)))

@[simp] theorem covers_vgaMemoryBase : Covers vgaMemoryBase :=
  .inl (mem_registers_of_single (.inl (by simp)))

@[simp] theorem covers_vgaSurfaceStart : Covers vgaSurfaceStart :=
  .inl (mem_registers_of_single (.inl (by simp)))

@[simp] theorem covers_controllerIndex : Covers controllerIndex := .inr (.inl rfl)

@[simp] theorem covers_controllerData : Covers controllerData := .inr (.inr rfl)

end Snapshot

open Snapshot (Covers)

/-- Covered registers may be written, and anything may be answered. -/
abbrev coveredPort : Contract Access.signature Unit :=
  .asking (Access.Within Covers)

/-- The program writes covered registers only. -/
abbrev Program.IsCovered {α : Type} (program : Hardware α) : Prop :=
  program.IsWithin Covers

namespace Action

variable {σ : Type} {invariant : σ → Unit → Prop}

/-- A program of covered writes leaves what is cached alone. -/
theorem Keeps.covered {α : Type} {program : Hardware α} (hprogram : program.IsCovered) :
    (liftM program : Action σ α).Keeps coveredPort invariant :=
  .lift fun _ _ hinvariant ↦ Program.Meets.mono hprogram fun _ _ _ ↦ hinvariant

theorem Keeps.covered_bind {α β : Type} {program : Hardware α} {rest : α → Action σ β}
    (hprogram : program.IsCovered) (hrest : ∀ value, (rest value).Keeps coveredPort invariant) :
    (liftM program >>= rest : Action σ β).Keeps coveredPort invariant :=
  .bind (.covered hprogram) hrest

end Action

namespace Device

variable {σ : Type} {invariant : σ → Unit → Prop}

theorem keeps_waitIdle (device : Device) :
    (device.waitIdle : Action σ Unit).Keeps coveredPort invariant := by
  intro state _ hinvariant
  rw [start_waitIdle]
  exact stage_within (by simp) (fun _ ↦ hinvariant) (.done hinvariant)

theorem keeps_mapMemory (device : Device) (base size : UInt32) :
    (device.mapMemory base size : Action σ Unit).Keeps coveredPort invariant := by
  have hwindow :
      (Hardware.writeController device.aperture (Aperture.covering base size).raw).IsCovered :=
    .bind (Hardware.write_within Snapshot.covers_controllerIndex _) fun _ ↦
      Hardware.write_within Snapshot.covers_controllerData _
  exact .covered_bind hwindow fun _ ↦ .covered_bind (Hardware.write_within (by simp) _) fun _ ↦
    .covered_bind (Hardware.write_within (by simp) _) fun _ ↦
      .covered_bind (Hardware.note_within _ _) fun _ ↦ device.keeps_waitIdle

end Device

namespace Pipe

variable {σ : Type} {invariant : σ → Unit → Prop}

theorem covers_surfaceWrites (pipe : Pipe) (plan : Plan) (stop : UInt32) :
    ∀ entry ∈ pipe.surfaceWrites plan stop, Covers entry.1 := by
  simp [surfaceWrites]

theorem covers_pllWrites (pipe : Pipe) (solution : Pll.Solution) :
    ∀ entry ∈ pipe.pllWrites solution, Covers entry.1 := by
  simp [pllWrites, dividerWrites]

theorem covers_scalerWrites (pipe : Pipe) (plan : Plan) :
    ∀ entry ∈ pipe.scalerWrites plan, Covers entry.1 := by
  simp [scalerWrites, scalerSettings]

theorem keeps_programTiming (pipe : Pipe) (plan : Plan) :
    (programTiming pipe plan : Action σ Unit).Keeps coveredPort invariant := by
  have hwrite : ∀ (register : PipeRegister) (value : UInt32),
      (Hardware.write (pipe.register register) value).IsCovered :=
    fun register value ↦ Hardware.write_within (Snapshot.covers_pipe pipe register) value
  have hline : ∀ (register : PipeRegister) (value : UInt32) {rest : Unit → Action σ Unit},
      (∀ done, (rest done).Keeps coveredPort invariant) →
        (liftM (Hardware.write (pipe.register register) value) >>= rest).Keeps coveredPort
          invariant :=
    fun register value _ hrest ↦ .covered_bind (hwrite register value) hrest
  exact hline _ _ fun _ ↦ hline _ _ fun _ ↦ hline _ _ fun _ ↦
    .bind (.checked _) fun _ ↦ hline _ _ fun _ ↦ hline _ _ fun _ ↦ hline _ _ fun _ ↦
      hline _ _ fun _ ↦ .bind (.checked _) fun _ ↦ hline _ _ fun _ ↦ hline _ _ fun _ ↦
        hline _ _ fun _ ↦ .covered (hwrite _ _)

namespace View

/-- The view is of a pipe. -/
abbrev IsOf (pipe : Pipe) (view : View) (_ : Unit) : Prop :=
  view.pipe = pipe

variable {pipe : Pipe}

theorem keeps_enable (device : Device) : (enable device).Keeps coveredPort (IsOf pipe) := by
  intro view _ hpipe
  rw [start_enable]
  exact Device.stage_within (by simp [startWrites]) (fun _ ↦ hpipe) (.done hpipe)

theorem keeps_disable (device : Device) : (disable device).Keeps coveredPort (IsOf pipe) := by
  intro view _ hpipe
  rw [start_disable]
  exact Device.stage_within (by simp [stopWrites]) (fun _ ↦ hpipe) (.done hpipe)

theorem keeps_setPower (device : Device) (request : Dpms) :
    (setPower device request).Keeps coveredPort (IsOf pipe) := by
  refine .get_bind fun view _ ↦ .covered_bind (Hardware.note_within _ _) fun _ ↦ ?_
  split
  · exact keeps_enable device
  · exact keeps_disable device

theorem keeps_setMode (device : Device) (plan : Plan) :
    (setMode device plan).Keeps coveredPort (IsOf pipe) := by
  refine .settled_bind fun stop _ ↦ .bind (keeps_disable device) fun _ ↦
    .bind (.modify fun _ _ hpipe ↦ hpipe) fun _ ↦ .get_bind fun view _ ↦ ?_
  refine .covered_bind (Hardware.writeAll_within (covers_surfaceWrites view.pipe plan stop))
    fun _ ↦ .bind ?_ fun _ ↦
      .covered_bind (Hardware.writeAll_within (covers_scalerWrites view.pipe plan)) fun _ ↦
        .bind (keeps_programTiming view.pipe plan) fun _ ↦
          .bind (.modify fun _ _ hpipe ↦ hpipe) fun _ ↦ keeps_enable device
  intro state _ hpipe
  rw [start_programPll]
  exact Device.stage_within (covers_pllWrites view.pipe plan.pll) (fun _ ↦ hpipe) (.done hpipe)

end View

end Pipe

namespace Output

theorem switch_covered (id : Id) (on : Bool) : (switch id on).IsCovered :=
  switch_within (fun _ hhas ↦ Snapshot.covers_block hhas) (fun _ ↦ Snapshot.covers_panelSequencer) on

theorem View.setPower_covered (view : View) (request : Dpms) :
    (view.setPower request).IsCovered :=
  .bind (Hardware.note_within _ _) fun _ ↦
    .bind (switch_covered view.id request.isOn) fun _ ↦ .done _

theorem View.route_covered (view : View) (pipe : Pipe) : (view.route pipe).IsCovered :=
  .bind (Hardware.write_within (Snapshot.covers_block view.id.block.has_common.2) _) fun _ ↦
    .done _

end Output

/-!
Writing back stays in the table, and reading back does not write.
-/

namespace Snapshot

theorem readAll_covered (device : Device) (entries : List Entry) :
    (readAll device entries).IsCovered := by
  induction entries with
  | nil => exact .done _
  | cons entry rest ih =>
    have hread : (entry.place.read device).IsCovered := by
      cases entry.place with
      | direct register => exact Hardware.read_within register
      | aperture =>
        exact .bind (Hardware.write_within covers_controllerIndex _) fun _ ↦
          Hardware.read_within _
    exact .bind hread fun _ ↦ .bind ih fun _ ↦ .done _

theorem save_covered (device : Device) : (save device).IsCovered :=
  .bind (readAll_covered device _) fun _ ↦ .bind (readAll_covered device _) fun _ ↦
    .bind (Hardware.note_within _ _) fun _ ↦ .done _

theorem keeps_restore {σ : Type} {invariant : σ → Unit → Prop} (device : Device)
    (snapshot : Snapshot) :
    (snapshot.restore device : Action σ Unit).Keeps coveredPort invariant := by
  have hnote : ∀ state, invariant state () →
      (Program.ask (.note restoredNote) fun _ ↦ .done (.ok (), state) :
        Hardware (Except (Failure Error) Unit × σ)).Meets coveredPort
          (fun out left ↦ invariant out.2 left) () :=
    fun _ hinvariant ↦ .ask (fun _ _ ↦ Access.noConfusion) fun _ ↦ .done hinvariant
  obtain ⟨values⟩ := snapshot
  intro state _ hinvariant
  cases values with
  | nil =>
    rw [start_restore_nil]
    exact hnote state hinvariant
  | cons value values =>
    have hreplay : (Hardware.writeAll (replay values)).IsCovered :=
      Hardware.writeAll_within fun entry hentry ↦ .inl (replay_mem values entry hentry)
    rw [start_restore_cons]
    refine Device.stage_within (by simp [RegisterFile.controllerWrites]) (fun _ ↦ hinvariant) ?_
    exact Program.Meets.bind hreplay fun _ _ _ ↦ hnote state hinvariant

end Snapshot

namespace Display

/-- The cached state belongs to the same device as another one. -/
abbrev IsOn (origin display : Display) (_ : Unit) : Prop :=
  origin.SameDevice display

variable {origin : Display}

theorem keeps_onPipe {pipe : Pipe} {action : Action Pipe.View Unit}
    (haction : ∀ owner, action.Keeps coveredPort (Pipe.View.IsOf owner)) :
    (onPipe pipe action).Keeps coveredPort (IsOn origin) := by
  intro display _ hsame
  refine Program.Meets.bind (haction _ (display.pipe pipe) () rfl) fun out _ hpipe ↦ .done ?_
  refine hsame.trans ⟨?_, fun other ↦ ?_⟩
  · cases pipe <;> rfl
  · cases pipe <;> cases other <;> first | exact hpipe | rfl

theorem keeps_onOutput {id : Output.Id} {change : Output.View → Hardware Output.View}
    (hchange : ∀ view, (change view).IsCovered) :
    (onOutput id change).Keeps coveredPort (IsOn origin) := by
  refine .get_bind fun display _ ↦ ?_
  split
  · exact .refuse _
  · exact .covered_bind (hchange _) fun _ ↦ .modify fun _ _ hsame ↦ hsame.trans
      ⟨rfl, fun pipe ↦ by cases pipe <;> rfl⟩

/-- Rebuilding what is cached does not change the device that it is cached of. -/
theorem resync_covered (display : Display) :
    display.resync.Meets coveredPort (IsOn display) () :=
  (resync_readback display).widen fun _ hreadback offset value hwrite ↦ by
    subst hwrite
    exact hreadback.elim

theorem keeps_refresh : refresh.Keeps coveredPort (IsOn origin) := by
  intro display _ hsame
  rw [start_refresh]
  exact Program.Meets.bind display.resync_covered fun _ _ hleft ↦ .done (hsame.trans hleft)

theorem keeps_saveState : saveState.Keeps coveredPort (IsOn origin) :=
  .get_bind fun display _ ↦ .covered_bind (Snapshot.save_covered display.device) fun snapshot ↦
    .bind (.modify fun _ _ hsame ↦ hsame.trans ⟨rfl, fun pipe ↦ by cases pipe <;> rfl⟩) fun _ ↦
      .pure snapshot

theorem keeps_restoreSnapshot (snapshot : Snapshot) :
    (restoreSnapshot snapshot).Keeps coveredPort (IsOn origin) :=
  .get_bind fun display _ ↦ .bind (Snapshot.keeps_restore display.device snapshot) fun _ ↦
    keeps_refresh

theorem keeps_recover (pipe : Pipe) : (recover pipe).Keeps coveredPort (IsOn origin) :=
  keeps_recover_of (fun _ _ ↦ .covered (Hardware.note_within _ _))
    (fun snapshot device ↦ Snapshot.keeps_restore device snapshot) keeps_refresh pipe

theorem steady_covered : Steady coveredPort (IsOn origin) where
  note level text := .covered (Hardware.note_within level text)
  pipePower _ device request := keeps_onPipe fun _ ↦ Pipe.View.keeps_setPower device request
  setMode _ device := keeps_onPipe fun _ ↦ Pipe.View.keeps_setMode device _
  outputPower _ request := keeps_onOutput fun view ↦ view.setPower_covered request
  route _ pipe := keeps_onOutput fun view ↦ view.route_covered pipe
  light _ pipe := keeps_onOutput fun view ↦
    .bind (view.route_covered pipe) fun routed ↦ routed.setPower_covered .on
  recover := keeps_recover
  mapMemory := .get_bind fun display _ ↦ display.device.keeps_mapMemory _ _
  saveState := .bind keeps_saveState fun _ ↦ .pure ()
  restoreState := keeps_restoreState_of keeps_restoreSnapshot
  cursor pipe name value _ :=
    .covered (Hardware.write_within (Snapshot.covers_pipe pipe name) value)
  cursorControl pipe clear set :=
    .covered (Hardware.update_within (Snapshot.covers_pipe pipe .cursorControl) clear set)

/-- Every call that does not talk to a monitor stays on its device and writes covered registers
only. -/
theorem keeps_call {call : Call} (hddc : call.isDdc = false) :
    call.action.Keeps coveredPort (IsOn origin) :=
  steady_covered.call fun htalks ↦ absurd htalks (by simp [hddc])

/-!
Talking to a monitor stays on the device as well, so the whole of a session does.
-/

theorem keeps_anything {α : Type} (program : Hardware α) :
    (liftM program : Action Display α).Keeps (.asking fun _ ↦ True) (IsOn origin) :=
  .lift fun _ _ hsame ↦ program.meets_anything.mono fun _ _ _ ↦ hsame

theorem keeps_session_on (calls : List Call) :
    (session calls).Keeps (.asking fun _ ↦ True) (IsOn origin) := by
  have hwide : Steady (.asking fun _ ↦ True) (IsOn origin) := steady_covered.widen fun _ _ ↦ trivial
  exact hwide.session
    (fun id ↦ keeps_withDdc id (fun _ ↦ keeps_anything _) fun _ _ _ _ _ ↦ keeps_anything _)
    (fun id _ ↦ keeps_withDdc id (fun _ ↦ keeps_anything _) fun _ _ _ _ _ ↦ keeps_anything _)
    calls

/-- Whatever was called and answered since a device was bound, each pipe's view is a view of that
pipe. -/
theorem wired_session {adapter : Adapter} {config : Config} {display : Display}
    (hattach : attach adapter config = .ok display) (calls : List Call) {σ : Type}
    (handler : Handler Access.signature σ) (state : σ) :
    (((session calls).start display).run handler state).1.2.Wired := by
  have hsame := (keeps_session_on calls display () (.refl display)).returns handler state
  exact SameDevice.wired hsame (fresh_of_attach hattach).wired

end Display

end Scanout
