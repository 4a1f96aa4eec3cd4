import Scanout.Proofs.Display.Coherent
import Scanout.Proofs.Display.Session

/-!
Every operation keeps what is cached coherent, wherever it stops. Three kinds of steps are all there
is: what does not reach a cached register, what is done to one view and its registers together, and
writing a snapshot back, after which everything is read again. From a device that was just bound,
with everything dark, any session therefore ends with a cache that can be relied on.
-/

set_option autoImplicit false
set_option relaxedAutoImplicit false

namespace Scanout

open Register

namespace Register

/-- Registers outside the pipes and the encoders are not cached. -/
theorem not_isCached_of_region {register : Direct}
    (hregion : region register.offset ∈ [.window, .legacy, .monitor]) : ¬IsCached register := by
  intro hcached
  rcases region_of_isCached hcached with ⟨pipe, heq⟩ | ⟨block, heq⟩ <;>
    · rw [heq] at hregion
      simp at hregion

/-- The cursor of a pipe is not cached. -/
theorem not_isCached_cursor (pipe : Pipe) {name : PipeRegister}
    (hname : name ∈ Display.cursorRegisters) :
    ¬IsCached (pipe.register name) := by
  rintro (⟨other, cached, hcached, heq⟩ | ⟨block, hregion⟩)
  · obtain rfl : pipe = other := by
      have hregion := congrArg (fun register ↦ region register.offset) heq
      simpa using hregion
    rw [pipe_register_injective pipe _ _ heq] at hname
    revert hname hcached
    cases cached <;> decide
  · rw [region_pipe] at hregion
    cases hregion

end Register

namespace Display

/-- The invariant as one of actions on a register file. -/
abbrev KeepsSound {α : Type} (action : Action Display α) : Prop :=
  action.Keeps (.of RegisterFile.port) Sound

/-- The program does not reach any cached register. -/
abbrev IsUncached {α : Type} (program : Hardware α) : Prop :=
  program.IsWithin fun register ↦ ¬IsCached register

theorem keepsSound_uncached {α : Type} {program : Hardware α} (hprogram : IsUncached program) :
    KeepsSound (liftM program : Action Display α) :=
  .lift fun _ file hsound ↦ (Program.meets_of_iff ..).mpr <|
    hsound.congr (file.agrees_of_within hprogram)

theorem keepsSound_uncached_bind {α β : Type} {program : Hardware α} {rest : α → Action Display β}
    (hprogram : IsUncached program) (hrest : ∀ value, KeepsSound (rest value)) :
    KeepsSound (liftM program >>= rest) :=
  .bind (keepsSound_uncached hprogram) hrest

theorem keepsSound_note (level : Log.Level) (text : String) :
    KeepsSound (liftM (Hardware.note level text)) :=
  keepsSound_uncached (Hardware.note_within level text)

theorem isUncached_channel {α : Type} {program : Hardware α} (hprogram : program.StaysInChannel) :
    IsUncached program := by
  refine Program.Meets.widen hprogram fun access haccess offset value hwrite ↦ ?_
  have hregion : region offset = .monitor := haccess offset value hwrite
  exact not_isCached_of_region (by simp [hregion])

theorem keepsSound_waitIdle (device : Device) : KeepsSound device.waitIdle := by
  intro display file hsound
  have hsame (reads : Nat) : file.Agrees IsCached ((file.store []).advance reads) :=
    file.agrees_store (by simp) reads
  rw [Device.start_waitIdle]
  exact Device.meets_stage (fun _ reads ↦ hsound.congr (hsame reads)) fun reads ↦
    .done (hsound.congr (hsame reads))

/-!
What is done to one view and its registers together.
-/

theorem keepsSound_onPipe {pipe : Pipe} {action : Action Pipe.View Unit}
    (haction : ∀ view file, view.Coherent file → (action.start view).Meets (.of RegisterFile.port)
      (fun out left ↦ view.Keeps file out.2 left) file) : KeepsSound (onPipe pipe action) := by
  intro display file hsound
  rw [start_onPipe]
  exact (haction _ file (hsound.coherent.pipes pipe)).bind fun out left hkeeps ↦
    .done (hsound.setPipe hkeeps)

theorem keepsSound_onOutput {id : Output.Id} {change : Output.View → Hardware Output.View}
    (hchange : ∀ view file, view.Coherent file → (change view).Meets (.of RegisterFile.port)
      (fun changed left ↦ view.Keeps file changed left) file) :
    KeepsSound (onOutput id change) :=
  keeps_onOutput_of fun _ file view hsound hfound ↦
    (hchange view file (hsound.coherent.outputs view (output?_mem hfound))).mono
      fun _ _ hkeeps ↦ hsound.withOutput hfound hkeeps

/-- A mode set keeps the invariant if its plan came from an accepted request. -/
theorem keepsSound_setMode {origin : Display} {pipe : Pipe} {request : Request} {plan : Pipe.Plan}
    (haccepted : origin.Accepted pipe request plan) (device : Device) :
    KeepsSound (onPipe pipe (Pipe.View.setMode device plan)) := by
  obtain ⟨stop, hstop⟩ := haccepted.placed.fits
  obtain ⟨hh, hv⟩ := haccepted.totals
  exact keepsSound_onPipe fun _ _ hview ↦
    hview.meets_setMode device hstop hh hv haccepted.timing

theorem keepsSound_light (id : Output.Id) (pipe : Pipe) :
    KeepsSound (onOutput id fun view ↦ do
      let view ← view.route pipe
      view.setPower .on) := by
  refine keepsSound_onOutput fun view file hview ↦ ?_
  refine (hview.meets_route pipe).bind fun routed _ hrouted ↦ ?_
  exact (hrouted.coherent.meets_setPower .on).mono fun _ _ hswitched ↦ hrouted.trans hswitched

/-!
Writing a snapshot back. Nothing that is cached is touched before the engine has settled, and
afterwards all of it is read again.
-/

variable {display : Display} {file : RegisterFile}

/-- What was written back from a sound moment leaves a device whose views can be read again. -/
theorem Rooted.restored (hrooted : display.Rooted file) {old left : RegisterFile}
    (hquiet : Output.PanelQuiet display.wirings old)
    (hrestored : Snapshot.Restored display.device old left) : display.Rooted left := by
  refine ⟨hrooted.wired, hrooted.board, fun hkinds ↦ ?_, hrooted.saved⟩
  have hentry : ∃ entry ∈ Snapshot.table, entry.place = .direct panelSequencer := by
    decide +kernel
  obtain ⟨entry, hentry, hplace⟩ := hentry
  have hpeek := hrestored entry hentry (by rw [hplace]; decide) (by rw [hplace]; decide)
  rw [hplace] at hpeek
  rw [show left.value panelSequencer = old.value panelSequencer from hpeek]
  exact hquiet hkinds

theorem Sound.meets_restore (hsound : display.Sound file) {old : RegisterFile}
    (hquiet : Output.PanelQuiet display.wirings old)
    {post : Except (Failure Error) Unit × Display → RegisterFile → Prop}
    (hstuck : ∀ status left, display.Sound left →
      post (.error (display.device.lockup status), display) left)
    (hdone : ∀ left, display.Rooted left → post (.ok (), display) left) :
    ((Snapshot.restore display.device (.ofFile display.device old)).start display).Meets
      (.of RegisterFile.port) post file := by
  refine Snapshot.meets_restore (fun status left hsame ↦ hstuck status left ?_)
    fun left hrestored ↦ hdone left (hsound.rooted.restored hquiet hrestored)
  refine hsound.congr (hsame.mono fun register hcached hwindow ↦ ?_)
  exact not_isCached_of_region (by simp [hwindow]) hcached

theorem Rooted.meets_refresh (hrooted : display.Rooted file) :
    (refresh.start display).Meets (.of RegisterFile.port) (fun out left ↦ out.2.Sound left) file :=
  Display.meets_refresh hrooted.sound_reread

theorem keepsSound_restoreState : KeepsSound restoreState := by
  intro display file hsound
  rw [restoreState, Action.start_get_bind]
  cases hsaved : display.saved with
  | none => exact .done hsound
  | some snapshot =>
    obtain ⟨old, rfl, hquiet⟩ := hsound.rooted.saved snapshot hsaved
    dsimp only
    rw [restoreSnapshot, Action.start_get_bind, Action.start_bind, Program.meets_bind]
    exact hsound.meets_restore hquiet (fun _ _ hleft ↦ .done hleft) fun _ hleft ↦
      hleft.meets_refresh

/-- Recovering reads everything again even where the snapshot could not be written back. -/
theorem keepsSound_recover (pipe : Pipe) : KeepsSound (recover pipe) := by
  intro display file hsound
  rw [recover, Action.start_get_bind]
  dsimp only
  cases hsaved : display.saved with
  | none => exact keepsSound_note _ _ display file hsound
  | some snapshot =>
    obtain ⟨old, rfl, hquiet⟩ := hsound.rooted.saved snapshot hsaved
    dsimp only
    rw [Action.start_lift_bind, Program.meets_bind, Program.meets_of_iff]
    show Program.Meets _ _ _ file
    rw [Action.start_bind, Action.start_attempt, Program.bind_bind, Program.meets_bind]
    refine hsound.meets_restore hquiet (fun status left hleft ↦ ?_) fun left hleft ↦ ?_
    · rw [Program.done_bind, Action.follow_ok, Device.lockup]
      dsimp only
      rw [Action.start_lift_bind, Program.meets_bind, Program.meets_of_iff]
      exact hleft.rooted.meets_refresh
    · rw [Program.done_bind, Action.follow_ok]
      exact hleft.meets_refresh

/-!
What does not reach a cached register.
-/

theorem keepsSound_mapMemory : KeepsSound mapMemory := by
  refine .get_bind fun display _ ↦ ?_
  have hwrite : ∀ (register : Direct) (value : UInt32),
      region register.offset ∈ [.window, .legacy, .monitor] →
        IsUncached (Hardware.write register value) :=
    fun register value hregion ↦ Hardware.write_within (not_isCached_of_region hregion) value
  have hwindow : IsUncached (Hardware.writeController display.device.aperture
      (Aperture.covering display.base display.size).raw) :=
    .bind (hwrite controllerIndex _ (by simp)) fun _ ↦ hwrite controllerData _ (by simp)
  exact keepsSound_uncached_bind hwindow fun _ ↦
    keepsSound_uncached_bind (hwrite _ _ (by simp)) fun _ ↦
      keepsSound_uncached_bind (hwrite _ _ (by simp)) fun _ ↦
        .bind (keepsSound_note _ _) fun _ ↦ keepsSound_waitIdle display.device

theorem keepsSound_saveState : KeepsSound (do let _ ← saveState) := by
  intro display file hsound
  refine meets_saveState_bind (.done ?_)
  have hindex : ∀ entry ∈ Snapshot.selection display.device, ¬IsCached entry.1 := by
    intro entry hentry
    rw [List.mem_singleton.mp hentry]
    exact not_isCached_of_region (by simp)
  have hselection : file.Agrees IsCached (file.store (Snapshot.selection display.device)) :=
    file.agrees_store hindex 0
  exact (hsound.congr hselection).save hsound.rooted.quiet

/-- Where the pads of an output are. -/
theorem isChannel_of_ddc (hsound : display.Sound file) {id : Output.Id} {base : Direct}
    (hddc : display.ddc id = .ok (.pads base)) : IsChannel base := by
  obtain ⟨wiring, hwiring, hpads⟩ := wiring_of_ddc hddc
  exact hsound.rooted.board.pads wiring hwiring base hpads

theorem keepsSound_withDdc {α : Type} (id : Output.Id)
    {talk : {m : Type → Type} → [Monad m] → Edid.Bus m → m α}
    (htalk : ∀ bus : Edid.Bus Hardware, bus.Stays → (talk bus).StaysInChannel) :
    KeepsSound (withDdc id talk) := by
  refine keeps_withDdc id (fun controller ↦ ?_) fun display hdisplay base hchannel wires ↦ ?_
  · exact keepsSound_uncached
      (isUncached_channel (htalk _ (Edid.Bus.ofController_stays controller)))
  · obtain ⟨file, hsound⟩ := hdisplay
    have hbase := isChannel_of_ddc hsound hchannel
    refine keepsSound_uncached (isUncached_channel ?_)
    exact I2c.Pads.Stays.bind (I2c.Pads.attach_stays hbase) fun _ ↦ I2c.Pads.run_stays hbase wires

theorem steady_sound : Steady (.of RegisterFile.port) Sound where
  note := keepsSound_note
  pipePower _ device request :=
    keepsSound_onPipe fun _ _ hview ↦ hview.meets_setPower device request
  setMode := keepsSound_setMode
  outputPower _ request := keepsSound_onOutput fun _ _ hview ↦ hview.meets_setPower request
  route _ pipe := keepsSound_onOutput fun _ _ hview ↦ hview.meets_route pipe
  light := keepsSound_light
  recover := keepsSound_recover
  mapMemory := keepsSound_mapMemory
  saveState := keepsSound_saveState
  restoreState := keepsSound_restoreState
  cursor pipe _ value hname :=
    keepsSound_uncached (Hardware.write_within (not_isCached_cursor pipe hname) value)
  cursorControl pipe clear set :=
    keepsSound_uncached (Hardware.update_within (not_isCached_cursor pipe (by decide)) clear set)

theorem keepsSound_session (calls : List Call) : KeepsSound (session calls) :=
  steady_sound.session (fun id ↦ keepsSound_withDdc id fun _ hbus ↦ Edid.probe_stays hbus)
    (fun id block ↦ keepsSound_withDdc id fun _ hbus ↦ Edid.readBlock_stays hbus block) calls

/-!
From the start. Nothing is on after binding, so there is nothing to contradict as long as the
registers are dark as well.
-/

/-- The outputs of either usual board are wired apart. -/
theorem board_boardOutputs (chip : Chip) : Output.Board (boardOutputs chip) := by
  unfold boardOutputs
  split
  · refine ⟨by decide, ?_⟩
    simp only [Output.mobile, List.forall_mem_cons]
    refine ⟨?_, ?_, ?_, ?_, by simp⟩ <;> rintro _ ⟨⟩ <;> rfl
  · refine ⟨by decide, ?_⟩
    simp only [Output.desktop, List.forall_mem_cons]
    refine ⟨?_, ?_, ?_, ?_, by simp⟩ <;> rintro _ ⟨⟩ <;> rfl

end Display

/-- Nothing is enabled: neither a pipe nor an encoder nor the panel. -/
structure RegisterFile.Dark (file : RegisterFile) : Prop where
  pipes : ∀ pipe : Pipe, file.value (pipe.register .control) &&& pipeEnabled = 0
  encoders : ∀ id : Output.Id, file.value (id.register .control) &&& Output.enableBit id = 0
  panel : file.value panelSequencer &&& panelPowered = 0

namespace Display

theorem Fresh.wirings {display : Display} (hfresh : display.Fresh) :
    display.wirings = boardOutputs display.device.chip := by
  rw [Display.wirings, hfresh.outputs, List.map_map]
  exact List.map_id _

theorem Fresh.sound {display : Display} {file : RegisterFile} (hfresh : display.Fresh)
    (hdark : file.Dark) : display.Sound file := by
  refine ⟨⟨hfresh.wired, ?_, fun _ ↦ hdark.panel, ?_⟩, ⟨hfresh.wired, fun pipe ↦ ?_, ?_⟩⟩
  · rw [hfresh.wirings]
    exact board_boardOutputs display.device.chip
  · rw [hfresh.saved]
    rintro _ ⟨⟩
  · rw [hfresh.pipe]
    exact ⟨.of_none rfl rfl file, by rintro ⟨⟩, fun _ ↦ hdark.pipes pipe⟩
  · intro view hview
    rw [hfresh.outputs] at hview
    obtain ⟨wiring, -, rfl⟩ := List.mem_map.mp hview
    have hclear := hdark.encoders wiring.id
    refine ⟨.inr rfl, ⟨by rintro ⟨⟩, fun henabled ↦ absurd hclear henabled.1⟩, ?_⟩
    rintro _ ⟨⟩

/-- After any session on a device that was bound with everything dark, what is cached does not
contradict the registers. -/
theorem session_coherent {adapter : Adapter} {config : Config} {display : Display}
    (hattach : attach adapter config = .ok display) {file : RegisterFile} (hdark : file.Dark)
    (calls : List Call) :
    let run := ((session calls).start display).run RegisterFile.port file
    run.1.2.Coherent run.2 := by
  have hsound := (Program.meets_of_iff ..).mp
    (keepsSound_session calls display file ((fresh_of_attach hattach).sound hdark))
  exact hsound.coherent

theorem dark_cleared : RegisterFile.cleared.Dark where
  pipes _ := UInt32.zero_and
  encoders _ := UInt32.zero_and
  panel := UInt32.zero_and

/-- A session that sets a mode, reads a monitor, moves outputs about and restores. -/
theorem session_coherent_desktop :
    let calls : List Call := [.saveState, .applyMode .first desktopRequest, .probeDdc .dac1,
      .routeOutput .tmds2 .second, .setPower (.output .tmds2) .off, .restoreState,
      .applyMode .second desktopRequest, .setPower (.pipe .first) .standby]
    let run := ((session calls).start desktop).run RegisterFile.port .cleared
    run.1.2.Coherent run.2 :=
  session_coherent attach_desktop dark_cleared _

end Display

end Scanout
