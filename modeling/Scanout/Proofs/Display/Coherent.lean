import Scanout.Proofs.Display.Board
import Scanout.Proofs.Display.Program
import Scanout.Proofs.I2c.Channel
import Scanout.Proofs.Output.Coherent
import Scanout.Proofs.Pipe.Coherent

/-!
What is cached of a device never contradicts its registers. `Coherent` is what a reader of the cache
relies on. It is not inductive by itself: a snapshot may be written back at any time, and reading
the outputs back afterwards needs to know that no panel has power where no output is a panel's.
`Rooted` is that part, of the registers and of the snapshot, and `Sound` is both together.
-/

set_option autoImplicit false
set_option relaxedAutoImplicit false

namespace Scanout

open Register

namespace Output

/-- The outputs of a board: no two of them share a block, and a monitor whose lines are driven one
by one is reached through the monitor channel. -/
structure Board (wirings : List Wiring) : Prop where
  blocks : wirings.Pairwise fun first second ↦ first.id.block ≠ second.id.block
  pads : ∀ wiring ∈ wirings, ∀ base, wiring.ddc = .pads base → IsChannel base

/-- No panel has power where no output is the link to one. -/
def PanelQuiet (wirings : List Wiring) (file : RegisterFile) : Prop :=
  (∀ wiring ∈ wirings, wiring.id.kind ≠ .lvds) → file.value panelSequencer &&& panelPowered = 0

/-- Outputs on one block are one output. -/
theorem Board.eq_of_block {wirings : List Wiring} (hboard : Board wirings) :
    ∀ first ∈ wirings, ∀ second ∈ wirings, first.id.block = second.id.block → first = second :=
  List.Pairwise.forall_of_forall_of_flip (fun _ _ _ ↦ rfl)
    (hboard.blocks.imp fun hne heq ↦ absurd heq hne)
    (hboard.blocks.imp fun hne heq ↦ absurd heq.symm hne)

/-- The block that a panel may share belongs to another output only where there is no panel. -/
theorem PanelQuiet.sequencer {wirings : List Wiring} {file : RegisterFile}
    (hquiet : PanelQuiet wirings file) (hboard : Board wirings) {wiring : Wiring}
    (hwiring : wiring ∈ wirings) (hkind : wiring.id.kind ≠ .lvds)
    (hblock : wiring.id.block = .lvtm) : file.value panelSequencer &&& panelPowered = 0 := by
  refine hquiet fun other hother hlvds ↦ hkind ?_
  have hshared : other.id.block = wiring.id.block := by
    rw [hblock, Id.block, hlvds]
  rwa [← hboard.eq_of_block other hother wiring hwiring hshared]

end Output

/-- The register is one that a cached view stands for. -/
def Register.IsCached (register : Direct) : Prop :=
  (∃ pipe : Pipe, ∃ name ∈ PipeRegister.control :: Pipe.cachedRegisters,
    register = pipe.register name) ∨ ∃ block, region register.offset = .encoder block

theorem Register.isCached_panelSequencer : IsCached panelSequencer :=
  .inr ⟨_, region_panelSequencer⟩

theorem Register.region_of_isCached {register : Direct} (hcached : IsCached register) :
    (∃ pipe, region register.offset = .pipe pipe) ∨
      ∃ block, region register.offset = .encoder block := by
  refine hcached.imp_left ?_
  rintro ⟨pipe, name, -, rfl⟩
  exact ⟨pipe, region_pipe pipe name⟩

namespace Display

/-- How the outputs are wired. -/
def wirings (display : Display) : List Output.Wiring :=
  display.outputs.map Output.View.wiring

/-- What is cached of a device does not contradict its registers. -/
structure Coherent (display : Display) (file : RegisterFile) : Prop where
  wired : display.Wired
  pipes : ∀ pipe, (display.pipe pipe).Coherent file
  outputs : ∀ view ∈ display.outputs, view.Coherent file

/-- What stays true of a device while its registers are written back and its views are stale. -/
structure Rooted (display : Display) (file : RegisterFile) : Prop where
  wired : display.Wired
  board : Output.Board display.wirings
  quiet : Output.PanelQuiet display.wirings file
  saved : ∀ snapshot, display.saved = some snapshot →
    ∃ old, snapshot = .ofFile display.device old ∧ Output.PanelQuiet display.wirings old

/-- The invariant of every operation. -/
structure Sound (display : Display) (file : RegisterFile) : Prop where
  rooted : display.Rooted file
  coherent : display.Coherent file

variable {display : Display} {file left : RegisterFile}

theorem wiring_mem {view : Output.View} (hview : view ∈ display.outputs) :
    view.wiring ∈ display.wirings :=
  List.mem_map_of_mem hview

/-- The pads of an output are those that it is wired to. -/
theorem wiring_of_ddc {id : Output.Id} {base : Direct} (hddc : display.ddc id = .ok (.pads base)) :
    ∃ wiring ∈ display.wirings, wiring.ddc = .pads base := by
  rw [ddc] at hddc
  split at hddc
  · cases hddc
  rename_i view hfound
  split at hddc
  · cases hddc
  exact ⟨view.wiring, wiring_mem (output?_mem hfound), Except.ok.inj hddc⟩

/-- The views of the outputs are on different blocks. -/
theorem Rooted.blocks (hrooted : display.Rooted file) :
    display.outputs.Pairwise fun first second ↦ first.id.block ≠ second.id.block := by
  have hblocks := hrooted.board.blocks
  rwa [wirings, List.pairwise_map] at hblocks

/-- Only cached registers matter to the invariant. -/
theorem Sound.congr (hsound : display.Sound file) (hsame : file.Agrees IsCached left) :
    display.Sound left := by
  obtain ⟨⟨hwired, hboard, hquiet, hsaved⟩, ⟨-, hpipes, houtputs⟩⟩ := hsound
  refine ⟨⟨hwired, hboard, fun hkinds ↦ ?_, hsaved⟩, ⟨hwired, fun pipe ↦ ?_, fun view hview ↦ ?_⟩⟩
  · rw [hsame _ isCached_panelSequencer]
    exact hquiet hkinds
  · exact (hpipes pipe).congr fun name hname ↦ hsame _ (.inl ⟨_, name, hname, rfl⟩)
  · exact (houtputs view hview).congr fun register hregister ↦ hsame _ (.inr ⟨_, hregister⟩)

/-- Reading everything back restores the invariant. -/
theorem Rooted.sound_reread (hrooted : display.Rooted file) : (reread file display).Sound file := by
  obtain ⟨hwired, hboard, hquiet, hsaved⟩ := hrooted
  have hpipe : ∀ pipe, (reread file display).pipe pipe =
      .ofFile file ((display.pipe pipe).pipe) := fun pipe ↦ by cases pipe <;> rfl
  have hwired' : (reread file display).Wired := by
    intro pipe
    rw [hpipe, hwired, Pipe.View.ofFile]
    split <;> rfl
  have hwirings : (reread file display).wirings = display.wirings := by
    rw [wirings, wirings, reread, List.map_map]
    rfl
  refine ⟨⟨hwired', ?_, ?_, ?_⟩, ⟨hwired', fun pipe ↦ ?_, fun view hview ↦ ?_⟩⟩
  · rwa [hwirings]
  · rwa [hwirings]
  · rwa [hwirings]
  · rw [hpipe]
    exact Pipe.View.coherent_ofFile file _
  · obtain ⟨old, hold, rfl⟩ := List.mem_map.mp hview
    exact Output.View.coherent_ofFile (hquiet.sequencer hboard (wiring_mem hold))

/-- A snapshot of a moment without stray panel power may be kept. -/
theorem Sound.save (hsound : display.Sound file) {old : RegisterFile}
    (hold : Output.PanelQuiet display.wirings old) :
    ({ display with saved := some (.ofFile display.device old) } : Display).Sound file := by
  obtain ⟨⟨hwired, hboard, hquiet, -⟩, ⟨-, hpipes, houtputs⟩⟩ := hsound
  have hpipe : ∀ pipe, ({ display with saved := some (.ofFile display.device old) } : Display).pipe
      pipe = display.pipe pipe := fun pipe ↦ by cases pipe <;> rfl
  have hwired' : ({ display with saved := some (.ofFile display.device old) } : Display).Wired :=
    fun pipe ↦ by rw [hpipe, hwired]
  refine ⟨⟨hwired', hboard, hquiet, ?_⟩, ⟨hwired', fun pipe ↦ ?_, houtputs⟩⟩
  · rintro _ ⟨⟩
    exact ⟨old, rfl, hold⟩
  · rw [hpipe]
    exact hpipes pipe

/-- A new view of a pipe that keeps up with its registers keeps the invariant. -/
theorem Sound.setPipe (hsound : display.Sound file) {pipe : Pipe} {changed : Pipe.View}
    (hkeeps : (display.pipe pipe).Keeps file changed left) :
    (display.setPipe pipe changed).Sound left := by
  obtain ⟨⟨hwired, hboard, hquiet, hsaved⟩, ⟨-, hpipes, houtputs⟩⟩ := hsound
  have helsewhere := hkeeps.elsewhere
  rw [hwired pipe] at helsewhere
  have hother : ∀ other, other ≠ pipe → (display.setPipe pipe changed).pipe other =
      display.pipe other := by
    intro other hne
    cases pipe <;> cases other <;> first | rfl | exact absurd rfl hne
  have hwired' : (display.setPipe pipe changed).Wired := by
    intro other
    by_cases hsame : other = pipe
    · rw [hsame, pipe_setPipe, hkeeps.pipe, hwired]
    · rw [hother other hsame, hwired]
  have hwirings : (display.setPipe pipe changed).wirings = display.wirings := by
    rw [wirings, wirings, outputs_setPipe]
  refine ⟨⟨hwired', ?_, ?_, ?_⟩, ⟨hwired', fun other ↦ ?_, fun view hview ↦ ?_⟩⟩
  · rwa [hwirings]
  · rw [hwirings]
    intro hkinds
    rw [helsewhere _ (.inr ⟨_, region_panelSequencer⟩)]
    exact hquiet hkinds
  · rwa [hwirings, saved_setPipe, device_setPipe]
  · by_cases hsame : other = pipe
    · rw [hsame, pipe_setPipe]
      exact hkeeps.coherent
    · rw [hother other hsame]
      refine (hpipes other).congr fun name _ ↦ helsewhere _ (.inl ⟨other, hsame, ?_⟩)
      rw [hwired other, region_pipe]
  · rw [outputs_setPipe] at hview
    exact (houtputs view hview).congr fun register hregister ↦
      helsewhere _ (.inr ⟨_, hregister⟩)

/-- What is among the views once one of them was replaced: the new one, and views of outputs on
other blocks. -/
theorem mem_replaceOutput {views : List Output.View} {view changed : Output.View}
    (hblocks : views.Pairwise fun first second ↦ first.id.block ≠ second.id.block)
    (hfound : views.find? (fun other ↦ other.id = changed.id) = some view) :
    ∀ other ∈ replaceOutput changed views,
      other = changed ∨ other ∈ views ∧ other.id.block ≠ view.id.block := by
  induction views with
  | nil => cases hfound
  | cons first rest ih =>
    rw [List.pairwise_cons] at hblocks
    rw [replaceOutput]
    intro other hother
    by_cases hid : first.id = changed.id
    · rw [List.find?_cons_of_pos (by simpa using hid)] at hfound
      cases hfound
      rw [if_pos hid] at hother
      refine (List.mem_cons.mp hother).imp_right fun hrest ↦ ?_
      exact ⟨List.mem_cons_of_mem _ hrest, (hblocks.1 other hrest).symm⟩
    · rw [List.find?_cons_of_neg (by simpa using hid)] at hfound
      rw [if_neg hid] at hother
      rcases List.mem_cons.mp hother with rfl | hrest
      · exact .inr ⟨List.mem_cons_self, hblocks.1 view (List.mem_of_find?_eq_some hfound)⟩
      · exact (ih hblocks.2 hfound other hrest).imp_right (.imp_left (List.mem_cons_of_mem _))

/-- A new view of an output that keeps up with its block keeps the invariant. -/
theorem Sound.withOutput (hsound : display.Sound file) {id : Output.Id} {view changed : Output.View}
    (hfound : display.output? id = some view) (hkeeps : view.Keeps file changed left) :
    (display.withOutput changed).Sound left := by
  have hblocks := hsound.rooted.blocks
  obtain ⟨⟨hwired, hboard, hquiet, hsaved⟩, ⟨-, hpipes, houtputs⟩⟩ := hsound
  have hsame := SameBoard.withOutput changed hfound hkeeps.wiring
  have hwired' : (display.withOutput changed).Wired := fun pipe ↦ by rw [hsame.pipe, hwired]
  have hwirings : (display.withOutput changed).wirings = display.wirings := hsame.wirings
  have hmem : view.wiring ∈ display.wirings := wiring_mem (output?_mem hfound)
  refine ⟨⟨hwired', ?_, ?_, ?_⟩, ⟨hwired', fun pipe ↦ ?_, fun other hother ↦ ?_⟩⟩
  · rwa [hwirings]
  · rw [hwirings]
    intro hkinds
    rw [hkeeps.sequencer (hkinds _ hmem)]
    exact hquiet hkinds
  · rwa [hwirings, hsame.saved, hsame.device]
  · rw [hsame.pipe]
    refine (hpipes pipe).congr fun name _ ↦ hkeeps.elsewhere _ fun heq ↦ ?_
    rw [region_pipe] at heq
    cases heq
  · have hid : changed.id = id := by
      rw [← output?_id hfound, Output.View.id, Output.View.id, hkeeps.wiring]
    have hfound' : display.outputs.find? (fun other ↦ other.id = changed.id) = some view := by
      rw [hid]
      exact hfound
    rcases mem_replaceOutput hblocks hfound' other hother with rfl | ⟨hold, hne⟩
    · exact hkeeps.coherent
    · exact (houtputs other hold).congr fun register hregister ↦ hkeeps.elsewhere _ fun heq ↦
        hne (Region.encoder.inj (hregister.symm.trans heq))

end Display

end Scanout
