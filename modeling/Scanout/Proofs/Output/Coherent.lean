import Scanout.Proofs.Display.Outputs
import Scanout.Proofs.Display.Resync

/-!
What is cached of an output never contradicts the registers of its block. Switching and routing an
output keep this, and leave every other block alone. The power sequencer needs a word of its own: it
lies in the block that the panel link shares with the second transmitter, and only the link writes
it.
-/

set_option autoImplicit false
set_option relaxedAutoImplicit false

namespace Scanout

open Register

namespace Output

/-- The block of an output is enabled, and its panel has power if it is the link to one. -/
def Enabled (file : RegisterFile) (id : Id) : Prop :=
  file.value (id.register .control) &&& enableBit id ≠ 0 ∧
    (id.kind = .lvds → file.value panelSequencer &&& panelPowered ≠ 0)

namespace View

/-- What is cached of an output does not contradict its registers. -/
structure Coherent (view : View) (file : RegisterFile) : Prop where
  settled : view.power = .on ∨ view.power = .off
  on : view.power = .on ↔ Enabled file view.id
  source : ∀ pipe, view.source = some pipe →
    file.value (view.id.register .sourceSelect) &&& 1 = pipe.index.toUInt32

/-- What is done to an output leaves a coherent view of it, and other blocks alone. Only the panel
link reaches the power sequencer. -/
structure Keeps (view : View) (file : RegisterFile) (changed : View) (left : RegisterFile) :
    Prop where
  wiring : changed.wiring = view.wiring
  coherent : changed.Coherent left
  elsewhere : file.Agrees (fun register ↦ region register.offset ≠ .encoder view.id.block) left
  sequencer : view.id.kind ≠ .lvds → left.value panelSequencer = file.value panelSequencer

variable {view middle changed : View} {file between left : RegisterFile}

theorem Keeps.trans (hfirst : view.Keeps file middle between)
    (hsecond : middle.Keeps between changed left) : view.Keeps file changed left := by
  have hid : middle.id = view.id := congrArg Wiring.id hfirst.wiring
  refine ⟨hsecond.wiring.trans hfirst.wiring, hsecond.coherent, ?_, fun hkind ↦ ?_⟩
  · refine hfirst.elsewhere.trans ?_
    rw [← hid]
    exact hsecond.elsewhere
  · rw [hsecond.sequencer (by rwa [hid]), hfirst.sequencer hkind]

/-- A coherent view depends on the registers of its own block only. -/
theorem Coherent.congr (hcoherent : view.Coherent file)
    (hsame : file.Agrees (fun register ↦ region register.offset = .encoder view.id.block) left) :
    view.Coherent left := by
  have hcontrol := hsame _ (region_control view.id.block)
  have hselect := hsame _ (region_sourceSelect view.id.block)
  have hsequencer : view.id.kind = .lvds →
      left.value panelSequencer = file.value panelSequencer := by
    intro hkind
    refine hsame _ ?_
    rw [Id.block, hkind]
    rfl
  refine ⟨hcoherent.settled, hcoherent.on.trans ?_, fun pipe hpipe ↦ ?_⟩
  · rw [Enabled, Enabled, Id.register, hcontrol]
    refine and_congr_right fun _ ↦ ⟨fun hpower hkind ↦ ?_, fun hpower hkind ↦ ?_⟩
    · rw [hsequencer hkind]
      exact hpower hkind
    · rw [← hsequencer hkind]
      exact hpower hkind
  · rw [Id.register, hselect]
    exact hcoherent.source pipe hpipe

end View

/-- An output that was switched or read back is on or off. -/
theorem power_settled (on : Bool) :
    ((if on then .on else .off : Power) = .on ∨ (if on then .on else .off : Power) = .off) ∧
      ((if on then .on else .off : Power) = .on ↔ on = true) := by
  cases on <;> decide

/-- Switching an output leaves it enabled exactly when it was switched on. -/
theorem enabled_switched (id : Id) (on : Bool) (sequencer : UInt32) (file : RegisterFile) :
    Enabled (file.store (switchWrites id on sequencer)) id ↔ on = true := by
  rw [Enabled, RegisterFile.value_store, latest_control, Option.getD_some, controlValue_enabled]
  refine and_iff_left_of_imp fun hon hkind ↦ ?_
  have hlatest : latest (switchWrites id on sequencer) panelSequencer =
      some (panelPower on sequencer) :=
    latest_of_forall (mem_switchWrites.mpr (.inr ⟨hkind, rfl⟩))
      (sequencer_of_switchWrites id on sequencer)
  rw [RegisterFile.value_store, hlatest]
  exact (panelPower_powered on sequencer).mpr hon

namespace View

variable {view : View} {file : RegisterFile}

theorem keeps_switched (hcoherent : view.Coherent file) (on : Bool) (sequencer : UInt32) :
    view.Keeps file (view.switched on) (file.store (switchWrites view.id on sequencer)) where
  wiring := rfl
  coherent := by
    refine ⟨(power_settled on).1, ?_, fun pipe hpipe ↦ ?_⟩
    · exact (power_settled on).2.trans (enabled_switched view.id on sequencer file).symm
    · show (file.store _).value (view.id.register .sourceSelect) &&& 1 = _
      rw [file.value_store_of_ne (switchWrites_ne_sourceSelect view.id on sequencer)]
      exact hcoherent.source pipe hpipe
  elsewhere register hregister := by
    refine file.value_store_of_ne fun entry hentry ↦ ne_of_region ?_
    rw [region_switchWrites view.id on sequencer entry hentry]
    exact hregister.symm
  sequencer hkind := by
    rw [(switchWrites_of_ne hkind on sequencer).1]
    exact file.value_store_of_ne (blockWrites_ne view.id on)

theorem keeps_routed (hcoherent : view.Coherent file) (pipe : Pipe) :
    view.Keeps file (view.routed pipe) (file.store [routeWrite view.id pipe]) := by
  have hblock := region_sourceSelect view.id.block
  have hother : ∀ register : Direct, register ≠ view.id.register .sourceSelect →
      (file.store [routeWrite view.id pipe]).value register = file.value register := by
    intro register hregister
    refine file.value_store_of_ne fun entry hentry ↦ ?_
    rw [List.mem_singleton.mp hentry]
    exact hregister.symm
  have hsequencer := hother panelSequencer (register_ne_panelSequencer view.id.block _).symm
  have hcontrol := hother (view.id.register .control)
    fun heq ↦ BlockRegister.noConfusion (eq_common (.inl rfl) heq.symm)
  refine ⟨rfl, ⟨hcoherent.settled, hcoherent.on.trans ?_, ?_⟩, fun register hregister ↦ ?_,
    fun _ ↦ hsequencer⟩
  · show Enabled file view.id ↔ Enabled (file.store [routeWrite view.id pipe]) view.id
    rw [Enabled, Enabled, hcontrol, hsequencer]
  · rintro _ ⟨⟩
    show (file.store [routeWrite view.id pipe]).value (view.id.register .sourceSelect) &&& 1 = _
    have hheld : (file.store [routeWrite view.id pipe]).Holds [routeWrite view.id pipe] :=
      file.holds_store (List.nodup_cons.mpr ⟨by simp, List.nodup_nil⟩)
    have hselect : (file.store [routeWrite view.id pipe]).value (view.id.register .sourceSelect) =
        pipe.index.toUInt32 := hheld (routeWrite view.id pipe) (List.mem_singleton.mpr rfl)
    rw [hselect]
    cases pipe <;> decide
  · refine hother register fun heq ↦ hregister ?_
    rw [heq]
    exact hblock

theorem Coherent.meets_setPower (hcoherent : view.Coherent file) (request : Dpms) :
    (view.setPower request).Meets (.of RegisterFile.port)
      (fun changed left ↦ view.Keeps file changed left) file := by
  rw [setPower_eq, Program.meets_ask]
  show Program.Meets _ _ (Program.bind _ _) file
  rw [Program.meets_bind, Program.meets_of_iff, run_switch]
  exact .done (keeps_switched hcoherent _ _)

theorem Coherent.meets_route (hcoherent : view.Coherent file) (pipe : Pipe) :
    (view.route pipe).Meets (.of RegisterFile.port)
      (fun changed left ↦ view.Keeps file changed left) file := by
  rw [route_eq, Program.meets_bind, Program.meets_of_iff, RegisterFile.run_writeAll]
  exact .done (keeps_routed hcoherent pipe)

/-- An output is read as enabled when it is, where a block that the panel may share belongs to the
panel if the panel has power. -/
theorem enabledIn_iff {id : Id} {file : RegisterFile}
    (hpanel : id.kind ≠ .lvds → id.block = .lvtm →
      file.value panelSequencer &&& panelPowered = 0) :
    enabledIn file id = true ↔ Enabled file id := by
  unfold enabledIn Enabled
  by_cases hkind : id.kind = .lvds
  · have hblock : id.block = .lvtm := by
      rw [Id.block, hkind]
    simp [hkind, hblock]
  · by_cases hblock : id.block = .lvtm
    · simp [hkind, hblock, hpanel hkind hblock]
    · simp [hkind, hblock]

theorem and_one_eq (value : UInt32) : value &&& 1 = 0 ∨ value &&& 1 = 1 := by
  have hmod : (value &&& 1).toNat = value.toNat % 2 := Nat.and_one_is_mod _
  rw [← UInt32.toNat_inj, ← UInt32.toNat_inj, hmod]
  exact Nat.mod_two_eq_zero_or_one _

/-- A view that was just read back is coherent. -/
theorem coherent_ofFile {wiring : Wiring} {file : RegisterFile}
    (hpanel : wiring.id.kind ≠ .lvds → wiring.id.block = .lvtm →
      file.value panelSequencer &&& panelPowered = 0) :
    (ofFile file wiring).Coherent file where
  settled := (power_settled _).1
  on := (power_settled _).2.trans (enabledIn_iff hpanel)
  source := by
    rintro pipe ⟨⟩
    unfold sourceIn
    split
    · assumption
    · exact (and_one_eq _).resolve_left ‹_›

end View

end Output

end Scanout
