import Scanout.Proofs.Output.Sequence

/-!
Outputs that show nothing. Switching an output off leaves it dark in the registers, and it stays
dark however many others are switched off after it: what they share is a block or the panel's power
sequencer, and there they only ever write what an output has that is off.
-/

set_option autoImplicit false
set_option relaxedAutoImplicit false

namespace Scanout.Output

open Register

/-- An output is not enabled, and its panel has no power if it is the link to one. -/
structure Dark (id : Id) (file : RegisterFile) : Prop where
  disabled : file.value (id.register .control) &&& enableBit id = 0
  unpowered : id.kind = .lvds → file.value panelSequencer &&& panelPowered = 0

variable {id : Id} {file : RegisterFile}

theorem controlValue_disabled (other id : Id) : controlValue other false &&& enableBit id = 0 :=
  Decidable.not_not.mp fun henabled ↦
    Bool.false_ne_true ((controlValue_enabled other id false).mp henabled)

theorem panelPower_unpowered (sequencer : UInt32) :
    panelPower false sequencer &&& panelPowered = 0 :=
  Decidable.not_not.mp fun hpowered ↦
    Bool.false_ne_true ((panelPower_powered false sequencer).mp hpowered)

theorem dark_of_switch (id : Id) (file : RegisterFile) (sequencer : UInt32) :
    Dark id (file.store (switchWrites id false sequencer)) where
  disabled := by
    rw [RegisterFile.value_store, latest_control]
    exact controlValue_disabled id id
  unpowered hkind := by
    rw [RegisterFile.value_store, latest_of_forall (mem_switchWrites.mpr (.inr ⟨hkind, rfl⟩))
      (sequencer_of_switchWrites id false sequencer)]
    exact panelPower_unpowered sequencer

/-- Switching any output off leaves one dark that was. -/
theorem Dark.switch (hdark : Dark id file) (other : Id) (sequencer : UInt32) :
    Dark id (file.store (switchWrites other false sequencer)) where
  disabled := by
    rcases file.store_cases (switchWrites other false sequencer) (id.register .control) with
      hwritten | hkept
    · have hregion := region_switchWrites other false sequencer _ hwritten
      rw [Id.register, region_control] at hregion
      have hshared : id.register .control = other.register .control := by
        rw [Id.register, Id.register, Region.encoder.inj hregion]
      rw [show (file.store _).value (id.register .control) = controlValue other false from
        control_of_switchWrites other false sequencer _ hwritten hshared]
      exact controlValue_disabled other id
    · rw [hkept]
      exact hdark.disabled
  unpowered hkind := by
    rcases file.store_cases (switchWrites other false sequencer) panelSequencer with
      hwritten | hkept
    · rw [show (file.store _).value panelSequencer = panelPower false sequencer from
        sequencer_of_switchWrites other false sequencer _ hwritten rfl]
      exact panelPower_unpowered sequencer
    · rw [hkept]
      exact hdark.unpowered hkind

/-- Whatever is written elsewhere leaves an output dark. -/
theorem Dark.store (hdark : Dark id file) {writes : List (Direct × UInt32)}
    (hother : ∀ entry ∈ writes, ∀ block, region entry.1.offset ≠ .encoder block) :
    Dark id (file.store writes) := by
  have hkept : ∀ (register : Direct) (block : EncoderBlock),
      region register.offset = .encoder block →
        (file.store writes).value register = file.value register := by
    intro register block hregion
    refine file.value_store_of_ne ?_
    rintro entry hentry rfl
    exact hother entry hentry block hregion
  constructor
  · rw [hkept (id.register .control) id.block (region_control id.block)]
    exact hdark.disabled
  · rw [hkept _ .lvtm region_panelSequencer]
    exact hdark.unpowered

theorem Dark.advance (hdark : Dark id file) (reads : Nat) : Dark id (file.advance reads) :=
  ⟨hdark.disabled, hdark.unpowered⟩

theorem Dark.darkenAll (hdark : Dark id file) (ids : List Id) :
    Dark id ((darkenAll ids).run RegisterFile.port file).2 := by
  induction ids generalizing file with
  | nil => exact hdark
  | cons other rest ih =>
    rw [each_darkenAll.cons, Program.run_bind, run_darken]
    exact ih (hdark.switch other _)

/-- Outputs that were switched off are dark. -/
theorem dark_of_run_darkenAll (ids : List Id) (file : RegisterFile) :
    ∀ id ∈ ids, Dark id ((darkenAll ids).run RegisterFile.port file).2 := by
  induction ids generalizing file with
  | nil => simp
  | cons other rest ih =>
    rw [each_darkenAll.cons, Program.run_bind, run_darken, List.forall_mem_cons]
    exact ⟨(dark_of_switch other file _).darkenAll rest, ih _⟩

end Scanout.Output
