import Scanout.Output.View
import Scanout.Proofs.RegisterFile

/-!
Switching an encoder as a list of writes. Only the panel link looks at a register on the way: its
power sequencer keeps its other bits, so what is written to it depends on what it held.
-/

set_option autoImplicit false
set_option relaxedAutoImplicit false

namespace Scanout

open Register

namespace Output

/-- The value that puts the panel under power or takes its power away. -/
def panelPower (on : Bool) (sequencer : UInt32) : UInt32 :=
  if on then (sequencer &&& ~~~0) ||| panelPowered else (sequencer &&& ~~~panelPowered) ||| 0

/-- The values that the registers of an output's block get when it is switched, in order. -/
def settings (id : Id) (on : Bool) : List (BlockRegister × UInt32) :=
  match id.kind with
  | .dac =>
    if on then [(.powerDown, 0), (.bandgap, 0), (.control, dacEnabled)]
    else [(.control, 0), (.powerDown, dacPoweredDown), (.bandgap, dacBandgapOff)]
  | .tmds =>
    [(.bitDepth, if on then tmdsBitDepthOn else tmdsBitDepthOff),
      (.dataSync, if on then tmdsDataSyncOn else tmdsDataSyncOff),
      (.transmitterControl, transmitterControl id.block),
      (.transmitterEnable, if on then transmitterLanes id.block else tmdsLanesOff),
      (.control, if on then tmdsControlBase ||| tmdsEnabled else tmdsControlBase)]
  | .lvds =>
    if on then
      [(.transmitterControl, lvdsTransmitterControl), (.transmitterEnable, lvdsLanesOn),
        (.control, tmdsControlBase ||| tmdsEnabled)]
    else [(.control, tmdsControlBase), (.transmitterEnable, tmdsLanesOff)]

/-- The writes that switch an output inside its block. -/
def blockWrites (id : Id) (on : Bool) : List (Direct × UInt32) :=
  (settings id on).map fun entry ↦ (id.register entry.1, entry.2)

/-- The writes that switch an output. Those of the panel link reach a power sequencer, which held
the given value. -/
def switchWrites (id : Id) (on : Bool) (sequencer : UInt32) : List (Direct × UInt32) :=
  match id.kind with
  | .dac | .tmds => blockWrites id on
  | .lvds =>
    if on then blockWrites id on ++ [(panelSequencer, panelPower on sequencer)]
    else (panelSequencer, panelPower on sequencer) :: blockWrites id on

/-- What switching an output shows. The sequencer is read right before it is written. -/
def switchEvents (id : Id) (on : Bool) (sequencer : UInt32) : List Event :=
  match id.kind with
  | .dac | .tmds => Event.writes (blockWrites id on)
  | .lvds =>
    if on then
      Event.writes (blockWrites id on) ++ [Event.read panelSequencer sequencer,
        Event.write panelSequencer (panelPower on sequencer)]
    else
      [Event.read panelSequencer sequencer,
        Event.write panelSequencer (panelPower on sequencer)] ++ Event.writes (blockWrites id on)

/-- The control register of an output that was switched. -/
def controlValue (id : Id) (on : Bool) : UInt32 :=
  match id.kind with
  | .dac => if on then dacEnabled else 0
  | .tmds | .lvds => if on then tmdsControlBase ||| tmdsEnabled else tmdsControlBase

/-- Converters are driven by converter blocks, and transmitters by transmitter blocks. -/
theorem Id.kind_block (id : Id) :
    id.kind = .dac ∧ (id.block = .dac1 ∨ id.block = .dac2) ∨
      id.kind = .tmds ∧ (id.block = .tmdsA ∨ id.block = .lvtm) ∨
        id.kind = .lvds ∧ id.block = .lvtm := by
  unfold Id.block
  cases id.kind with
  | dac => by_cases hsecond : id.number = 2 <;> simp [hsecond]
  | tmds => by_cases hsecond : id.number = 2 <;> simp [hsecond]
  | lvds => simp

/-- Switching an output gives values to registers that its block has, but for the one that selects
its source. The control register is one of them, and its value is that of the state. -/
theorem settings_spec (id : Id) (on : Bool) :
    (∀ entry ∈ settings id on, id.block.has entry.1 = true ∧ entry.1 ≠ .sourceSelect ∧
        (entry.1 = .control → entry.2 = controlValue id on)) ∧
      (.control, controlValue id on) ∈ settings id on := by
  unfold settings controlValue
  rcases id.kind_block with
    ⟨hkind, hblock | hblock⟩ | ⟨hkind, hblock | hblock⟩ | ⟨hkind, hblock⟩ <;>
    rw [hkind, hblock] <;> cases on <;> decide

theorem mem_switchWrites {id : Id} {on : Bool} {sequencer : UInt32} {entry : Direct × UInt32} :
    entry ∈ switchWrites id on sequencer ↔
      entry ∈ blockWrites id on ∨
        id.kind = .lvds ∧ entry = (panelSequencer, panelPower on sequencer) := by
  unfold switchWrites
  cases id.kind with
  | dac => simp
  | tmds => simp
  | lvds => cases on <;> simp [or_comm]

theorem controlValue_enabled (id other : Id) (on : Bool) :
    controlValue id on &&& enableBit other ≠ 0 ↔ on = true := by
  unfold controlValue enableBit
  cases id.kind <;> cases other.kind <;> cases on <;> decide

theorem panelPower_powered (on : Bool) (sequencer : UInt32) :
    panelPower on sequencer &&& panelPowered ≠ 0 ↔ on = true := by
  cases on with
  | true =>
    rw [panelPower, if_pos rfl, set_and_self]
    decide
  | false =>
    rw [panelPower, if_neg Bool.false_ne_true, UInt32.or_zero, cleared_and_self]
    decide

/-- The block of an output is written in registers that it has. -/
theorem has_of_blockWrites {id : Id} {on : Bool} {entry : Direct × UInt32}
    (hentry : entry ∈ blockWrites id on) :
    ∃ register, id.block.has register = true ∧ register ≠ .sourceSelect ∧
      entry.1 = id.register register ∧ (register = .control → entry.2 = controlValue id on) := by
  obtain ⟨setting, hsetting, rfl⟩ := List.mem_map.mp hentry
  obtain ⟨hhas, hsource, hcontrol⟩ := (settings_spec id on).1 setting hsetting
  exact ⟨setting.1, hhas, hsource, rfl, hcontrol⟩

/-- The block of an output does not reach the power sequencer. -/
theorem blockWrites_ne (id : Id) (on : Bool) :
    ∀ entry ∈ blockWrites id on, entry.1 ≠ panelSequencer := by
  intro entry hentry
  obtain ⟨register, -, -, hregister, -⟩ := has_of_blockWrites hentry
  rw [hregister]
  exact register_ne_panelSequencer id.block register

/-- An output is switched inside its own block. -/
theorem region_switchWrites (id : Id) (on : Bool) (sequencer : UInt32) :
    ∀ entry ∈ switchWrites id on sequencer, region entry.1.offset = .encoder id.block := by
  intro entry hentry
  rcases mem_switchWrites.mp hentry with hblock | ⟨hkind, rfl⟩
  · obtain ⟨register, hhas, -, hregister, -⟩ := has_of_blockWrites hblock
    rw [hregister]
    exact region_encoder hhas
  · rw [Id.block, hkind]
    rfl

/-- A control register only gets the value of the state that its output is switched to. -/
theorem control_of_switchWrites (id : Id) (on : Bool) (sequencer : UInt32) :
    ∀ entry ∈ switchWrites id on sequencer,
      entry.1 = id.register .control → entry.2 = controlValue id on := by
  intro entry hentry hcontrol
  rcases mem_switchWrites.mp hentry with hblock | ⟨-, rfl⟩
  · obtain ⟨register, -, -, hregister, hvalue⟩ := has_of_blockWrites hblock
    exact hvalue (eq_common (.inl rfl) (hregister.symm.trans hcontrol))
  · exact absurd hcontrol.symm (register_ne_panelSequencer id.block .control)

/-- The sequencer only gets the value that the panel's power asks for. -/
theorem sequencer_of_switchWrites (id : Id) (on : Bool) (sequencer : UInt32) :
    ∀ entry ∈ switchWrites id on sequencer,
      entry.1 = panelSequencer → entry.2 = panelPower on sequencer := by
  intro entry hentry hsequencer
  rcases mem_switchWrites.mp hentry with hblock | ⟨-, rfl⟩
  · exact absurd hsequencer (blockWrites_ne id on entry hblock)
  · rfl

/-- Switching an output does not route it. -/
theorem switchWrites_ne_sourceSelect (id : Id) (on : Bool) (sequencer : UInt32) :
    ∀ entry ∈ switchWrites id on sequencer, entry.1 ≠ id.register .sourceSelect := by
  intro entry hentry hselect
  rcases mem_switchWrites.mp hentry with hblock | ⟨-, rfl⟩
  · obtain ⟨register, -, hsource, hregister, -⟩ := has_of_blockWrites hblock
    exact hsource (eq_common (.inr rfl) (hregister.symm.trans hselect))
  · exact register_ne_panelSequencer id.block .sourceSelect hselect.symm

/-- The control register ends with the value of the state. -/
theorem latest_control (id : Id) (on : Bool) (sequencer : UInt32) :
    latest (switchWrites id on sequencer) (id.register .control) = some (controlValue id on) := by
  refine latest_of_forall (mem_switchWrites.mpr (.inl ?_)) (control_of_switchWrites id on sequencer)
  exact List.mem_map.mpr ⟨_, (settings_spec id on).2, rfl⟩

variable {σ : Type}

theorem switch_eq_writeAll {id : Id} (hkind : id.kind ≠ .lvds) (on : Bool) :
    switch id on = Hardware.writeAll (blockWrites id on) := by
  rw [switch, blockWrites, settings]
  cases hcase : id.kind with
  | dac => cases on <;> rfl
  | tmds => rfl
  | lvds => exact absurd hcase hkind

theorem switch_on {id : Id} (hkind : id.kind = .lvds) :
    switch id true = (Hardware.writeAll (blockWrites id true)).bind fun _ ↦
      Hardware.update panelSequencer 0 panelPowered := by
  rw [switch, blockWrites, settings, hkind]
  rfl

theorem switch_off {id : Id} (hkind : id.kind = .lvds) :
    switch id false = (Hardware.update panelSequencer panelPowered 0).bind fun _ ↦
      Hardware.writeAll (blockWrites id false) := by
  rw [switch, blockWrites, settings, hkind]
  rfl

/-- Switching an output writes registers of its block, and the power sequencer if it is the panel
link. -/
theorem switch_within {kind : Direct → Prop} {id : Id}
    (hblock : ∀ register, id.block.has register = true → kind (id.register register))
    (hpanel : id.kind = .lvds → kind panelSequencer) (on : Bool) :
    (switch id on).IsWithin kind := by
  have hwrites : (Hardware.writeAll (blockWrites id on)).IsWithin kind := by
    refine Hardware.writeAll_within fun entry hentry ↦ ?_
    obtain ⟨register, hhas, -, hregister, -⟩ := has_of_blockWrites hentry
    rw [hregister]
    exact hblock register hhas
  by_cases hkind : id.kind = .lvds
  · cases on with
    | true =>
      rw [switch_on hkind]
      exact .bind hwrites fun _ ↦ Hardware.update_within (hpanel hkind) _ _
    | false =>
      rw [switch_off hkind]
      exact .bind (Hardware.update_within (hpanel hkind) _ _) fun _ ↦ hwrites
  · rw [switch_eq_writeAll hkind]
    exact hwrites

theorem switchWrites_of_ne {id : Id} (hkind : id.kind ≠ .lvds) (on : Bool) (sequencer : UInt32) :
    switchWrites id on sequencer = blockWrites id on ∧
      switchEvents id on sequencer = Event.writes (blockWrites id on) := by
  unfold switchWrites switchEvents
  cases hcase : id.kind with
  | dac => exact ⟨rfl, rfl⟩
  | tmds => exact ⟨rfl, rfl⟩
  | lvds => exact absurd hcase hkind

theorem run_update_panelSequencer (clear set : UInt32) (file : RegisterFile) :
    (Hardware.update panelSequencer clear set).run RegisterFile.port file =
      ((), file.store [(panelSequencer, file.modified panelSequencer clear set)]) :=
  file.run_update clear set rfl

theorem run_switch (id : Id) (on : Bool) (file : RegisterFile) :
    (switch id on).run RegisterFile.port file =
      ((), file.store (switchWrites id on (file.value panelSequencer))) := by
  by_cases hkind : id.kind = .lvds
  · cases on with
    | true =>
      have hkept := file.value_store_of_ne (blockWrites_ne id true)
      simp only [switch_on hkind, switchWrites, hkind, Program.run_bind,
        RegisterFile.run_writeAll, run_update_panelSequencer, RegisterFile.modified, hkept,
        if_true, RegisterFile.store_append]
      rfl
    | false =>
      simp only [switch_off hkind, switchWrites, hkind, Program.run_bind,
        RegisterFile.run_writeAll, run_update_panelSequencer]
      rfl
  · rw [switch_eq_writeAll hkind, (switchWrites_of_ne hkind on _).1, file.run_writeAll]

theorem trace_switch (id : Id) (on : Bool) (handler : Handler Access.signature σ) (state : σ) :
    ∃ sequencer, (switch id on).trace handler state = switchEvents id on sequencer := by
  by_cases hkind : id.kind = .lvds
  · cases on with
    | true =>
      simp only [switch_on hkind, switchEvents, hkind, Program.trace_bind,
        Hardware.trace_writeAll]
      exact ⟨_, rfl⟩
    | false =>
      simp only [switch_off hkind, switchEvents, hkind, Program.trace_bind,
        Hardware.trace_writeAll]
      exact ⟨_, rfl⟩
  · refine ⟨0, ?_⟩
    rw [switch_eq_writeAll hkind, Hardware.trace_writeAll, (switchWrites_of_ne hkind on 0).2]

end Output

end Scanout
