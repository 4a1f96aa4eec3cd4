import Scanout.Proofs.Display.Outputs
import Scanout.Proofs.Program.Guarded

/-!
The order in which outputs are switched. `OnWrite` is the shape of every rule here: where a
register is written in a way that matters, the events before satisfy a condition.

What is said of going dark and of being lit holds for every answer of the power sequencer, and for
every list of outputs, by what happens to each of them.
-/

set_option autoImplicit false
set_option relaxedAutoImplicit false

namespace Scanout

open Register

/-- Where a register is written in a way that matters, the events before satisfy a condition. -/
def OnWrite (matters : Direct → UInt32 → Prop) (condition : List Event → Prop)
    (before : List Event) (event : Event) : Prop :=
  ∀ register value, event.written = some (register, value) → matters register value →
    condition before

namespace Guarded

variable {matters : Direct → UInt32 → Prop} {condition : List Event → Prop}
  {early events : List Event} {shift : List Event → List Event}

/-- Where nothing is written that matters, nothing has to hold. -/
theorem free (hfree : OnlyWrites (fun register value ↦ ¬matters register value) events) :
    Guarded (fun before event ↦ OnWrite matters condition (shift before) event) events :=
  .of_forall fun event hevent _ register value hwritten hmatters ↦
    absurd hmatters (hfree event hevent register value hwritten)

/-- Once the condition holds for good, anything may be written. -/
theorem reached (hreached : ∀ before, condition (early ++ before)) :
    Guarded (fun before event ↦ OnWrite matters condition (early ++ before) event) events :=
  .of_forall fun _ _ before _ _ _ _ ↦ hreached before

/-- What holds of the later events alone may hold after the earlier ones. -/
theorem later (hmono : ∀ before, condition before → condition (early ++ before))
    (hevents : Guarded (OnWrite matters condition) events) :
    Guarded (fun before event ↦ OnWrite matters condition (early ++ before) event) events :=
  fun before event after heq register value hwritten hmatters ↦
    hmono before (hevents before event after heq register value hwritten hmatters)

end Guarded

/-- An output's encoder is enabled, or the panel is put under power. -/
def Output.Id.Lights (id : Output.Id) (register : Direct) (value : UInt32) : Prop :=
  register = id.register .control ∧ value &&& Output.enableBit id ≠ 0 ∨
    id.kind = .lvds ∧ register = panelSequencer ∧ value &&& panelPowered ≠ 0

namespace Output

variable {σ : Type} (handler : Handler Access.signature σ)

theorem onlyWrites_switchEvents (id : Id) (on : Bool) (sequencer : UInt32) :
    OnlyWrites (fun register value ↦ (register, value) ∈ switchWrites id on sequencer)
      (switchEvents id on sequencer) := by
  have hmem : ∀ writes : List (Direct × UInt32),
      OnlyWrites (fun register value ↦ (register, value) ∈ writes) (Event.writes writes) :=
    fun writes ↦ .writes fun _ hentry ↦ hentry
  rw [switchEvents, switchWrites]
  cases id.kind with
  | dac => exact hmem (blockWrites id on)
  | tmds => exact hmem (blockWrites id on)
  | lvds =>
    have hpower : OnlyWrites
        (fun register value ↦ (register, value) = (panelSequencer, panelPower on sequencer))
        [Event.read panelSequencer sequencer,
          Event.write panelSequencer (panelPower on sequencer)] := by
      intro event hevent register value hwritten
      simp only [List.mem_cons, List.not_mem_nil, or_false] at hevent
      rcases hevent with rfl | rfl
      · cases hwritten
      · exact (Option.some.inj hwritten).symm
    cases on with
    | true =>
      refine .append ((hmem _).mono fun register value hentry ↦ ?_)
        (hpower.mono fun register value hentry ↦ ?_)
      · exact List.mem_append_left _ hentry
      · exact List.mem_append_right _ (List.mem_singleton.mpr hentry)
    | false =>
      refine .append (hpower.mono fun register value hentry ↦ ?_)
        ((hmem _).mono fun register value hentry ↦ ?_)
      · exact hentry ▸ List.mem_cons_self
      · exact List.mem_cons_of_mem _ hentry

/-- Lighting an output happens in its own block. -/
theorem Id.Lights.region {id : Id} {register : Direct} {value : UInt32}
    (hlights : id.Lights register value) : region register.offset = .encoder id.block := by
  rcases hlights with ⟨rfl, -⟩ | ⟨hkind, rfl, -⟩
  · exact region_control id.block
  · rw [Id.block, hkind]
    rfl

/-- Routing an output lights none. -/
theorem not_lights_sourceSelect (id other : Id) (value : UInt32) :
    ¬other.Lights (id.register .sourceSelect) value := by
  rintro (⟨hregister, -⟩ | ⟨-, hregister, -⟩)
  · have hregion := congrArg (fun register ↦ region register.offset) hregister
    simp only [Id.register, region_control, region_sourceSelect, Region.encoder.injEq] at hregion
    rw [Id.register, Id.register, hregion] at hregister
    cases hblock : other.block <;> rw [hblock] at hregister <;> revert hregister <;> decide
  · revert hregister
    unfold Id.register
    cases id.block <;> decide

theorem not_lights_off {id : Id} {sequencer : UInt32} {entry : Direct × UInt32}
    (hentry : entry ∈ switchWrites id false sequencer) (other : Id) :
    ¬other.Lights entry.1 entry.2 := by
  intro hlights
  have hblock : id.block = other.block := by
    have hregion := region_switchWrites id false sequencer entry hentry
    rw [hlights.region] at hregion
    exact (Region.encoder.inj hregion).symm
  rcases hlights with ⟨hregister, hvalue⟩ | ⟨-, hregister, hvalue⟩
  · have hcontrol : entry.1 = id.register .control := by
      rw [hregister, Id.register, Id.register, hblock]
    rw [control_of_switchWrites id false sequencer entry hentry hcontrol] at hvalue
    exact absurd ((controlValue_enabled id other false).mp hvalue) Bool.false_ne_true
  · rw [sequencer_of_switchWrites id false sequencer entry hentry hregister] at hvalue
    exact absurd ((panelPower_powered false sequencer).mp hvalue) Bool.false_ne_true

section Each

variable {one : Id → Hardware Unit} {all : List Id → Hardware Unit}

theorem Each.trace_cons (heach : Each one all) (id : Id) (rest : List Id) (state : σ) :
    (all (id :: rest)).trace handler state = (one id).trace handler state ++
      (all rest).trace handler ((one id).run handler state).2 := by
  rw [heach.cons, Program.trace_bind]

/-- Nothing happens but what is done to one of the outputs. -/
theorem Each.mem_trace (heach : Each one all) {ids : List Id} {state : σ} {event : Event}
    (hevent : event ∈ (all ids).trace handler state) :
    ∃ id ∈ ids, ∃ middle, event ∈ (one id).trace handler middle := by
  induction ids generalizing state with
  | nil =>
    rw [heach.nil] at hevent
    cases hevent
  | cons id rest ih =>
    rw [heach.trace_cons, List.mem_append] at hevent
    obtain hfirst | hlater := hevent
    · exact ⟨id, List.mem_cons_self, state, hfirst⟩
    · obtain ⟨other, hother, hfrom⟩ := ih hlater
      exact ⟨other, List.mem_cons_of_mem _ hother, hfrom⟩

/-- What is done to each of the outputs happens in one piece. -/
theorem Each.trace_isInfix (heach : Each one all) {ids : List Id} (state : σ) :
    ∀ id ∈ ids, ∃ middle, (one id).trace handler middle <:+: (all ids).trace handler state := by
  induction ids generalizing state with
  | nil => simp
  | cons id rest ih =>
    rw [heach.trace_cons, List.forall_mem_cons]
    refine ⟨⟨state, (List.prefix_append _ _).isInfix⟩, fun other hother ↦ ?_⟩
    obtain ⟨middle, hlater⟩ := ih ((one id).run handler state).2 other hother
    exact ⟨middle, hlater.trans (List.suffix_append _ _).isInfix⟩

end Each

theorem trace_darken (id : Id) (state : σ) :
    ∃ sequencer, (darken id).trace handler state =
      Event.note (powerNote id .off) :: switchEvents id false sequencer := by
  obtain ⟨sequencer, hswitch⟩ := trace_switch id false handler
    (handler.answer (.note (powerNote id .off)) state).2
  rw [darken, Program.trace_ask, hswitch]
  exact ⟨sequencer, rfl⟩

theorem trace_light (pipe : Pipe) (id : Id) (state : σ) :
    ∃ sequencer, (light pipe id).trace handler state =
      Event.write (id.register .sourceSelect) pipe.index.toUInt32 ::
        Event.note (powerNote id .on) :: switchEvents id true sequencer := by
  obtain ⟨sequencer, hswitch⟩ := trace_switch id true handler
    (handler.answer (.note (powerNote id .on))
      ((Hardware.writeAll [routeWrite id pipe]).run handler state).2).2
  rw [light, Program.trace_bind, Hardware.trace_writeAll, Program.trace_ask, hswitch]
  exact ⟨sequencer, rfl⟩

/-- Going dark, nothing happens but the notes of the outputs and their sequences. -/
theorem mem_darkenAll {ids : List Id} {state : σ} {event : Event}
    (hevent : event ∈ (darkenAll ids).trace handler state) :
    ∃ id ∈ ids, event = Event.note (powerNote id .off) ∨
      ∃ sequencer, event ∈ switchEvents id false sequencer := by
  obtain ⟨id, hid, middle, hmem⟩ := each_darkenAll.mem_trace handler hevent
  obtain ⟨sequencer, htrace⟩ := trace_darken handler id middle
  rw [htrace, List.mem_cons] at hmem
  exact ⟨id, hid, hmem.imp_right fun hswitch ↦ ⟨sequencer, hswitch⟩⟩

/-- Nothing happens while outputs are lit but their routing, their notes and their sequences. -/
theorem mem_lightAll {pipe : Pipe} {ids : List Id} {state : σ} {event : Event}
    (hevent : event ∈ (lightAll pipe ids).trace handler state) :
    ∃ id ∈ ids, event = Event.write (id.register .sourceSelect) pipe.index.toUInt32 ∨
      event = Event.note (powerNote id .on) ∨
        ∃ sequencer, event ∈ switchEvents id true sequencer := by
  obtain ⟨id, hid, middle, hmem⟩ := (each_lightAll pipe).mem_trace handler hevent
  obtain ⟨sequencer, htrace⟩ := trace_light handler pipe id middle
  rw [htrace, List.mem_cons, List.mem_cons] at hmem
  exact ⟨id, hid, hmem.imp_right (Or.imp_right fun hswitch ↦ ⟨sequencer, hswitch⟩)⟩

/-- Going dark stays in the encoders and lights nothing. -/
theorem onlyWrites_darkenAll (ids : List Id) (state : σ) :
    OnlyWrites (fun register value ↦ (∃ block, region register.offset = .encoder block) ∧
      ∀ id : Id, ¬id.Lights register value) ((darkenAll ids).trace handler state) := by
  intro event hevent register value hwritten
  obtain ⟨id, -, rfl | ⟨sequencer, hswitch⟩⟩ := mem_darkenAll handler hevent
  · cases hwritten
  · have hentry := onlyWrites_switchEvents id false sequencer event hswitch register value hwritten
    exact ⟨⟨id.block, region_switchWrites id false sequencer _ hentry⟩, not_lights_off hentry⟩

/-- Each output goes through its whole sequence. -/
theorem dark_of_darkenAll {ids : List Id} (state : σ) :
    ∀ id ∈ ids, ∃ sequencer,
      switchEvents id false sequencer <:+: (darkenAll ids).trace handler state := by
  intro id hid
  obtain ⟨middle, hwhole⟩ := each_darkenAll.trace_isInfix handler state id hid
  obtain ⟨sequencer, htrace⟩ := trace_darken handler id middle
  rw [htrace] at hwhole
  exact ⟨sequencer, (List.suffix_cons _ _).isInfix.trans hwhole⟩

/-- Lighting stays in the encoders. -/
theorem onlyWrites_lightAll (pipe : Pipe) (ids : List Id) (state : σ) :
    OnlyWrites (fun register _ ↦ ∃ block, region register.offset = .encoder block)
      ((lightAll pipe ids).trace handler state) := by
  intro event hevent register value hwritten
  obtain ⟨id, -, rfl | rfl | ⟨sequencer, hswitch⟩⟩ := mem_lightAll handler hevent
  · cases hwritten
    exact ⟨id.block, region_sourceSelect id.block⟩
  · cases hwritten
  · have hentry := onlyWrites_switchEvents id true sequencer event hswitch register value hwritten
    exact ⟨id.block, region_switchWrites id true sequencer _ hentry⟩

/-- Each output is routed before it is lit. -/
theorem routed_of_lightAll (pipe : Pipe) (ids : List Id) (id : Id) (state : σ) :
    Guarded (OnWrite id.Lights fun before ↦
      Event.write (id.register .sourceSelect) pipe.index.toUInt32 ∈ before)
        ((lightAll pipe ids).trace handler state) := by
  induction ids generalizing state with
  | nil => exact .nil
  | cons other rest ih =>
    obtain ⟨sequencer, htrace⟩ := trace_light handler pipe other state
    have hmono : ∀ early before : List Event,
        Event.write (id.register .sourceSelect) pipe.index.toUInt32 ∈ before →
          Event.write (id.register .sourceSelect) pipe.index.toUInt32 ∈ early ++ before :=
      fun early _ ↦ List.mem_append_right early
    rw [(each_lightAll pipe).trace_cons, htrace]
    show Guarded _ ([Event.write (other.register .sourceSelect) pipe.index.toUInt32] ++
      ([Event.note (powerNote other .on)] ++ (switchEvents other true sequencer ++ _)))
    refine .append (.free (.write (not_lights_sourceSelect other id _))) ?_
    · by_cases hblock : other.block = id.block
      · -- This output's own block, or the same one: it has just been routed.
        refine .reached fun before ↦ List.mem_append_left _ ?_
        rw [List.mem_singleton, Id.register, Id.register, hblock]
      · refine .later (hmono _) (.append (.free (.of_silent (by simp))) ?_)
        refine .later (hmono _) (.append (.free ?_) (.later (hmono _) (ih _)))
        refine (onlyWrites_switchEvents other true sequencer).mono fun register value hentry ↦ ?_
        intro hlights
        have hregion := region_switchWrites other true sequencer _ hentry
        rw [hlights.region] at hregion
        exact hblock (Region.encoder.inj hregion).symm

end Output

end Scanout
