import Scanout.Proofs.Order.Outputs
import Scanout.Proofs.Pipe.ModeSet

/-!
In which order a mode set does things. `Ordered` collects the rules; each is about writes of one
kind and about the events before them, so a trace that is cut off obeys them as well.

`ModeTrace` is the trace of a mode set in its parts: the outputs go dark, the pipe is stopped, the
picture and the clock are programmed, then the scaler and the raster, the pipe is started, and the
outputs are lit. A mode set that gets stuck shows a beginning of such a trace, so each rule is
checked once, on `ModeTrace.events`.
-/

set_option autoImplicit false
set_option relaxedAutoImplicit false

namespace Scanout

open Register

namespace Pipe

/-- The value that holds a PLL in reset and asleep. -/
def pllHeld : UInt32 :=
  pllRunning ||| pllReset ||| pllSleep

/-- The registers that a mode set gives new values while the pipe is stopped: those of pipes and
their clocks, but for the two that start and stop this one. -/
def Reprograms (pipe : Pipe) (register : Direct) (_ : UInt32) : Prop :=
  ((∃ owner, region register.offset = .pipe owner ∨ region register.offset = .pll owner) ∨
      region register.offset = .clock ∨ region register.offset = .legacy) ∧
    register ≠ pipe.register .scanEnable ∧ register ≠ pipe.register .control

/-- The sources, the dividers and the oscillator of a PLL. -/
def Divides (pipe : Pipe) (register : Direct) (_ : UInt32) : Prop :=
  (∃ owner, region register.offset = .pll owner) ∧ register ≠ pipe.pll .control ∧
    register ≠ pipe.pll .updateLock

/-- A pipe is made to fetch a picture. -/
def Scans (register : Direct) (value : UInt32) : Prop :=
  (∃ owner : Pipe, register = owner.register .scanEnable) ∧ value ≠ 0

end Pipe

/-- The registers that a mode set on this pipe does give new values while the pipe is stopped. -/
def Pipe.Programs (pipe : Pipe) (register : Direct) : Prop :=
  (region register.offset = .pipe pipe ∨ region register.offset = .pll pipe ∨
      region register.offset = .clock ∨ region register.offset = .legacy) ∧
    register ≠ pipe.register .scanEnable ∧ register ≠ pipe.register .control

/-- The order that a mode set keeps. -/
structure Ordered (pipe : Pipe) (outputs : List Output.Id) (events : List Event) : Prop where
  /-- Every output has gone dark before a pipe or a PLL is touched. -/
  dark : ∀ id ∈ outputs, Guarded
    (OnWrite (fun register _ ↦ ∃ owner, region register.offset = .pipe owner ∨
        region register.offset = .pll owner)
      fun before ↦ ∃ sequencer, Output.switchEvents id false sequencer <:+: before) events
  /-- The pipe has been stopped, and the engine then seen idle, before anything is reprogrammed. -/
  stopped : Guarded
    (OnWrite pipe.Reprograms fun before ↦
      [Event.write (pipe.register .scanEnable) 0, Event.write (pipe.register .control) 0,
        Event.idle].Sublist before) events
  /-- The last thing done to the control of the PLL before its dividers change is to hold it. -/
  held : Guarded
    (OnWrite pipe.Divides fun before ↦ ∃ early since,
      before = early ++ Event.write (pipe.pll .control) Pipe.pllHeld :: since ∧
        ∀ value, Event.write (pipe.pll .control) value ∉ since) events
  /-- The PLL has been released, and the engine then seen idle, before a pipe scans. -/
  clocked : Guarded
    (OnWrite Pipe.Scans fun before ↦
      [Event.write (pipe.pll .control) pllRunning, Event.idle].Sublist before) events
  /-- The whole raster has been written before a pipe scans. -/
  timed : Guarded
    (OnWrite Pipe.Scans fun before ↦ ∀ register ∈ Pipe.rasterRegisters, ∃ value,
      Event.write (pipe.register register) value ∈ before) events
  /-- Nothing is reprogrammed once the pipe scans. -/
  steady : Guarded
    (OnWrite pipe.Reprograms fun before ↦
      ∀ value, value ≠ 0 → Event.write (pipe.register .scanEnable) value ∉ before) events
  /-- The pipe has been started, and the engine then seen idle, before any output is lit. -/
  running : ∀ id : Output.Id, Guarded
    (OnWrite id.Lights fun before ↦
      [Event.write (pipe.register .control) pipeEnabled, Event.idle].Sublist before) events
  /-- An output has been routed to the pipe before it is lit. -/
  routed : ∀ id : Output.Id, Guarded
    (OnWrite id.Lights fun before ↦
      Event.write (id.register .sourceSelect) pipe.index.toUInt32 ∈ before) events

/-- The parts of the trace of a mode set that does not get stuck. -/
structure ModeTrace (pipe : Pipe) (outputs : List Output.Id) where
  plan : Pipe.Plan
  stop : UInt32
  /-- The notes at the start and the outputs going dark. -/
  opening : List Event
  /-- The polls of the wait after the pipe was stopped. -/
  stopPolls : List Event
  /-- The polls of the wait for the clock. -/
  clockPolls : List Event
  /-- The polls of the wait after the pipe was started. -/
  startPolls : List Event
  /-- The outputs being lit and the notes at the end. -/
  closing : List Event
  opening_dark : ∀ id ∈ outputs, ∃ sequencer,
    Output.switchEvents id false sequencer <:+: opening
  opening_only : OnlyWrites (fun register value ↦
    (∃ block, region register.offset = .encoder block) ∧
      ∀ id : Output.Id, ¬id.Lights register value) opening
  stopPolls_silent : ∀ event ∈ stopPolls, event.written = none
  clockPolls_silent : ∀ event ∈ clockPolls, event.written = none
  startPolls_silent : ∀ event ∈ startPolls, event.written = none
  closing_only : OnlyWrites (fun register _ ↦
    ∃ block, region register.offset = .encoder block) closing
  closing_routed : ∀ id : Output.Id, Guarded (OnWrite id.Lights fun before ↦
    Event.write (id.register .sourceSelect) pipe.index.toUInt32 ∈ before) closing

namespace ModeTrace

variable {pipe : Pipe} {outputs : List Output.Id} (parts : ModeTrace pipe outputs)

/-- The pipe is stopped. -/
def stopping : List Event :=
  Event.writes pipe.stopWrites ++ (parts.stopPolls ++ [Event.idle])

/-- The picture and the clock are programmed. -/
def clocking : List Event :=
  Event.writes (pipe.surfaceWrites parts.plan parts.stop) ++
    (Event.writes (pipe.pllWrites parts.plan.pll) ++ (parts.clockPolls ++ [Event.idle]))

/-- The scaler and the raster are programmed. -/
def drawing : List Event :=
  Event.writes (pipe.scalerWrites parts.plan ++ pipe.timingWrites parts.plan)

/-- The pipe is started. -/
def starting : List Event :=
  Event.writes pipe.startWrites ++ (parts.startPolls ++ [Event.idle])

/-- The whole trace. -/
def events : List Event :=
  parts.opening ++ (parts.stopping ++ (parts.clocking ++ (parts.drawing ++
    (parts.starting ++ parts.closing))))

theorem silent_polls {polls : List Event} (hsilent : ∀ event ∈ polls, event.written = none)
    {kind : Direct → UInt32 → Prop} : OnlyWrites kind (polls ++ [Event.idle]) := by
  refine .append (.of_silent hsilent) (.of_silent ?_)
  rw [List.forall_mem_singleton]
  rfl

theorem stopping_only : OnlyWrites (fun register value ↦ (register, value) ∈ pipe.stopWrites)
    parts.stopping :=
  .append (.writes fun _ hentry ↦ hentry) (silent_polls parts.stopPolls_silent)

theorem clocking_only :
    OnlyWrites (fun register _ ↦ pipe.Programs register) parts.clocking := by
  refine .append (.writes fun entry hentry ↦ ?_)
    (.append (.writes fun entry hentry ↦ ?_) (silent_polls parts.clockPolls_silent))
  · obtain ⟨hregion, hne⟩ := pipe.region_surfaceWrites parts.plan parts.stop entry hentry
    exact ⟨hregion.elim (fun hlegacy ↦ .inr (.inr (.inr hlegacy))) .inl, hne⟩
  · have hregion := pipe.region_pllWrites parts.plan.pll entry hentry
    refine ⟨hregion.elim (fun hpll ↦ .inr (.inl hpll)) fun hclock ↦ .inr (.inr (.inl hclock)), ?_⟩
    constructor <;>
      · refine ne_of_region ?_
        rw [region_pipe]
        rcases hregion with hregion | hregion <;> rw [hregion] <;> exact Region.noConfusion

theorem drawing_only : OnlyWrites (fun register _ ↦
    region register.offset = .pipe pipe ∧ pipe.Programs register) parts.drawing := by
  refine .writes fun entry hentry ↦ ?_
  have hregion : region entry.1.offset = .pipe pipe ∧
      entry.1 ≠ pipe.register .scanEnable ∧ entry.1 ≠ pipe.register .control :=
    (List.mem_append.mp hentry).elim (pipe.region_scalerWrites parts.plan entry)
      (pipe.region_timingWrites parts.plan entry)
  exact ⟨hregion.1, .inl hregion.1, hregion.2⟩

theorem starting_only : OnlyWrites (fun register value ↦ (register, value) ∈ pipe.startWrites)
    parts.starting :=
  .append (.writes fun _ hentry ↦ hentry) (silent_polls parts.startPolls_silent)

/-!
What the parts do not write.
-/

theorem stopWrites_iff {register : Direct} {value : UInt32} :
    (register, value) ∈ pipe.stopWrites ↔
      (register = pipe.register .scanEnable ∨ register = pipe.register .control) ∧ value = 0 := by
  simp only [Pipe.stopWrites, List.mem_cons, Prod.mk.injEq, List.not_mem_nil, or_false]
  rw [or_and_right]

theorem startWrites_iff {register : Direct} {value : UInt32} :
    (register, value) ∈ pipe.startWrites ↔
      (register = pipe.register .scanEnable ∨ register = pipe.register .control) ∧ value = 1 := by
  simp only [Pipe.startWrites, List.mem_cons, Prod.mk.injEq, List.not_mem_nil, or_false]
  rw [or_and_right]
  rfl

/-- The two registers that start and stop a pipe are its own. -/
theorem region_of_switching {register : Direct}
    (hregister : register = pipe.register .scanEnable ∨ register = pipe.register .control) :
    region register.offset = .pipe pipe := by
  rcases hregister with rfl | rfl <;> exact region_pipe pipe _

theorem not_reprograms_of_switching {register : Direct} {value : UInt32}
    (hregister : register = pipe.register .scanEnable ∨ register = pipe.register .control) :
    ¬pipe.Reprograms register value :=
  fun ⟨_, hscan, hcontrol⟩ ↦ hregister.elim hscan hcontrol

theorem not_lights {id : Output.Id} {register : Direct} {value : UInt32}
    (hregion : ∀ block, region register.offset ≠ .encoder block) : ¬id.Lights register value :=
  fun hlights ↦ hregion _ hlights.region

theorem not_lights_of_programs {id : Output.Id} {register : Direct} {value : UInt32}
    (hprograms : pipe.Programs register) : ¬id.Lights register value := by
  refine not_lights fun block hblock ↦ ?_
  have hregion := hprograms.1
  rw [hblock] at hregion
  simp at hregion

theorem not_scans_of_programs {register : Direct} {value : UInt32}
    (hprograms : pipe.Programs register) : ¬Pipe.Scans register value := by
  rintro ⟨⟨owner, rfl⟩, -⟩
  obtain ⟨hregion, hscan, -⟩ := hprograms
  rw [region_pipe] at hregion
  rcases hregion with hpipe | hother | hother | hother
  · rw [Region.pipe.inj hpipe] at hscan
    exact hscan rfl
  all_goals cases hother

theorem not_scans_of_encoder {register : Direct} {value : UInt32}
    (hencoder : ∃ block, region register.offset = .encoder block) :
    ¬Pipe.Scans register value := by
  rintro ⟨⟨owner, rfl⟩, -⟩
  obtain ⟨block, hblock⟩ := hencoder
  rw [region_pipe] at hblock
  cases hblock

theorem not_reprograms_of_encoder {register : Direct} {value : UInt32}
    (hencoder : ∃ block, region register.offset = .encoder block) :
    ¬pipe.Reprograms register value := by
  rintro ⟨hregion, -⟩
  obtain ⟨block, hblock⟩ := hencoder
  rw [hblock] at hregion
  simp at hregion

theorem not_divides_of_region {register : Direct} {value : UInt32}
    (hregion : ∀ owner, region register.offset ≠ .pll owner) : ¬pipe.Divides register value :=
  fun ⟨⟨owner, howner⟩, _⟩ ↦ hregion owner howner

/-!
The rules, one by one. Each picks the point of the trace from which its condition holds.
-/

theorem dark (id : Output.Id) (hid : id ∈ outputs) :
    Guarded (OnWrite (fun register _ ↦ ∃ owner, region register.offset = .pipe owner ∨
        region register.offset = .pll owner)
      fun before ↦ ∃ sequencer, Output.switchEvents id false sequencer <:+: before)
      parts.events := by
  refine .append (.free (parts.opening_only.mono ?_)) (.reached fun before ↦ ?_)
  · rintro register _ ⟨⟨block, hblock⟩, -⟩
    simp [hblock]
  · obtain ⟨sequencer, hsequence⟩ := parts.opening_dark id hid
    exact ⟨sequencer, hsequence.trans (List.prefix_append _ _).isInfix⟩

theorem stopped :
    Guarded (OnWrite pipe.Reprograms fun before ↦
      [Event.write (pipe.register .scanEnable) 0, Event.write (pipe.register .control) 0,
        Event.idle].Sublist before) parts.events := by
  have hstopped : [Event.write (pipe.register .scanEnable) 0,
      Event.write (pipe.register .control) 0, Event.idle].Sublist parts.stopping :=
    (List.Sublist.refl (Event.writes pipe.stopWrites)).append (List.sublist_append_right _ _)
  rw [events, ← List.append_assoc]
  refine .append (.free (.append (parts.opening_only.mono ?_) (parts.stopping_only.mono ?_)))
    (.reached fun before ↦ ?_)
  · exact fun register value hopening ↦ not_reprograms_of_encoder hopening.1
  · exact fun register value hstop ↦ not_reprograms_of_switching (stopWrites_iff.mp hstop).1
  · exact (hstopped.trans (List.sublist_append_right _ _)).trans (List.sublist_append_left _ _)

/-- The dividers change right after the PLL was held, with no write to its control between. -/
theorem held_dividers (early : List Event) (solution : Pll.Solution) :
    Guarded (fun before event ↦ OnWrite pipe.Divides (fun before ↦ ∃ early since,
      before = early ++ Event.write (pipe.pll .control) Pipe.pllHeld :: since ∧
        ∀ value, Event.write (pipe.pll .control) value ∉ since) (early ++ before) event)
      (Event.write (pipe.pll .control) Pipe.pllHeld ::
        Event.writes (pipe.dividerWrites solution)) := by
  have hcontrol : ∀ value, Event.write (pipe.pll .control) value ∉
      Event.writes (pipe.dividerWrites solution) := by
    intro value hmem
    obtain ⟨entry, hentry, heq⟩ := List.mem_map.mp hmem
    have hregister := (Event.write_inj.mp heq).1
    exact pipe.dividerWrites_ne solution entry hentry hregister
  intro before event after heq register value hwritten hdivides
  cases before with
  | nil =>
    obtain ⟨rfl, -⟩ := List.cons.inj heq
    cases hwritten
    exact absurd rfl hdivides.2.1
  | cons first since =>
    obtain ⟨rfl, hsince⟩ := List.cons.inj heq
    refine ⟨early, since, rfl, fun value hmem ↦ hcontrol value ?_⟩
    rw [hsince]
    exact List.mem_append_left _ hmem

theorem held :
    Guarded (OnWrite pipe.Divides fun before ↦ ∃ early since,
      before = early ++ Event.write (pipe.pll .control) Pipe.pllHeld :: since ∧
        ∀ value, Event.write (pipe.pll .control) value ∉ since) parts.events := by
  have hparts : parts.events =
      (parts.opening ++ (parts.stopping ++
        Event.writes (pipe.surfaceWrites parts.plan parts.stop))) ++
      ((Event.write (pipe.pll .control) Pipe.pllHeld ::
        Event.writes (pipe.dividerWrites parts.plan.pll)) ++
      (Event.writes [(pipe.pll .control, pllRunning), (pipe.pll .updateLock, 0),
        (clockSource, Pipe.ownClocks)] ++ ((parts.clockPolls ++ [Event.idle]) ++
        (parts.drawing ++ (parts.starting ++ parts.closing))))) := by
    simp only [events, clocking, Pipe.pllWrites, Event.writes, List.map_append, List.map_cons,
      List.append_assoc, List.cons_append]
    rfl
  have hpipe : ∀ {register : Direct} {value : UInt32}, region register.offset = .pipe pipe →
      ¬pipe.Divides register value := fun hregion ↦
    not_divides_of_region fun _ ↦ by rw [hregion]; exact Region.noConfusion
  have hencoder : ∀ {register : Direct} {value : UInt32},
      (∃ block, region register.offset = .encoder block) → ¬pipe.Divides register value := by
    rintro register value ⟨block, hblock⟩
    exact not_divides_of_region fun _ ↦ by rw [hblock]; exact Region.noConfusion
  rw [hparts]
  refine .append (.free (.append ?_ (.append ?_ ?_))) (.append (held_dividers _ _) (.free
    (.append ?_ (.append (silent_polls parts.clockPolls_silent) (.append ?_ (.append ?_ ?_))))))
  · exact parts.opening_only.mono fun _ _ hopening ↦ hencoder hopening.1
  · exact parts.stopping_only.mono fun _ _ hstop ↦
      hpipe (region_of_switching (stopWrites_iff.mp hstop).1)
  · refine .writes fun entry hentry ↦ ?_
    rcases (pipe.region_surfaceWrites _ _ entry hentry).1 with hlegacy | hregion
    · exact not_divides_of_region fun _ ↦ by rw [hlegacy]; exact Region.noConfusion
    · exact hpipe hregion
  · -- The release and the lock, which every PLL write list ends with.
    refine .writes ?_
    simp only [List.forall_mem_cons, List.not_mem_nil, false_implies, implies_true, and_true]
    refine ⟨fun hdivides ↦ hdivides.2.1 rfl, fun hdivides ↦ hdivides.2.2 rfl, ?_⟩
    exact not_divides_of_region fun _ ↦ by rw [region_clockSource]; exact Region.noConfusion
  · exact parts.drawing_only.mono fun _ _ hdrawing ↦ hpipe hdrawing.1
  · exact parts.starting_only.mono fun _ _ hstart ↦
      hpipe (region_of_switching (startWrites_iff.mp hstart).1)
  · exact parts.closing_only.mono fun _ _ hclosing ↦ hencoder hclosing

/-- Everything before the pipe is started. -/
def prepared : List Event :=
  parts.opening ++ (parts.stopping ++ (parts.clocking ++ parts.drawing))

theorem events_eq_prepared :
    parts.events = parts.prepared ++ (parts.starting ++ parts.closing) := by
  simp only [events, prepared, List.append_assoc]

theorem prepared_only :
    OnlyWrites (fun register value ↦ ¬Pipe.Scans register value) parts.prepared := by
  refine .append (parts.opening_only.mono ?_) (.append (parts.stopping_only.mono ?_)
    (.append (parts.clocking_only.mono ?_) (parts.drawing_only.mono ?_)))
  · exact fun _ _ hopening ↦ not_scans_of_encoder hopening.1
  · exact fun _ _ hstop hscans ↦ hscans.2 (stopWrites_iff.mp hstop).2
  · exact fun _ _ hclocking ↦ not_scans_of_programs hclocking
  · exact fun _ _ hdrawing ↦ not_scans_of_programs hdrawing.2

theorem clocked :
    Guarded (OnWrite Pipe.Scans fun before ↦
      [Event.write (pipe.pll .control) pllRunning, Event.idle].Sublist before) parts.events := by
  have hrelease : [Event.write (pipe.pll .control) pllRunning].Sublist
      (Event.writes (pipe.pllWrites parts.plan.pll)) := by
    rw [List.singleton_sublist]
    exact List.mem_map.mpr ⟨(pipe.pll .control, pllRunning), by simp [Pipe.pllWrites], rfl⟩
  have hclocked : [Event.write (pipe.pll .control) pllRunning, Event.idle].Sublist
      parts.clocking :=
    (hrelease.append (List.sublist_append_right _ _)).trans (List.sublist_append_right _ _)
  have hprepared : parts.clocking.Sublist parts.prepared :=
    ((List.sublist_append_left _ _).trans (List.sublist_append_right _ _)).trans
      (List.sublist_append_right _ _)
  rw [events_eq_prepared]
  exact .append (.free parts.prepared_only) (.reached fun before ↦
    (hclocked.trans hprepared).trans (List.sublist_append_left _ _))

theorem timed :
    Guarded (OnWrite Pipe.Scans fun before ↦ ∀ register ∈ Pipe.rasterRegisters, ∃ value,
      Event.write (pipe.register register) value ∈ before) parts.events := by
  have htimed : ∀ register ∈ Pipe.rasterRegisters, ∃ value,
      Event.write (pipe.register register) value ∈ parts.prepared := by
    intro register hregister
    obtain ⟨value, hvalue⟩ := pipe.exists_mem_rasterWrites parts.plan.timing hregister
    refine ⟨value, List.mem_append_right _ (List.mem_append_right _ (List.mem_append_right _ ?_))⟩
    refine List.mem_map.mpr ⟨(pipe.register register, value), List.mem_append_right _ ?_, rfl⟩
    exact List.mem_append_right _ hvalue
  rw [events_eq_prepared]
  refine .append (.free parts.prepared_only) (.reached fun before register hregister ↦ ?_)
  obtain ⟨value, hvalue⟩ := htimed register hregister
  exact ⟨value, List.mem_append_left _ hvalue⟩

theorem steady :
    Guarded (OnWrite pipe.Reprograms fun before ↦
      ∀ value, value ≠ 0 → Event.write (pipe.register .scanEnable) value ∉ before)
      parts.events := by
  rw [events_eq_prepared]
  refine .append ?_ (.free (.append (parts.starting_only.mono ?_) (parts.closing_only.mono ?_)))
  · -- Before the pipe is started nothing makes it scan.
    intro before event after heq _ _ _ _ value hvalue hmem
    refine parts.prepared_only (Event.write (pipe.register .scanEnable) value) ?_ _ _ rfl
      ⟨⟨pipe, rfl⟩, hvalue⟩
    rw [heq]
    exact List.mem_append_left _ hmem
  · exact fun _ _ hstart ↦ not_reprograms_of_switching (startWrites_iff.mp hstart).1
  · exact fun _ _ hclosing ↦ not_reprograms_of_encoder hclosing

/-- Everything before the outputs are lit. -/
def started : List Event :=
  parts.prepared ++ parts.starting

theorem events_eq_started : parts.events = parts.started ++ parts.closing := by
  simp only [events, started, prepared, List.append_assoc]

theorem started_only (id : Output.Id) :
    OnlyWrites (fun register value ↦ ¬id.Lights register value) parts.started := by
  have hswitching : ∀ {register : Direct} {value : UInt32},
      (register = pipe.register .scanEnable ∨ register = pipe.register .control) →
        ¬id.Lights register value := fun hregister ↦
    not_lights fun block hblock ↦ by
      rw [region_of_switching hregister] at hblock
      cases hblock
  refine .append (.append (parts.opening_only.mono ?_) (.append (parts.stopping_only.mono ?_)
    (.append (parts.clocking_only.mono ?_) (parts.drawing_only.mono ?_))))
    (parts.starting_only.mono ?_)
  · exact fun _ _ hopening ↦ hopening.2 id
  · exact fun _ _ hstop ↦ hswitching (stopWrites_iff.mp hstop).1
  · exact fun _ _ hclocking ↦ not_lights_of_programs hclocking
  · exact fun _ _ hdrawing ↦ not_lights_of_programs hdrawing.2
  · exact fun _ _ hstart ↦ hswitching (startWrites_iff.mp hstart).1

theorem running (id : Output.Id) :
    Guarded (OnWrite id.Lights fun before ↦
      [Event.write (pipe.register .control) pipeEnabled, Event.idle].Sublist before)
      parts.events := by
  have hrunning : [Event.write (pipe.register .control) pipeEnabled, Event.idle].Sublist
      parts.starting :=
    (List.sublist_cons_self (Event.write (pipe.register .scanEnable) scanEnabled)
      [Event.write (pipe.register .control) pipeEnabled]).append (List.sublist_append_right _ _)
  rw [events_eq_started]
  exact .append (.free (parts.started_only id)) (.reached fun before ↦
    (hrunning.trans (List.sublist_append_right _ _)).trans (List.sublist_append_left _ _))

theorem routed (id : Output.Id) :
    Guarded (OnWrite id.Lights fun before ↦
      Event.write (id.register .sourceSelect) pipe.index.toUInt32 ∈ before) parts.events := by
  rw [events_eq_started]
  exact .append (.free (parts.started_only id))
    (.later (fun _ ↦ List.mem_append_right _) (parts.closing_routed id))

/-- A mode set that does not get stuck keeps the order. -/
theorem ordered : Ordered pipe outputs parts.events where
  dark := parts.dark
  stopped := parts.stopped
  held := parts.held
  clocked := parts.clocked
  timed := parts.timed
  steady := parts.steady
  running := parts.running
  routed := parts.routed

end ModeTrace

/-- The order is kept wherever the trace is cut off. -/
theorem Ordered.cut {pipe : Pipe} {outputs : List Output.Id} {events whole : List Event}
    (hordered : Ordered pipe outputs whole) (hcut : events <+: whole) :
    Ordered pipe outputs events where
  dark id hid := (hordered.dark id hid).cut hcut
  stopped := hordered.stopped.cut hcut
  held := hordered.held.cut hcut
  clocked := hordered.clocked.cut hcut
  timed := hordered.timed.cut hcut
  steady := hordered.steady.cut hcut
  running id := (hordered.running id).cut hcut
  routed id := (hordered.routed id).cut hcut

/-- Events that write nothing are in order. -/
theorem Ordered.of_silent {pipe : Pipe} {outputs : List Output.Id} {events : List Event}
    (hevents : ∀ event ∈ events, event.written = none) : Ordered pipe outputs events where
  dark _ _ := .free (.of_silent hevents)
  stopped := .free (.of_silent hevents)
  held := .free (.of_silent hevents)
  clocked := .free (.of_silent hevents)
  timed := .free (.of_silent hevents)
  steady := .free (.of_silent hevents)
  running _ := .free (.of_silent hevents)
  routed _ := .free (.of_silent hevents)

/-- Events that write nothing may follow. -/
theorem Ordered.append_silent {pipe : Pipe} {outputs : List Output.Id} {events more : List Event}
    (hordered : Ordered pipe outputs events) (hmore : ∀ event ∈ more, event.written = none) :
    Ordered pipe outputs (events ++ more) where
  dark id hid := (hordered.dark id hid).append (.free (.of_silent hmore))
  stopped := hordered.stopped.append (.free (.of_silent hmore))
  held := hordered.held.append (.free (.of_silent hmore))
  clocked := hordered.clocked.append (.free (.of_silent hmore))
  timed := hordered.timed.append (.free (.of_silent hmore))
  steady := hordered.steady.append (.free (.of_silent hmore))
  running id := (hordered.running id).append (.free (.of_silent hmore))
  routed id := (hordered.routed id).append (.free (.of_silent hmore))

end Scanout
