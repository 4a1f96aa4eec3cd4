import Scanout.Proofs.Display.Board
import Scanout.Proofs.Display.Program
import Scanout.Proofs.Order.ModeSet

/-!
The order of a whole mode set, lockups included. A mode set reports a lockup as an error, and
nothing else before it falls back on a snapshot; what comes after the report belongs to the
fallback. `untilLockup` is the part before.
-/

set_option autoImplicit false
set_option relaxedAutoImplicit false

namespace Scanout

open Register

/-- The event reports an error. -/
def Event.isAlarm (event : Event) : Bool :=
  match event.request with
  | .note entry => entry.level = .error
  | .read _ | .write _ _ | .delay _ => false

/-- The events before the first report of an error. -/
def untilLockup (events : List Event) : List Event :=
  events.takeWhile fun event ↦ !event.isAlarm

/-- Nothing among some events reports an error. -/
def Calm (events : List Event) : Prop :=
  ∀ event ∈ events, event.isAlarm = false

namespace Calm

variable {first second : List Event}

theorem append (hfirst : Calm first) (hsecond : Calm second) : Calm (first ++ second) :=
  fun event hevent ↦ (List.mem_append.mp hevent).elim (hfirst event) (hsecond event)

theorem writes (entries : List (Direct × UInt32)) : Calm (Event.writes entries) := by
  intro event hevent
  obtain ⟨entry, -, rfl⟩ := List.mem_map.mp hevent
  rfl

theorem polls (hpolls : ∀ event ∈ first, event.IsPoll) : Calm first := by
  intro event hevent
  rcases hpolls event hevent with hrequest | ⟨microseconds, hrequest⟩ <;>
    rw [Event.isAlarm, hrequest]

theorem idle : Calm [Event.idle] := by
  intro event hevent
  rw [List.mem_singleton.mp hevent]
  rfl

theorem note {entry : Log.Entry} (hlevel : entry.level ≠ .error) : Calm [Event.note entry] := by
  intro event hevent
  rw [List.mem_singleton.mp hevent]
  exact decide_eq_false hlevel

theorem untilLockup_append (hcalm : Calm first) :
    untilLockup (first ++ second) = first ++ untilLockup second :=
  List.takeWhile_append_of_pos fun event hevent ↦ by rw [hcalm event hevent]; rfl

theorem untilLockup_eq (hcalm : Calm first) : untilLockup first = first := by
  have hwhole : untilLockup (first ++ []) = first ++ untilLockup [] := hcalm.untilLockup_append
  rwa [List.append_nil, show untilLockup [] = [] from rfl, List.append_nil] at hwhole

/-- The first report of an error ends what is looked at. -/
theorem untilLockup_alarm (hcalm : Calm first) (alarm : Event) (halarm : alarm.isAlarm = true) :
    untilLockup (first ++ alarm :: second) = first := by
  rw [hcalm.untilLockup_append, untilLockup, List.takeWhile_cons_of_neg (by simp [halarm]),
    List.append_nil]

end Calm

namespace Output

variable {σ : Type} (handler : Handler Access.signature σ)

theorem calm_switchEvents (id : Id) (on : Bool) (sequencer : UInt32) :
    Calm (switchEvents id on sequencer) := by
  have hpower : Calm [Event.read panelSequencer sequencer,
      Event.write panelSequencer (panelPower on sequencer)] := by
    intro event hevent
    simp only [List.mem_cons, List.not_mem_nil, or_false] at hevent
    rcases hevent with rfl | rfl <;> rfl
  unfold switchEvents
  cases id.kind with
  | dac => exact .writes _
  | tmds => exact .writes _
  | lvds =>
    cases on with
    | true => exact .append (.writes _) hpower
    | false => exact .append hpower (.writes _)

theorem calm_darkenAll (ids : List Id) (state : σ) :
    Calm ((darkenAll ids).trace handler state) := by
  intro event hevent
  obtain ⟨id, -, rfl | ⟨sequencer, hswitch⟩⟩ := mem_darkenAll handler hevent
  · rfl
  · exact calm_switchEvents id false sequencer event hswitch

theorem calm_lightAll (pipe : Pipe) (ids : List Id) (state : σ) :
    Calm ((lightAll pipe ids).trace handler state) := by
  intro event hevent
  obtain ⟨id, -, rfl | rfl | ⟨sequencer, hswitch⟩⟩ := mem_lightAll handler hevent
  · rfl
  · rfl
  · exact calm_switchEvents id true sequencer event hswitch

end Output

namespace Display

variable {σ : Type} {display : Display} {pipe : Pipe} {request : Request} {plan : Pipe.Plan}

/-- A sequence plays some events: all of them if it succeeds, and else the first of them and then
the report of a lockup. -/
def Plays (device : Device) (handler : Handler Access.signature σ)
    (program : Hardware (Except (Failure Error) Unit × Display)) (state : σ)
    (whole : List Event) : Prop :=
  ∃ shown, shown <+: whole ∧ Calm shown ∧
    ((program.run handler state).1.1 = .ok () ∧ program.trace handler state = shown ∨
      ∃ status, (program.run handler state).1.1 = .error (device.lockup status) ∧
        program.trace handler state = shown ++ [Event.note (device.lockupReport status)])

/-- Some writes, a wait that ends well, and what may follow. -/
def Waited (writes : List (Direct × UInt32)) (follows : List Event → Prop)
    (whole : List Event) : Prop :=
  ∃ polls more, (∀ event ∈ polls, event.IsPoll) ∧ follows more ∧
    whole = Event.writes writes ++ (polls ++ ([Event.idle] ++ more))

theorem plays_stage {device : Device} {handler : Handler Access.signature σ}
    {follows : List Event → Prop} {writes : List (Direct × UInt32)} {stuck : Display}
    {rest : Hardware (Except (Failure Error) Unit × Display)}
    (hrest : ∀ left, ∃ whole, follows whole ∧ Plays device handler rest left whole) (state : σ) :
    ∃ whole, Waited writes follows whole ∧
      Plays device handler (device.stage writes stuck rest) state whole := by
  obtain ⟨statuses, hend⟩ := device.trace_stage writes stuck rest handler state
  rw [Device.surrender, ← List.append_assoc] at hend
  obtain ⟨polls, hpolls, heq⟩ : ∃ polls : List Event, (∀ event ∈ polls, event.IsPoll) ∧
      Event.polled device.config.idleInterval statuses = polls := ⟨_, Event.isPoll_of_polled, rfl⟩
  rw [heq] at hend
  rcases hend with ⟨left, hrun, htrace⟩ | ⟨-, hrun, htrace⟩
  · obtain ⟨whole, hfollows, shown, hshown, hcalm, hend⟩ := hrest left
    refine ⟨_, ⟨polls, whole, hpolls, hfollows, rfl⟩,
      Event.writes writes ++ (polls ++ ([Event.idle] ++ shown)), ?_, ?_, ?_⟩
    · simpa only [List.prefix_append_right_inj] using hshown
    · exact .append (.writes _) (.append (.polls hpolls) (.append .idle hcalm))
    · rw [hrun, htrace]
      rcases hend with ⟨hok, hrest⟩ | ⟨status, herror, hrest⟩
      · exact .inl ⟨hok, by rw [hrest, List.append_assoc]; rfl⟩
      · refine .inr ⟨status, herror, ?_⟩
        rw [hrest]
        simp only [List.append_assoc, List.cons_append, List.nil_append]
  · -- Stuck: the trace stops where the idle status would have been.
    obtain ⟨whole, hfollows, -⟩ := hrest state
    refine ⟨_, ⟨polls, whole, hpolls, hfollows, rfl⟩, Event.writes writes ++ polls, ?_,
      .append (.writes _) (.polls hpolls), .inr ⟨statuses.getLastD 0, by rw [hrun], htrace⟩⟩
    rw [List.prefix_append_right_inj]
    exact List.prefix_append _ _

theorem plays_modeStages (pipe : Pipe) (plan : Pipe.Plan) (stop : UInt32)
    {handler : Handler Access.signature σ} {follows : List Event → Prop}
    {rest : Hardware (Except (Failure Error) Unit × Display)}
    (hrest : ∀ left, ∃ whole, follows whole ∧ Plays display.device handler rest left whole)
    (state : σ) :
    ∃ whole, Waited pipe.stopWrites
        (Waited (pipe.surfaceWrites plan stop ++ pipe.pllWrites plan.pll)
          (Waited (pipe.drawWrites plan) follows))
        whole ∧
      Plays display.device handler (display.modeStages pipe plan stop rest) state whole :=
  plays_stage (plays_stage (plays_stage hrest)) state

/-- What is known of the trace of outputs being lit. -/
def Lit (pipe : Pipe) (events : List Event) : Prop :=
  OnlyWrites (fun register _ ↦ ∃ block, region register.offset = .encoder block) events ∧
    ∀ id : Output.Id, Guarded (OnWrite id.Lights fun before ↦
      Event.write (id.register .sourceSelect) pipe.index.toUInt32 ∈ before) events

theorem plays_lightAll (device : Device) (handler : Handler Access.signature σ) (pipe : Pipe)
    (outputs : List Output.Id) (lit : Display) (left : σ) :
    ∃ whole, Lit pipe whole ∧ Plays device handler
      ((Output.lightAll pipe outputs).bind fun _ ↦ .done (.ok (), lit)) left whole := by
  refine ⟨(Output.lightAll pipe outputs).trace handler left,
    ⟨Output.onlyWrites_lightAll handler pipe outputs left,
      fun id ↦ Output.routed_of_lightAll handler pipe outputs id left⟩,
    _, List.prefix_refl _, Output.calm_lightAll handler pipe outputs left, .inl ⟨?_, ?_⟩⟩
  · rw [Program.run_bind]
    rfl
  · rw [Program.trace_bind, Program.trace_done, List.append_nil]

/-- The trace of an accepted mode set, before it is concluded, is that of a complete one: all of
it, or up to the report of a lockup. -/
theorem plays_program (haccepted : display.Accepted pipe request plan)
    (hwired : (display.pipe pipe).pipe = pipe) (handler : Handler Access.signature σ)
    {notes : List Event} (hnotes : ∀ event ∈ notes, event.written = none) (state : σ) :
    ∃ parts : ModeTrace pipe request.outputs, ∃ whole, parts.events = notes ++ whole ∧
      Plays display.device handler ((program pipe request.outputs plan).start display) state
        whole := by
  obtain ⟨stop, hstop⟩ := haccepted.placed.fits
  obtain ⟨hh, hv⟩ := haccepted.totals
  have hstart := start_program hwired haccepted.exists_output hstop hh hv
  have hcalm := Output.calm_darkenAll handler request.outputs state
  obtain ⟨whole, hwaited, shown, hshown, hshownCalm, hend⟩ :=
    plays_modeStages pipe plan stop
      (plays_lightAll (display.dark request.outputs).device handler pipe request.outputs
        (display.scanning pipe request.outputs plan))
      ((Output.darkenAll request.outputs).run handler state).2
  obtain ⟨stopPolls, _, hstopPolls, ⟨clockPolls, _, hclockPolls, ⟨startPolls, closing,
    hstartPolls, ⟨hclosing, hrouted⟩, rfl⟩, rfl⟩, hwhole⟩ := hwaited
  let opening := notes ++ (Output.darkenAll request.outputs).trace handler state
  let parts : ModeTrace pipe request.outputs := {
    plan, stop, opening, stopPolls, clockPolls, startPolls, closing
    opening_dark := fun id hid ↦ by
      obtain ⟨sequencer, hsequence⟩ := Output.dark_of_darkenAll handler state id hid
      exact ⟨sequencer, hsequence.trans (List.suffix_append _ _).isInfix⟩
    opening_only :=
      .append (.of_silent hnotes) (Output.onlyWrites_darkenAll handler request.outputs state)
    stopPolls_silent := fun event hevent ↦ (hstopPolls event hevent).written
    clockPolls_silent := fun event hevent ↦ (hclockPolls event hevent).written
    startPolls_silent := fun event hevent ↦ (hstartPolls event hevent).written
    closing_only := hclosing
    closing_routed := hrouted }
  refine ⟨parts, (Output.darkenAll request.outputs).trace handler state ++ whole, ?_,
    (Output.darkenAll request.outputs).trace handler state ++ shown, ?_,
    .append hcalm hshownCalm, ?_⟩
  · rw [hwhole]
    simp only [parts, opening, ModeTrace.events, ModeTrace.stopping, ModeTrace.clocking,
      ModeTrace.drawing, ModeTrace.starting, Pipe.drawWrites, Event.writes_append,
      List.append_assoc]
  · rwa [List.prefix_append_right_inj]
  · rw [hstart, Program.run_bind, Program.trace_bind]
    rcases hend with ⟨hok, htrace⟩ | ⟨status, herror, htrace⟩
    · exact .inl ⟨hok, by rw [htrace]⟩
    · exact .inr ⟨status, herror, by rw [htrace, List.append_assoc]; rfl⟩

/-- An accepted mode set takes notes, plays its program and concludes it. -/
theorem trace_applyMode (hplan : display.plan pipe request = .ok plan)
    (handler : Handler Access.signature σ) (state : σ) :
    ∃ notes begun, (∀ event ∈ notes, event.written = none) ∧ Calm notes ∧
      ((applyMode pipe request).start display).trace handler state = notes ++
        (((program pipe request.outputs plan).start display).trace handler begun ++
          (conclude pipe plan (((program pipe request.outputs plan).start display).run handler
            begun).1).trace handler (((program pipe request.outputs plan).start display).run
              handler begun).2) := by
  simp only [start_applyMode hplan, Program.trace_ask, Program.trace_bind]
  refine ⟨[Event.note (announcement pipe request)] ++
    [Event.note (plan.pll.report (display.scanMode request).clock)], _, by simp, ?_, rfl⟩
  exact .append (.note Log.Level.noConfusion) (.note Log.Level.noConfusion)

/-- A mode set keeps the order up to its end or to the report of a lockup, whatever is answered. -/
theorem applyMode_ordered (display : Display) (pipe : Pipe) (request : Request)
    (hwired : display.Wired) (handler : Handler Access.signature σ) (state : σ) :
    let events := ((applyMode pipe request).start display).trace handler state
    Ordered pipe request.outputs (untilLockup events) ∧
      (untilLockup events = events ∨ ∃ status,
        untilLockup events ++ [Event.note (display.device.lockupReport status)] <+: events) := by
  intro events
  cases hplan : display.plan pipe request with
  | error failure =>
    have hevents : events = [Event.note (announcement pipe request)] := by
      simp only [events, start_applyMode_of_error hplan, Program.trace_ask, Program.trace_done]
      rfl
    have hwhole : untilLockup events = events := by
      rw [hevents]
      exact (Calm.note Log.Level.noConfusion).untilLockup_eq
    rw [hwhole]
    refine ⟨.of_silent ?_, .inl rfl⟩
    rw [hevents, List.forall_mem_singleton]
    rfl
  | ok plan =>
    obtain ⟨notes, begun, hnotes, hcalm, hevents⟩ := trace_applyMode hplan handler state
    change events = _ at hevents
    obtain ⟨parts, whole, hparts, shown, hshown, hshownCalm, hend⟩ :=
      plays_program (accepted_of_plan hplan) (hwired pipe) handler hnotes begun
    have hordered : Ordered pipe request.outputs (notes ++ shown) := by
      refine parts.ordered.cut ?_
      rwa [hparts, List.prefix_append_right_inj]
    rcases hend with ⟨hok, htrace⟩ | ⟨status, herror, htrace⟩
    · have hwhole : events = (notes ++ shown) ++ [Event.note (completion pipe plan)] := by
        rw [hevents, htrace, trace_conclude_ok hok, List.append_assoc]
      have hcut : untilLockup events = events := by
        rw [hwhole]
        exact (Calm.append (.append hcalm hshownCalm)
          (.note Log.Level.noConfusion)).untilLockup_eq
      rw [hcut, hwhole]
      exact ⟨hordered.append_silent (by simp), .inl rfl⟩
    · rw [htrace, List.append_assoc, ← List.append_assoc] at hevents
      have hcut : untilLockup events = notes ++ shown := by
        rw [hevents]
        exact (hcalm.append hshownCalm).untilLockup_alarm (.note _) rfl
      rw [hcut]
      refine ⟨hordered, .inr ⟨status, ?_⟩⟩
      rw [hevents, ← List.append_assoc]
      exact List.prefix_append _ _

/-- The order of a mode set on a desktop board whose engine is idle. -/
theorem applyMode_ordered_desktop :
    let events := ((applyMode .first desktopRequest).start desktop).trace RegisterFile.port .cleared
    Ordered .first desktopRequest.outputs (untilLockup events) :=
  (applyMode_ordered desktop .first desktopRequest (fresh_of_attach attach_desktop).wired
    RegisterFile.port .cleared).1

end Display

end Scanout
