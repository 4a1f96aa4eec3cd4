import Scanout.Proofs.Display.Fallback
import Scanout.Proofs.Order.Lockup

/-!
What stays cached of a pipe when a mode set on it fails. A mode set that was accepted waits for the
engine three times, and a wait that gives up leaves the raster and the surface from before, nothing,
or those that were asked for (`Abandoned`). How far it came shows in its trace: whether the engine
was seen idle at all, and whether the pipe was started again.

The last case is the odd one, since no mode set has succeeded and yet its raster is cached.
-/

set_option autoImplicit false
set_option relaxedAutoImplicit false

namespace Scanout

open Register

/-- The event of a pipe being started. -/
def Event.start (pipe : Pipe) : Event :=
  .write (pipe.register .control) pipeEnabled

/-- Among some events the engine is not seen idle, and the pipe is not started. -/
structure Unmarked (pipe : Pipe) (events : List Event) : Prop where
  idle : Event.idle ∉ events
  start : Event.start pipe ∉ events

namespace Unmarked

variable {pipe : Pipe} {first second : List Event}

theorem nil (pipe : Pipe) : Unmarked pipe [] :=
  ⟨List.not_mem_nil, List.not_mem_nil⟩

theorem append (hfirst : Unmarked pipe first) (hsecond : Unmarked pipe second) :
    Unmarked pipe (first ++ second) where
  idle := List.not_mem_append hfirst.idle hsecond.idle
  start := List.not_mem_append hfirst.start hsecond.start

theorem note (pipe : Pipe) (entry : Log.Entry) : Unmarked pipe [Event.note entry] := by
  constructor <;> rw [List.mem_singleton] <;> rintro ⟨⟩

theorem writes {entries : List (Direct × UInt32)}
    (hentries : ∀ entry ∈ entries, entry.1 = pipe.register .control → entry.2 ≠ pipeEnabled) :
    Unmarked pipe (Event.writes entries) where
  idle := Event.idle_not_mem_writes entries
  start hmem := hentries _ (Event.write_mem_writes.mp hmem) rfl rfl

theorem surrender {device : Device} {statuses : List UInt32} (hgives : device.GivesUp statuses) :
    Unmarked pipe (device.surrender statuses) where
  idle := hgives.idle_not_mem
  start hmem := by
    rcases List.mem_append.mp hmem with hpoll | hnote
    · cases (Event.isPoll_of_polled _ hpoll).written
    · cases List.mem_singleton.mp hnote

end Unmarked

namespace Output

variable {σ : Type} (handler : Handler Access.signature σ)

theorem idle_not_mem_switchEvents (id : Id) (on : Bool) (sequencer : UInt32) :
    Event.idle ∉ switchEvents id on sequencer := by
  -- Nothing is read on the way but the power sequencer of a panel.
  have hpower : Event.idle ∉ [Event.read panelSequencer sequencer,
      Event.write panelSequencer (panelPower on sequencer)] := by
    simp only [List.mem_cons, List.not_mem_nil, or_false, not_or]
    exact ⟨fun hread ↦ absurd (Event.read_inj.mp hread).1 (by decide), by rintro ⟨⟩⟩
  have hblock := Event.idle_not_mem_writes (blockWrites id on)
  rw [switchEvents]
  cases id.kind with
  | dac => exact hblock
  | tmds => exact hblock
  | lvds =>
    cases on with
    | true => exact List.not_mem_append hblock hpower
    | false => exact List.not_mem_append hpower hblock

theorem unmarked_darkenAll (pipe : Pipe) (ids : List Id) (state : σ) :
    Unmarked pipe ((darkenAll ids).trace handler state) where
  idle hmem := by
    obtain ⟨id, -, hnote | ⟨sequencer, hswitch⟩⟩ := mem_darkenAll handler hmem
    · cases hnote
    · exact idle_not_mem_switchEvents id false sequencer hswitch
  start hmem := by
    obtain ⟨⟨block, hregion⟩, -⟩ := onlyWrites_darkenAll handler ids state _ hmem _ _ rfl
    rw [region_pipe] at hregion
    cases hregion

end Output

namespace Display

variable {σ : Type} {display : Display} {pipe : Pipe} {request : Request} {plan : Pipe.Plan}

/-- What is left cached of a pipe by a mode set that got stuck while the pipe was stopping, while its
clock was settling, or while it was starting, each with the marks that its events show. -/
inductive Abandoned (pipe : Pipe) (plan : Pipe.Plan) (view : Pipe.View) (events : List Event) :
    Pipe.View → Prop
  | stopping (hunmarked : Unmarked pipe events) : Abandoned pipe plan view events view.stopping
  | clocking (hidle : Event.idle ∈ events) (hstart : Event.start pipe ∉ events) :
    Abandoned pipe plan view events view.forgotten
  | starting (hidle : Event.idle ∈ events) (hstart : Event.start pipe ∈ events) :
    Abandoned pipe plan view events (view.planned plan).starting

/-- Unmarked events around it do not change how far a mode set came. -/
theorem Abandoned.between {view left : Pipe.View} {early events late : List Event}
    (habandoned : Abandoned pipe plan view events left) (hearly : Unmarked pipe early)
    (hlate : Unmarked pipe late) : Abandoned pipe plan view (early ++ (events ++ late)) left := by
  cases habandoned with
  | stopping hunmarked => exact .stopping (hearly.append (hunmarked.append hlate))
  | clocking hidle hstart =>
    exact .clocking (List.mem_append_right _ (List.mem_append_left _ hidle))
      (List.not_mem_append hearly.start (List.not_mem_append hstart hlate.start))
  | starting hidle hstart =>
    exact .starting (List.mem_append_right _ (List.mem_append_left _ hidle))
      (List.mem_append_right _ (List.mem_append_left _ hstart))

theorem unmarked_stopWrites (pipe : Pipe) : Unmarked pipe (Event.writes pipe.stopWrites) := by
  refine .writes fun entry hentry _ ↦ ?_
  rw [(ModeTrace.stopWrites_iff.mp hentry).2]
  decide

/-- Neither the surface nor the PLL reaches the register that starts a pipe. -/
theorem unmarked_clockWrites (pipe : Pipe) (plan : Pipe.Plan) (stop : UInt32) :
    Unmarked pipe (Event.writes (pipe.surfaceWrites plan stop ++ pipe.pllWrites plan.pll)) := by
  refine .writes fun entry hentry hcontrol ↦ ?_
  rcases List.mem_append.mp hentry with hsurface | hpll
  · exact absurd hcontrol (pipe.region_surfaceWrites plan stop entry hsurface).2.2
  · have hregion := pipe.region_pllWrites plan.pll entry hpll
    rw [hcontrol, region_pipe] at hregion
    rcases hregion with hregion | hregion <;> cases hregion

theorem start_mem_drawWrites (pipe : Pipe) (plan : Pipe.Plan) :
    Event.start pipe ∈ Event.writes (pipe.drawWrites plan) :=
  Event.write_mem_writes.mpr
    (List.mem_append_right _ (List.mem_cons_of_mem _ List.mem_cons_self))

/-- Each of the three waits may give up, with what the stages before it have done. -/
theorem modeStages_abandoned {stop : UInt32} {handler : Handler Access.signature σ}
    {rest : Hardware (Except (Failure Error) Unit × Display)}
    (hrest : ∀ left, (rest.run handler left).1.1 = .ok ()) (state : σ) {failure : Failure Error}
    (hfailed : ((display.modeStages pipe plan stop rest).run handler state).1.1 = .error failure) :
    ∃ status view,
      ((display.modeStages pipe plan stop rest).run handler state).1 =
          (.error (display.device.lockup status), display.setPipe pipe view) ∧
        Abandoned pipe plan (display.pipe pipe)
          ((display.modeStages pipe plan stop rest).trace handler state) view := by
  have hpolled : ∀ {interval : UInt32} {statuses : List UInt32},
      Event.start pipe ∉ Event.polled interval statuses :=
    fun hmem ↦ by cases (Event.isPoll_of_polled _ hmem).written
  have hstop := unmarked_stopWrites pipe
  have hset := unmarked_clockWrites pipe plan stop
  rw [modeStages] at hfailed ⊢
  -- The pipe cannot be stopped, and nothing of it has changed.
  obtain ⟨_, ⟨first, hrun, htrace⟩ | ⟨hgives, hrun, htrace⟩⟩ :=
    display.device.trace_stage _ _ _ handler state
  rotate_left
  · rw [hrun, htrace]
    exact ⟨_, _, rfl, .stopping (hstop.append (.surrender hgives))⟩
  rw [hrun] at hfailed ⊢
  rw [htrace]
  -- The clock does not settle, and what was cached has been forgotten.
  obtain ⟨_, ⟨second, hrun, htrace⟩ | ⟨hgives, hrun, htrace⟩⟩ :=
    display.device.trace_stage _ _ _ handler first
  rotate_left
  · rw [hrun, htrace]
    refine ⟨_, _, rfl, .clocking (by simp) ?_⟩
    exact List.not_mem_append (List.not_mem_append hstop.start hpolled)
      (List.not_mem_cons_of_ne_of_not_mem (by rintro ⟨⟩)
        (List.not_mem_append hset.start (Unmarked.surrender hgives).start))
  rw [hrun] at hfailed ⊢
  rw [htrace]
  -- The pipe does not come up, and the plan has been cached before the wait.
  obtain ⟨_, ⟨third, hrun, htrace⟩ | ⟨hgives, hrun, htrace⟩⟩ :=
    display.device.trace_stage _ _ _ handler second
  · rw [hrun, hrest third] at hfailed
    cases hfailed
  · rw [hrun, htrace]
    exact ⟨_, _, rfl, .starting (by simp) (by simp [start_mem_drawWrites])⟩

theorem program_abandoned (haccepted : display.Accepted pipe request plan)
    (hwired : (display.pipe pipe).pipe = pipe) (handler : Handler Access.signature σ) (state : σ)
    {failure : Failure Error}
    (hfailed : (((program pipe request.outputs plan).start display).run handler state).1.1 =
      .error failure) :
    ∃ status view,
      (((program pipe request.outputs plan).start display).run handler state).1 =
          (.error (display.device.lockup status),
            (display.dark request.outputs).setPipe pipe view) ∧
        Abandoned pipe plan (display.pipe pipe)
          (((program pipe request.outputs plan).start display).trace handler state) view := by
  obtain ⟨stop, hstop⟩ := haccepted.placed.fits
  obtain ⟨hh, hv⟩ := haccepted.totals
  rw [start_program hwired haccepted.exists_output hstop hh hv] at hfailed ⊢
  rw [Program.run_bind] at hfailed ⊢
  rw [Program.trace_bind]
  obtain ⟨status, view, hrun, habandoned⟩ := modeStages_abandoned
    (fun left ↦ by rw [Program.run_bind]; rfl) _ hfailed
  refine ⟨status, view, hrun, ?_⟩
  rw [(sameBoard_dark display request.outputs).pipe] at habandoned
  have hwhole := habandoned.between
    (Output.unmarked_darkenAll handler pipe request.outputs state) (.nil pipe)
  rwa [List.append_nil] at hwhole

/-- Without a snapshot a lockup is noted and reported, and that is all. -/
theorem conclude_unsaved {left : Display} (hsaved : left.saved = none) (device : Device)
    (status : UInt32) :
    conclude pipe plan (.error (device.lockup status), left) =
      .ask (.note (abandonment pipe)) fun _ ↦ .done (.error (device.lockup status), left) := by
  have hstart : conclude pipe plan (.error (device.lockup status), left) =
      ((recover pipe).start left).bind (Action.follow fun _ ↦ Action.refuse
        (.lockup device.config.idlePolls status)) := rfl
  rw [hstart, start_recover_none hsaved]
  rfl

/-- A mode set that was accepted and then failed shows how far it came. -/
theorem applyMode_abandoned (hplan : display.plan pipe request = .ok plan)
    (hwired : (display.pipe pipe).pipe = pipe) (hsaved : display.saved = none)
    (handler : Handler Access.signature σ) (state : σ) {failure : Failure Error}
    (hfailed : (((applyMode pipe request).start display).run handler state).1.1 = .error failure) :
    Abandoned pipe plan (display.pipe pipe)
      (((applyMode pipe request).start display).trace handler state)
      ((((applyMode pipe request).start display).run handler state).1.2.pipe pipe) := by
  have haccepted := accepted_of_plan hplan
  rw [start_applyMode hplan] at hfailed ⊢
  simp only [Program.run_ask, Program.run_bind, Program.trace_ask, Program.trace_bind]
    at hfailed ⊢
  generalize (handler.answer _ (handler.answer _ state).2).2 = begun at hfailed ⊢
  rcases hended : (((program pipe request.outputs plan).start display).run handler begun).1 with
    ⟨cause | _, left⟩
  · obtain ⟨status, view, hrun, habandoned⟩ :=
      program_abandoned haccepted hwired handler begun (congrArg Prod.fst hended)
    have hunsaved : ((display.dark request.outputs).setPipe pipe view).saved = none := by
      rw [saved_setPipe]
      exact hsaved
    rw [hended.symm.trans hrun, conclude_unsaved hunsaved, Program.run_ask, Program.trace_ask,
      Program.run_done, Program.trace_done, pipe_setPipe]
    have hnotes : Unmarked pipe [Event.note (announcement pipe request),
        Event.note (plan.pll.report (display.scanMode request).clock)] :=
      .append (.note pipe _) (.note pipe _)
    exact habandoned.between hnotes (.note pipe _)
  · rw [hended] at hfailed
    cases hfailed

/-- What a failed mode set leaves cached of its pipe, where there is no snapshot to replay. As long
as the engine was never seen idle, the raster and the surface are those from before. Once it was,
they are forgotten. But once the pipe was started again, they are those of the plan that was not
carried out, although no mode set has succeeded with them. -/
theorem applyMode_cached (display : Display) (pipe : Pipe) (request : Request)
    (hwired : display.Wired) (hsaved : display.saved = none)
    (handler : Handler Access.signature σ) (state : σ) {failure : Failure Error}
    (hfailed : (((applyMode pipe request).start display).run handler state).1.1 = .error failure) :
    let events := ((applyMode pipe request).start display).trace handler state
    let before := display.pipe pipe
    let after := (((applyMode pipe request).start display).run handler state).1.2.pipe pipe
    (Event.idle ∉ events → after.timing = before.timing ∧ after.surface = before.surface) ∧
      (Event.idle ∈ events → Event.start pipe ∉ events →
        after.timing = none ∧ after.surface = none) ∧
      (Event.start pipe ∈ events → ∃ plan, display.plan pipe request = .ok plan ∧
        after.timing = some plan.timing ∧ after.surface = some plan.surface) := by
  intro events before after
  cases hplan : display.plan pipe request with
  | error cause =>
    -- Refused: nothing but a note has happened.
    have hevents : events = [Event.note (announcement pipe request)] := by
      simp only [events, start_applyMode_of_error hplan, Program.trace_ask, Program.trace_done]
      rfl
    have hafter : after = before := by
      simp only [after, start_applyMode_of_error hplan, Program.run_ask, Program.run_done, before]
    have hunmarked := Unmarked.note pipe (announcement pipe request)
    rw [hevents, hafter]
    exact ⟨fun _ ↦ ⟨rfl, rfl⟩, fun hidle ↦ absurd hidle hunmarked.idle,
      fun hstart ↦ absurd hstart hunmarked.start⟩
  | ok plan =>
    have habandoned := applyMode_abandoned hplan (hwired pipe) hsaved handler state hfailed
    generalize hleft : (((applyMode pipe request).start display).run handler state).1.2.pipe pipe =
      left at habandoned
    simp only [after, hleft]
    cases habandoned with
    | stopping hunmarked =>
      exact ⟨fun _ ↦ ⟨rfl, rfl⟩, fun hidle ↦ absurd hidle hunmarked.idle,
        fun hstart ↦ absurd hstart hunmarked.start⟩
    | clocking hidle hstart =>
      exact ⟨fun hbusy ↦ absurd hidle hbusy, fun _ _ ↦ ⟨rfl, rfl⟩, fun hmem ↦ absurd hmem hstart⟩
    | starting hidle hstart =>
      exact ⟨fun hbusy ↦ absurd hidle hbusy, fun _ hother ↦ absurd hstart hother,
        fun _ ↦ ⟨plan, rfl, rfl, rfl⟩⟩

/-- A desktop board that polls once, on engines that are seen idle for some waits and then no more.
The second wait of a mode set gives up with nothing cached, the third with the plan cached. -/
theorem applyMode_cached_desktop :
    let board : Display := { desktop with device.config.idlePolls := 1 }
    let settling (waits : Nat) : RegisterFile :=
      { RegisterFile.cleared with answers := fun index ↦ if index < waits then engineIdle else 0 }
    let ended (waits : Nat) :=
      ((applyMode .first desktopRequest).start board).run RegisterFile.port (settling waits)
    (∀ waits ∈ [1, 2], (ended waits).1.1 = .error (.error (.lockup 1 0))) ∧
      ((ended 1).1.2.first.timing = none ∧ (ended 1).1.2.first.surface = none) ∧
        ∃ plan, board.plan .first desktopRequest = .ok plan ∧
          (ended 2).1.2.first.timing = some plan.timing ∧
            (ended 2).1.2.first.surface = some plan.surface := by
  intro board settling ended
  have hwired : board.Wired := (fresh_of_attach attach_desktop).wired
  have hfailed : ∀ waits ∈ [1, 2], (ended waits).1.1 = .error (.error (.lockup 1 0)) := by
    decide +kernel
  have hcached (waits : Nat) (hwaits : waits ∈ [1, 2]) :=
    applyMode_cached board .first desktopRequest hwired rfl RegisterFile.port (settling waits)
      (hfailed waits hwaits)
  refine ⟨hfailed, (hcached 1 (by decide)).2.1 ?_ ?_, (hcached 2 (by decide)).2.2 ?_⟩
  all_goals decide +kernel

/-- A mode set that gives up on its third wait leaves its raster and its surface cached on a pipe
that had none. -/
theorem stuckStart_cached :
    let board : Display := { desktop with device.config.idlePolls := 1 }
    let settling : RegisterFile :=
      { RegisterFile.cleared with answers := fun index ↦ if index < 2 then engineIdle else 0 }
    let ended := ((applyMode .first desktopRequest).start board).run RegisterFile.port settling
    board.saved = none ∧ ended.1.1 = .error (.error (.lockup 1 0)) ∧
      ¬((ended.1.2.pipe .first).timing = none ∨
          (ended.1.2.pipe .first).timing = (board.pipe .first).timing) ∧
        ¬((ended.1.2.pipe .first).surface = none ∨
          (ended.1.2.pipe .first).surface = (board.pipe .first).surface) := by
  decide +kernel

end Display

end Scanout
