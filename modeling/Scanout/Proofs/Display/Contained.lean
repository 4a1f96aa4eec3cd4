import Scanout.Proofs.Display.Fallback
import Scanout.Proofs.Display.Programmed
import Scanout.Proofs.Display.Rejection
import Scanout.Proofs.Order.Lockup
import Scanout.Proofs.Output.Dark

/-!
A mode set that gets stuck. It waits three times, and wherever the engine does not settle the
requested outputs were already dark and the pipe is not back on, so without a snapshot that is what
is left (`Stuck`). With one, a replay that sees the engine idle puts every saved value back and
rebuilds what is cached from them. What is reported either way is the wait that gave up first.
-/

set_option autoImplicit false
set_option relaxedAutoImplicit false

namespace Scanout

open Register

/-- The events from the first report of an error on. -/
def sinceLockup (events : List Event) : List Event :=
  events.dropWhile fun event ↦ !event.isAlarm

theorem Calm.sinceLockup_alarm {first second : List Event} (hcalm : Calm first) (alarm : Event)
    (halarm : alarm.isAlarm = true) : sinceLockup (first ++ alarm :: second) = alarm :: second := by
  rw [sinceLockup, List.dropWhile_append_of_pos fun event hevent ↦ by rw [hcalm event hevent]; rfl,
    List.dropWhile_cons_of_neg (by simp [halarm])]

namespace Device

variable {σ τ : Type} {device : Device}

/-- A sequence that fails has waited in vain: its trace ends with a wait that gave up, and reports
an error only there. -/
def Surrenders (device : Device) (handler : Handler Access.signature τ)
    (program : Hardware (Except (Failure Error) Unit × σ)) (state : τ) : Prop :=
  ∀ failure, (program.run handler state).1.1 = .error failure →
    ∃ shown statuses, Calm shown ∧ device.GivesUp statuses ∧
      failure = device.lockup (statuses.getLastD 0) ∧
      program.trace handler state = shown ++ device.surrender statuses

theorem surrenders_stage {handler : Handler Access.signature τ}
    {writes : List (Direct × UInt32)} {stuck : σ}
    {rest : Hardware (Except (Failure Error) Unit × σ)}
    (hrest : ∀ left, device.Surrenders handler rest left) (state : τ) :
    device.Surrenders handler (device.stage writes stuck rest) state := by
  intro failure hfailure
  obtain ⟨statuses, ⟨left, hrun, htrace⟩ | ⟨hgives, hrun, htrace⟩⟩ :=
    device.trace_stage writes stuck rest handler state
  · rw [hrun] at hfailure
    obtain ⟨shown, last, hcalm, hgives, hreport, hend⟩ := hrest left failure hfailure
    refine ⟨Event.writes writes ++ Event.polled device.config.idleInterval statuses ++
      ([Event.idle] ++ shown), last, ?_, hgives, hreport, ?_⟩
    · exact .append (.append (.writes _) (.polls Event.isPoll_of_polled)) (.append .idle hcalm)
    · rw [htrace, hend]
      simp only [List.append_assoc, List.cons_append, List.nil_append]
  · rw [hrun] at hfailure
    cases hfailure
    exact ⟨Event.writes writes, statuses, .writes _, hgives, rfl, htrace⟩

theorem surrenders_of_ok {handler : Handler Access.signature τ} {program : Hardware Unit}
    {value : σ} (state : τ) :
    device.Surrenders handler (program.bind fun _ ↦ .done (.ok (), value)) state := by
  intro failure hfailure
  rw [Program.run_bind] at hfailure
  cases hfailure

end Device

namespace Display

variable {σ : Type} {display : Display} {pipe : Pipe} {request : Request} {plan : Pipe.Plan}

theorem surrenders_modeStages {stop : UInt32} {handler : Handler Access.signature σ}
    {rest : Hardware (Except (Failure Error) Unit × Display)}
    (hrest : ∀ left, display.device.Surrenders handler rest left) (state : σ) :
    display.device.Surrenders handler (display.modeStages pipe plan stop rest) state :=
  Device.surrenders_stage (Device.surrenders_stage (Device.surrenders_stage hrest)) state

/-- A mode set that fails has waited in vain. -/
theorem program_surrenders (haccepted : display.Accepted pipe request plan)
    (hwired : (display.pipe pipe).pipe = pipe) (handler : Handler Access.signature σ) (state : σ) :
    display.device.Surrenders handler ((program pipe request.outputs plan).start display) state := by
  obtain ⟨stop, hstop⟩ := haccepted.placed.fits
  obtain ⟨hh, hv⟩ := haccepted.totals
  intro failure hfailure
  rw [start_program hwired haccepted.exists_output hstop hh hv, Program.run_bind] at hfailure
  rw [start_program hwired haccepted.exists_output hstop hh hv, Program.trace_bind]
  obtain ⟨shown, statuses, hcalm, hgives, hreport, hend⟩ :=
    surrenders_modeStages (fun left ↦ Device.surrenders_of_ok left) _ failure hfailure
  refine ⟨(Output.darkenAll request.outputs).trace handler state ++ shown, statuses,
    .append (Output.calm_darkenAll handler _ state) hcalm, hgives, hreport, ?_⟩
  rw [hend, List.append_assoc]
  rfl

/-- What a mode set leaves that got stuck: the requested outputs are off, in what is cached and in
the registers, the pipe is not on, and whatever else is cached is as it was. -/
structure Stuck (display : Display) (pipe : Pipe) (request : Request) (left : Display)
    (file : RegisterFile) : Prop where
  off : ∀ id ∈ request.outputs, ∃ view, left.output? id = some view ∧ view.power = .off
  dark : ∀ id ∈ request.outputs, Output.Dark id file
  stopped : (left.pipe pipe).power ≠ .on
  others : ∀ other, other ≠ pipe → left.pipe other = display.pipe other
  spared : left.outputs.filter (fun view ↦ view.id ∉ request.outputs) =
    display.outputs.filter fun view ↦ view.id ∉ request.outputs
  device : left.device = display.device
  saved : left.saved = display.saved

theorem stuck_setPipe (hexist : ∀ id ∈ request.outputs, ∃ view, display.output? id = some view)
    {view : Pipe.View} (hview : view.power ≠ .on) {file : RegisterFile}
    (hdark : ∀ id ∈ request.outputs, Output.Dark id file) :
    display.Stuck pipe request ((display.dark request.outputs).setPipe pipe view) file where
  off id hid := by
    obtain ⟨before, hbefore⟩ := hexist id hid
    refine ⟨before.switched false, ?_, rfl⟩
    rw [output?_setPipe, output?_dark, hbefore, Option.map_some, if_pos hid]
  dark := hdark
  stopped := by rwa [pipe_setPipe]
  others other hother := by
    rw [pipe_setPipe_of_ne hother, (sameBoard_dark display request.outputs).pipe]
  spared := by rw [outputs_setPipe, filter_dark]
  device := by rw [device_setPipe]; rfl
  saved := by rw [saved_setPipe]; rfl

/-- A mode set that fails has got stuck at one of its waits, with the outputs dark. -/
theorem program_stuck (haccepted : display.Accepted pipe request plan)
    (hwired : (display.pipe pipe).pipe = pipe) (file : RegisterFile) :
    ((program pipe request.outputs plan).start display).Meets (.of RegisterFile.port)
      (fun out left ↦ ∀ failure, out.1 = .error failure →
        display.Stuck pipe request out.2 left) file := by
  obtain ⟨stop, hstop⟩ := haccepted.placed.fits
  obtain ⟨hh, hv⟩ := haccepted.totals
  obtain ⟨hstopping, hclocking, hdrawing⟩ := Pipe.region_mem_ownRegions pipe plan stop
  -- The stages write nothing that belongs to an encoder, so the outputs stay dark.
  have hkept : ∀ {left : RegisterFile} {writes : List (Direct × UInt32)} (reads : Nat),
      (∀ entry ∈ writes, region entry.1.offset ∈ pipe.ownRegions) →
        (∀ id ∈ request.outputs, Output.Dark id left) →
          ∀ id ∈ request.outputs, Output.Dark id ((left.store writes).advance reads) := by
    intro left writes reads hwrites hdark id hid
    refine ((hdark id hid).store fun entry hentry block hregion ↦ ?_).advance reads
    have hown := hwrites entry hentry
    rw [hregion] at hown
    simp [Pipe.ownRegions] at hown
  have hdark := Output.dark_of_run_darkenAll request.outputs file
  rw [start_program hwired haccepted.exists_output hstop hh hv, Program.meets_bind,
    Program.meets_of_iff, modeStages]
  have hexist := haccepted.exists_output
  refine Device.meets_stage (fun _ first _ _ ↦ ?_) fun first ↦ ?_
  · exact stuck_setPipe hexist Power.noConfusion (hkept first hstopping hdark)
  refine Device.meets_stage (fun _ second _ _ ↦ ?_) fun second ↦ ?_
  · exact stuck_setPipe hexist Power.noConfusion
      (hkept second hclocking (hkept first hstopping hdark))
  refine Device.meets_stage (fun _ third _ _ ↦ ?_) fun third ↦ ?_
  · exact stuck_setPipe hexist Power.noConfusion
      (hkept third hdrawing (hkept second hclocking (hkept first hstopping hdark)))
  rw [Program.meets_bind, Program.meets_of_iff]
  exact .done (by rintro _ ⟨⟩)

/-!
The whole of it: the fallback follows what got stuck, and reports the lockup as it was.
-/

/-- A lockup is concluded by the fallback, and reported as it was. -/
theorem run_conclude_lockup {pipe : Pipe} {plan : Pipe.Plan} (device : Device) (status : UInt32)
    (left : Display) (file : RegisterFile) :
    let fallen := ((recover pipe).start left).run RegisterFile.port file
    (conclude pipe plan (.error (device.lockup status), left)).run RegisterFile.port file =
        ((.error (device.lockup status), fallen.1.2), fallen.2) ∧
      (conclude pipe plan (.error (device.lockup status), left)).trace RegisterFile.port file =
        ((recover pipe).start left).trace RegisterFile.port file := by
  have hstart : conclude pipe plan (.error (device.lockup status), left) =
      ((recover pipe).start left).bind (Action.follow fun _ ↦ Action.refuse
        (.lockup device.config.idlePolls status)) := rfl
  have hrun : (((recover pipe).start left).run RegisterFile.port file).1.1 = .ok () :=
    run_recover pipe file
  rw [hstart, Program.run_bind, Program.trace_bind]
  generalize ((recover pipe).start left).run RegisterFile.port file = fallen at hrun
  obtain ⟨⟨result, rebuilt⟩, after⟩ := fallen
  cases hrun
  exact ⟨rfl, List.append_nil _⟩

/-- A mode set that reports a lockup got stuck in its own sequence, and then fell back. -/
theorem applyMode_falls_back (hplan : display.plan pipe request = .ok plan)
    (file : RegisterFile) {polls status : UInt32}
    (hlockup : (((applyMode pipe request).start display).run RegisterFile.port file).1.1 =
      .error (.error (.lockup polls status))) :
    let sequence := (program pipe request.outputs plan).start display
    let stuck := sequence.run RegisterFile.port file
    let fallen := ((recover pipe).start stuck.1.2).run RegisterFile.port stuck.2
    polls = display.device.config.idlePolls ∧ stuck.1.1 = .error (display.device.lockup status) ∧
      ((applyMode pipe request).start display).run RegisterFile.port file =
        ((.error (display.device.lockup status), fallen.1.2), fallen.2) ∧
      ∃ notes, Calm notes ∧ (∀ event ∈ notes, event.written = none) ∧
        ((applyMode pipe request).start display).trace RegisterFile.port file =
          notes ++ (sequence.trace RegisterFile.port file ++
            ((recover pipe).start stuck.1.2).trace RegisterFile.port stuck.2) := by
  intro sequence stuck fallen
  have hrun : ((applyMode pipe request).start display).run RegisterFile.port file =
      (conclude pipe plan stuck.1).run RegisterFile.port stuck.2 := run_applyMode_eq hplan file
  have htrace : ((applyMode pipe request).start display).trace RegisterFile.port file =
      [Event.note (announcement pipe request),
          Event.note (plan.pll.report (display.scanMode request).clock)] ++
        (sequence.trace RegisterFile.port file ++
          (conclude pipe plan stuck.1).trace RegisterFile.port stuck.2) :=
    trace_applyMode_eq hplan file
  have hended : Ended display.device stuck.1.1 :=
    (program_ended (accepted_of_plan hplan)).returns RegisterFile.port file
  rw [hrun] at hlockup ⊢
  rw [htrace]
  clear_value stuck
  obtain ⟨⟨result, left⟩, between⟩ := stuck
  obtain rfl | ⟨last, rfl⟩ : result = .ok () ∨ ∃ status, result = _ := hended
  · cases hlockup
  obtain ⟨hconclude, hfallback⟩ := run_conclude_lockup display.device last left between
  rw [hconclude] at hlockup ⊢
  rw [hfallback]
  cases hlockup
  refine ⟨rfl, rfl, rfl, _, ?_, ?_, rfl⟩
  · exact .append (.note Log.Level.noConfusion) (.note Log.Level.noConfusion)
  · simp

/-- The first error that shows is the report of the wait that gave up, and its polls come right
before it. -/
theorem lockup_shows (haccepted : display.Accepted pipe request plan)
    (hwired : (display.pipe pipe).pipe = pipe) (file : RegisterFile) {status : UInt32}
    (hstuck : (((program pipe request.outputs plan).start display).run RegisterFile.port file).1.1 =
      .error (display.device.lockup status))
    {notes : List Event} (hnotes : Calm notes) (following : List Event) :
    ∃ before statuses, Calm before ∧ display.device.GivesUp statuses ∧
      status = statuses.getLastD 0 ∧
      Event.polled display.device.config.idleInterval statuses <:+ before ∧
      notes ++ (((program pipe request.outputs plan).start display).trace RegisterFile.port file ++
          following) =
        before ++ Event.note (display.device.lockupReport status) :: following := by
  obtain ⟨shown, statuses, hshown, hgives, hreport, hsequence⟩ :=
    program_surrenders haccepted hwired RegisterFile.port file _ hstuck
  obtain rfl : status = statuses.getLastD 0 := by
    injection hreport with hcause
    injection hcause
  refine ⟨notes ++ (shown ++ Event.polled display.device.config.idleInterval statuses), statuses,
    hnotes.append (hshown.append (.polls Event.isPoll_of_polled)), hgives, rfl, ?_, ?_⟩
  · exact (List.suffix_append _ _).trans (List.suffix_append _ _)
  · rw [hsequence, Device.surrender]
    simp only [List.append_assoc, List.cons_append, List.nil_append]

/-- What happens when a mode set gets stuck. Without a snapshot the requested outputs are dark, the
pipe is not on, and nothing else has changed. With one, a replay that sees the engine idle leaves
the saved values and what is cached from them. Either way the error is that of the wait that gave
up: how often it polled, and the last status it read. -/
theorem applyMode_contained (display : Display) (pipe : Pipe) (request : Request)
    (hwired : display.Wired) {plan : Pipe.Plan} (hplan : display.plan pipe request = .ok plan)
    (file : RegisterFile) {polls status : UInt32}
    (hlockup : (((applyMode pipe request).start display).run RegisterFile.port file).1.1 =
      .error (.error (.lockup polls status))) :
    let events := ((applyMode pipe request).start display).trace RegisterFile.port file
    let left := (((applyMode pipe request).start display).run RegisterFile.port file).1.2
    let after := (((applyMode pipe request).start display).run RegisterFile.port file).2
    (display.saved = none → display.Stuck pipe request left after ∧
        OnlyWrites (fun register _ ↦ Touches pipe request register) events) ∧
      (∀ snapshot, display.saved = some snapshot → Event.idle ∈ sinceLockup events →
        Snapshot.Replayed display.device snapshot after ∧
          left.resync.run RegisterFile.port after = (left, after)) ∧
      polls = display.device.config.idlePolls ∧
      ∃ statuses, display.device.GivesUp statuses ∧ status = statuses.getLastD 0 ∧
        Event.polled display.device.config.idleInterval statuses <:+ untilLockup events ∧
        untilLockup events ++ [Event.note (display.device.lockupReport status)] <+: events := by
  have haccepted := accepted_of_plan hplan
  obtain ⟨hpolls, hresult, hrun, notes, hnotes, hsilent, htrace⟩ :=
    applyMode_falls_back hplan file hlockup
  have hstuck := (Program.meets_of_iff ..).mp (program_stuck haccepted (hwired pipe) file) _ hresult
  have hwrites := OnlyWrites.of_meets (program_touches haccepted (hwired pipe)) RegisterFile.port
    file
  intro events left after
  obtain ⟨before, statuses, hbefore, hgives, hstatus, hpolled, hshape⟩ :=
    lockup_shows haccepted (hwired pipe) file hresult hnotes _
  have hevents : events = _ := htrace.trans hshape
  have huntil : untilLockup events = before := by
    rw [hevents, hbefore.untilLockup_alarm (.note _) rfl]
  simp only [left, after, hrun]
  generalize ((program pipe request.outputs plan).start display).run RegisterFile.port file =
    run at hstuck htrace hevents ⊢
  obtain ⟨⟨_, stuck⟩, between⟩ := run
  refine ⟨fun hsaved ↦ ?_, fun snapshot hsaved hidle ↦ ?_, hpolls, statuses, hgives, hstatus, ?_, ?_⟩
  · have hrecover := start_recover_none (hstuck.saved.trans hsaved) pipe
    refine ⟨by rw [hrecover]; exact hstuck, ?_⟩
    have hnoted : OnlyWrites (fun register _ ↦ Touches pipe request register)
        (((recover pipe).start stuck).trace RegisterFile.port between) := by
      rw [hrecover]
      exact .of_silent fun event hevent ↦ by rw [List.mem_singleton.mp hevent]; rfl
    show OnlyWrites _ (((applyMode pipe request).start display).trace RegisterFile.port file)
    rw [htrace]
    exact .append (.of_silent hsilent) (.append hwrites hnoted)
  · rw [hevents, hbefore.sinceLockup_alarm (.note _) rfl, List.mem_cons] at hidle
    obtain ⟨-, hreplays⟩ := recover_replays (hstuck.saved.trans hsaved) pipe between
    obtain ⟨hreplayed, hrebuilt⟩ := hreplays (hidle.resolve_left (by rintro ⟨⟩))
    rw [hstuck.device] at hreplayed
    refine ⟨hreplayed, ?_⟩
    dsimp only
    rw [run_resync, hrebuilt, reread_reread]
  · rwa [huntil]
  · rw [huntil, hevents]
    exact ⟨_, (List.append_cons _ _ _).symm⟩

/-- A desktop board that polls twice. On an engine that never settles a mode set leaves the requested
outputs dark; on one that settles when the snapshot is replayed, it leaves the snapshot's values. -/
theorem applyMode_contained_desktop :
    let board : Display := { desktop with device.config.idlePolls := 2 }
    let saving : Display := { board with saved := some (.ofFile board.device .cleared) }
    let busy : RegisterFile := { RegisterFile.cleared with answers := fun _ ↦ 0 }
    let late : RegisterFile :=
      { RegisterFile.cleared with answers := fun index ↦ if index < 2 then 0 else engineIdle }
    let first := ((applyMode .first desktopRequest).start board).run RegisterFile.port busy
    let second := ((applyMode .first desktopRequest).start saving).run RegisterFile.port late
    (first.1.1 = .error (.error (.lockup 2 0)) ∧
        board.Stuck .first desktopRequest first.1.2 first.2) ∧
      second.1.1 = .error (.error (.lockup 2 0)) ∧
        Snapshot.Replayed board.device (.ofFile board.device .cleared) second.2 := by
  intro board saving busy late first second
  obtain ⟨plan, hplan⟩ : ∃ plan, board.plan .first desktopRequest = .ok plan :=
    Except.exists_of_isOk (by decide +kernel)
  have hwired : board.Wired := (fresh_of_attach attach_desktop).wired
  have hfirst : first.1.1 = .error (.error (.lockup 2 0)) := by decide +kernel
  have hsecond : second.1.1 = .error (.error (.lockup 2 0)) := by decide +kernel
  refine ⟨⟨hfirst, ?_⟩, hsecond, ?_⟩
  · exact ((applyMode_contained board .first desktopRequest hwired hplan busy hfirst).1 rfl).1
  · refine ((applyMode_contained saving .first desktopRequest hwired hplan late hsecond).2.1 _ rfl
      ?_).1
    decide +kernel

end Display

end Scanout
