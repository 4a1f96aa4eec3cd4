import Scanout.Device
import Scanout.Proofs.Action
import Scanout.Proofs.RegisterFile

/-!
Waiting for the engine. `Device.settle` is the wait apart from any cached state. It writes nothing,
and its trace is a number of polls followed either by a status that reads idle or by the report of
a lockup; `trace_settle` is all that is ever said of the loop. A wait that gives up has read as many
statuses as it was allowed, and it reports the last of them.

Every sequence that waits is a chain of stages: some registers are written, then the engine has to
settle before the rest happens. `Device.stage` is one link of the chain, and its lemmas say what it
does to a register file, what it requests and what it shows on a trace.
-/

set_option autoImplicit false
set_option relaxedAutoImplicit false

namespace Scanout

open Register

/-- The event belongs to the polling of the engine status. -/
def Event.IsPoll (event : Event) : Prop :=
  event.request = .read engineStatus.offset ∨ ∃ microseconds, event.request = .delay microseconds

/-- The event of the engine status reading idle. -/
def Event.idle : Event :=
  .read engineStatus engineIdle

theorem Event.IsPoll.written {event : Event} (hpoll : event.IsPoll) : event.written = none := by
  rcases hpoll with hrequest | ⟨microseconds, hrequest⟩ <;> rw [Event.written, hrequest]

theorem Event.idle_not_mem_writes (entries : List (Direct × UInt32)) :
    Event.idle ∉ Event.writes entries := by
  intro hmem
  obtain ⟨entry, -, heq⟩ := List.mem_map.mp hmem
  cases heq

/-- The events of some statuses being read, with a delay after each of them. -/
def Event.polled (interval : UInt32) (statuses : List UInt32) : List Event :=
  statuses.flatMap fun status ↦ [.read engineStatus status, ⟨.delay interval, ()⟩]

theorem Event.isPoll_of_polled {interval : UInt32} {statuses : List UInt32} :
    ∀ event ∈ Event.polled interval statuses, event.IsPoll := by
  intro event hevent
  obtain ⟨status, -, hmem⟩ := List.mem_flatMap.mp hevent
  rw [List.mem_cons, List.mem_singleton] at hmem
  rcases hmem with rfl | rfl
  · exact .inl rfl
  · exact .inr ⟨interval, rfl⟩

namespace Device

variable {σ τ : Type}

/-- The report of an engine that did not settle. -/
def lockupReport (device : Device) (status : UInt32) : Log.Entry :=
  let polls := device.config.idlePolls
  { level := .error
    text :=
      s!"display engine lockup: status {Text.Hex.padded 10 status.toNat} after {polls} polls" }

/-- The failure of an engine that did not settle. -/
def lockup (device : Device) (status : UInt32) : Failure Error :=
  .error (.lockup device.config.idlePolls status)

/-- How a wait ends. -/
def settled (device : Device) : Option UInt32 → Hardware (Except (Failure Error) Unit)
  | none => .done (.ok ())
  | some status =>
    .ask (.note (device.lockupReport status)) fun _ ↦ .done (.error (device.lockup status))

/-- Wait until the engine is idle, whatever is cached. -/
def settle (device : Device) : Hardware (Except (Failure Error) Unit) :=
  (pollIdle device.config.idleInterval device.config.idlePolls.toNat 0).bind device.settled

theorem pollIdle_succ (interval last : UInt32) (polls : Nat) :
    pollIdle interval (polls + 1) last =
      .ask (.read engineStatus.offset) fun status ↦
        if status = engineIdle then .done none
        else .ask (.delay interval) fun _ ↦ pollIdle interval polls status := by
  show Program.ask _ _ = _
  congr 1

theorem pollIdle_silent (interval last : UInt32) (polls : Nat) :
    (pollIdle interval polls last).Meets (.asking Access.IsSilent) (fun _ _ ↦ True) () := by
  induction polls generalizing last with
  | zero => exact .done trivial
  | succ polls ih =>
    rw [pollIdle_succ]
    refine .ask (fun _ _ ↦ Access.noConfusion) fun status ↦ ?_
    dsimp only
    split
    · exact .done trivial
    · exact .ask (fun _ _ ↦ Access.noConfusion) fun _ ↦ ih status

/-- A wait writes nothing, and fails in one way only. -/
theorem settle_silent (device : Device) :
    device.settle.Meets (.asking Access.IsSilent)
      (fun result _ ↦ ∀ failure, result = .error failure → ∃ status, failure = device.lockup status)
      () := by
  rw [settle, Program.meets_bind]
  refine (pollIdle_silent _ _ _).mono fun last _ _ ↦ ?_
  cases last with
  | none => exact .done (by rintro _ ⟨⟩)
  | some status =>
    refine .ask (fun _ _ ↦ Access.noConfusion) fun _ ↦ .done ?_
    rintro _ ⟨⟩
    exact ⟨status, rfl⟩

theorem run_settle (device : Device) (file : RegisterFile) :
    ∃ reads, (device.settle.run RegisterFile.port file).2 = file.advance reads :=
  file.run_of_silent device.settle_silent

theorem trace_pollIdle (handler : Handler Access.signature τ) (interval last : UInt32)
    (polls : Nat) (state : τ) :
    ∃ statuses : List UInt32, (∀ status ∈ statuses, status ≠ engineIdle) ∧
      (((pollIdle interval polls last).run handler state).1 = none ∧
          (pollIdle interval polls last).trace handler state =
            Event.polled interval statuses ++ [Event.idle] ∨
        statuses.length = polls ∧
          ((pollIdle interval polls last).run handler state).1 = some (statuses.getLastD last) ∧
          (pollIdle interval polls last).trace handler state =
            Event.polled interval statuses) := by
  induction polls generalizing last state with
  | zero => exact ⟨[], by simp, .inr ⟨rfl, rfl, rfl⟩⟩
  | succ polls ih =>
    rw [pollIdle_succ, Program.run_ask, Program.trace_ask]
    obtain ⟨status, left⟩ := handler.answer (.read engineStatus.offset) state
    by_cases hidle : status = engineIdle
    · refine ⟨[], by simp, .inl ?_⟩
      simp only [if_pos hidle]
      exact ⟨rfl, by rw [hidle]; rfl⟩
    · simp only [if_neg hidle, Program.run_ask, Program.trace_ask]
      obtain ⟨statuses, hbusy, hend⟩ := ih status (handler.answer (.delay interval) left).2
      refine ⟨status :: statuses, ?_, ?_⟩
      · rw [List.forall_mem_cons]
        exact ⟨hidle, hbusy⟩
      · rcases hend with ⟨hnone, htrace⟩ | ⟨hlength, hsome, htrace⟩
        · exact .inl ⟨hnone, by rw [htrace]; rfl⟩
        · refine .inr ⟨by rw [List.length_cons, hlength], ?_, by rw [htrace]; rfl⟩
          rw [hsome, List.getLastD_cons]

/-- The statuses of a wait that gave up: all that the device may be polled for, none of them
idle. -/
structure GivesUp (device : Device) (statuses : List UInt32) : Prop where
  count : statuses.length = device.config.idlePolls.toNat
  busy : ∀ status ∈ statuses, status ≠ engineIdle

/-- What a wait shows that gave up. -/
def surrender (device : Device) (statuses : List UInt32) : List Event :=
  Event.polled device.config.idleInterval statuses ++
    [Event.note (device.lockupReport (statuses.getLastD 0))]

/-- A wait that gave up has not seen the engine idle. -/
theorem GivesUp.idle_not_mem {device : Device} {statuses : List UInt32}
    (hgives : device.GivesUp statuses) : Event.idle ∉ device.surrender statuses := by
  intro hmem
  rcases List.mem_append.mp hmem with hpoll | hnote
  · obtain ⟨status, hstatus, hevent⟩ := List.mem_flatMap.mp hpoll
    rw [List.mem_cons, List.mem_singleton] at hevent
    rcases hevent with hread | hdelay
    · exact hgives.busy status hstatus (Event.read_inj.mp hread).2.symm
    · cases hdelay
  · cases List.mem_singleton.mp hnote

/-- A wait polls, then either sees the engine idle or reports that it is wedged. -/
theorem trace_settle (device : Device) (handler : Handler Access.signature τ) (state : τ) :
    ∃ statuses : List UInt32,
      (device.settle.run handler state).1 = .ok () ∧
          device.settle.trace handler state =
            Event.polled device.config.idleInterval statuses ++ [Event.idle] ∨
        device.GivesUp statuses ∧
          (device.settle.run handler state).1 = .error (device.lockup (statuses.getLastD 0)) ∧
          device.settle.trace handler state = device.surrender statuses := by
  obtain ⟨statuses, hbusy, hend⟩ := trace_pollIdle handler device.config.idleInterval 0
    device.config.idlePolls.toNat state
  refine ⟨statuses, ?_⟩
  rw [settle, Program.run_bind, Program.trace_bind]
  rcases hend with ⟨hnone, htrace⟩ | ⟨hlength, hsome, htrace⟩
  · left
    rw [hnone, htrace]
    exact ⟨rfl, List.append_nil _⟩
  · right
    rw [hsome, htrace]
    exact ⟨⟨hlength, hbusy⟩, rfl, rfl⟩

/-- Write some registers and wait. An engine that is stuck leaves the cached state given for
that; otherwise the rest follows. -/
def stage (device : Device) (writes : List (Direct × UInt32)) (stuck : σ)
    (rest : Hardware (Except (Failure Error) Unit × σ)) :
    Hardware (Except (Failure Error) Unit × σ) :=
  (Hardware.writeAll writes).bind fun _ ↦ device.settle.bind fun
    | .ok _ => rest
    | .error failure => .done (.error failure, stuck)

theorem start_waitIdle (device : Device) (state : σ) :
    (device.waitIdle : Action σ Unit).start state =
      device.stage [] state (.done (.ok (), state)) := by
  rw [waitIdle, Action.start_lift_bind, stage, settle, Hardware.writeAll_nil, Program.done_bind,
    Program.bind_bind]
  congr 1
  funext last
  cases last <;> rfl

section Stage

variable {device : Device} {writes : List (Direct × UInt32)} {stuck : σ}
  {rest : Hardware (Except (Failure Error) Unit × σ)}

/-- More registers may be written first. -/
theorem writeAll_stage (earlier : List (Direct × UInt32)) :
    ((Hardware.writeAll earlier).bind fun _ ↦ device.stage writes stuck rest) =
      device.stage (earlier ++ writes) stuck rest := by
  rw [stage, stage, Hardware.writeAll_append, Program.bind_bind]

/-- What goes on only after a success, goes on where the stages end. -/
theorem stage_bind (finish : Except (Failure Error) Unit × σ →
      Hardware (Except (Failure Error) Unit × τ)) (change : σ → τ)
    (hfinish : ∀ failure state,
      finish (.error failure, state) = .done (.error failure, change state)) :
    (device.stage writes stuck rest).bind finish =
      device.stage writes (change stuck) (rest.bind finish) := by
  rw [stage, stage, Program.bind_bind]
  congr 1
  funext _
  rw [Program.bind_bind]
  congr 1
  funext result
  cases result with
  | ok _ => rfl
  | error failure => exact hfinish failure stuck

theorem stage_follow (next : Unit → Action σ Unit) :
    (device.stage writes stuck rest).bind (Action.follow next) =
      device.stage writes stuck (rest.bind (Action.follow next)) :=
  stage_bind _ id fun _ _ ↦ rfl

theorem start_waitIdle_bind (next : Unit → Action σ Unit) (state : σ) :
    (device.waitIdle >>= next).start state = device.stage [] state ((next ()).start state) := by
  rw [Action.start_bind, start_waitIdle, stage_follow]
  rfl

/-- On a register file a stage stores its writes; the rest, or what follows a lockup, starts from
there. -/
theorem meets_stage {post : Except (Failure Error) Unit × σ → RegisterFile → Prop}
    {file : RegisterFile}
    (hstuck : ∀ status reads,
      post (.error (device.lockup status), stuck) ((file.store writes).advance reads))
    (hrest : ∀ reads, rest.Meets (.of RegisterFile.port) post
      ((file.store writes).advance reads)) :
    (device.stage writes stuck rest).Meets (.of RegisterFile.port) post file := by
  rw [stage, Program.meets_bind, Program.meets_of_iff, RegisterFile.run_writeAll,
    Program.meets_bind, Program.meets_of_iff]
  obtain ⟨reads, hreads⟩ := device.run_settle (file.store writes)
  obtain ⟨_, ⟨hok, -⟩ | ⟨-, hlockup, -⟩⟩ :=
    device.trace_settle RegisterFile.port (file.store writes)
  · rw [hreads, hok]
    exact hrest reads
  · rw [hreads, hlockup]
    exact .done (hstuck _ reads)

/-- A stage writes its list, and what follows. -/
theorem stage_within {kind : Direct → Prop} {post : Except (Failure Error) Unit × σ → Unit → Prop}
    (hwrites : ∀ entry ∈ writes, kind entry.1)
    (hstuck : ∀ status, post (.error (device.lockup status), stuck) ())
    (hrest : rest.Meets (.asking (Access.Within kind)) post ()) :
    (device.stage writes stuck rest).Meets (.asking (Access.Within kind)) post () := by
  refine Program.Meets.bind (Hardware.writeAll_within hwrites) fun _ _ _ ↦ ?_
  refine (device.settle_silent.widen ?_).bind fun result _ hresult ↦ ?_
  · exact fun access hsilent offset value hwrite ↦ (hsilent offset value hwrite).elim
  · cases result with
    | ok _ => exact hrest
    | error failure =>
      obtain ⟨status, rfl⟩ := hresult failure rfl
      exact .done (hstuck status)

/-- A stage ends with a lockup, or as the rest does. -/
theorem stage_returns {goal : Except (Failure Error) Unit × σ → Prop}
    (hstuck : ∀ status, goal (.error (device.lockup status), stuck)) (hrest : rest.Returns goal) :
    (device.stage writes stuck rest).Returns goal := by
  refine .after _ fun _ ↦ .bind device.settle_silent.asking_returns fun result hresult ↦ ?_
  cases result with
  | ok _ => exact hrest
  | error failure =>
    obtain ⟨status, rfl⟩ := hresult failure rfl
    exact .done (hstuck status)

variable (device writes stuck rest) in
/-- A stage shows its writes and its polls, then the report of a lockup or an idle status and the
rest. -/
theorem trace_stage (handler : Handler Access.signature τ) (state : τ) :
    ∃ statuses : List UInt32,
      (∃ left, (device.stage writes stuck rest).run handler state = rest.run handler left ∧
          (device.stage writes stuck rest).trace handler state =
            Event.writes writes ++ Event.polled device.config.idleInterval statuses ++
              Event.idle :: rest.trace handler left) ∨
        device.GivesUp statuses ∧
          ((device.stage writes stuck rest).run handler state).1 =
            (.error (device.lockup (statuses.getLastD 0)), stuck) ∧
          (device.stage writes stuck rest).trace handler state =
            Event.writes writes ++ device.surrender statuses := by
  obtain ⟨statuses, hend⟩ := device.trace_settle handler
    ((Hardware.writeAll writes).run handler state).2
  refine ⟨statuses, ?_⟩
  rw [stage, Program.run_bind, Program.run_bind, Program.trace_bind, Program.trace_bind,
    Hardware.trace_writeAll]
  rcases hend with ⟨hresult, htrace⟩ | ⟨hgives, hresult, htrace⟩
  · left
    refine ⟨(device.settle.run handler ((Hardware.writeAll writes).run handler state).2).2, ?_⟩
    rw [hresult, htrace]
    exact ⟨rfl, by simp only [List.append_assoc, List.cons_append, List.nil_append]⟩
  · right
    rw [hresult, htrace]
    exact ⟨hgives, rfl, by simp only [Program.trace_done, List.append_nil]⟩

end Stage

end Device

end Scanout
