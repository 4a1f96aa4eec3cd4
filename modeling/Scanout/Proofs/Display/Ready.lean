import Scanout.Proofs.Display.Ending

/-!
Mode sets on an engine that is ready, whatever else is at the other side of the port. If every
status that is read says idle, and a status is read at all, then no wait gives up; a mode set that
was planned has nothing else to fail with.
-/

set_option autoImplicit false
set_option relaxedAutoImplicit false

namespace Scanout

open Register

/-- If the event is a status of the engine, it says idle. -/
def Event.SaysIdle (event : Event) : Prop :=
  ∀ entry ∈ event.answered, entry.1 = engineStatus → entry.2 = engineIdle

instance (event : Event) : Decidable event.SaysIdle :=
  inferInstanceAs (Decidable (∀ entry ∈ event.answered, _ → _))

/-- Whenever the engine's status is read, it says idle. -/
abbrev ready : Contract Access.signature Unit :=
  .granting Event.SaysIdle

variable {σ : Type}

namespace Device

variable {device : Device} {writes : List (Direct × UInt32)} {stuck : σ}
  {rest : Hardware (Except (Failure Error) Unit × σ)}

/-- The first status ends the wait. -/
theorem settle_of_ready (hpolls : device.config.idlePolls ≠ 0) :
    device.settle.Meets ready (fun result _ ↦ result = .ok ()) () := by
  obtain ⟨polls, hsucc⟩ : ∃ polls, device.config.idlePolls.toNat = polls + 1 :=
    Nat.exists_eq_succ_of_ne_zero fun hzero ↦ hpolls (UInt32.toNat.inj hzero)
  rw [settle, hsucc, pollIdle_succ, Program.ask_bind, Program.meets_ask]
  intro status hidle
  rw [if_pos (hidle (engineStatus, status) rfl rfl)]
  exact .done rfl

theorem stage_of_ready (hpolls : device.config.idlePolls ≠ 0)
    {post : Except (Failure Error) Unit × σ → Unit → Prop} (hrest : rest.Meets ready post ()) :
    (device.stage writes stuck rest).Meets ready post () := by
  refine (Program.meets_granting _ _).bind fun _ _ _ ↦ (settle_of_ready hpolls).bind ?_
  rintro _ _ rfl
  exact hrest

end Device

namespace Display

variable {display : Display} {pipe : Pipe} {request : Request} {plan : Pipe.Plan}

theorem setMode_of_ready (haccepted : display.Accepted pipe request plan) {device : Device}
    (hpolls : device.config.idlePolls ≠ 0) (view : Pipe.View) :
    ((Pipe.View.setMode device plan).start view).Meets ready (fun out _ ↦ out.1 = .ok ()) () := by
  obtain ⟨stop, hstop⟩ := haccepted.placed.fits
  obtain ⟨hh, hv⟩ := haccepted.totals
  rw [Pipe.View.start_setMode hstop hh hv]
  exact Device.stage_of_ready hpolls (Device.stage_of_ready hpolls
    (Device.stage_of_ready hpolls (.done rfl)))

/-- A mode set that was planned succeeds on an engine that is ready. -/
theorem program_of_ready (hpolls : display.device.config.idlePolls ≠ 0)
    (haccepted : display.Accepted pipe request plan) :
    ((program pipe request.outputs plan).start display).Meets ready
      (fun out _ ↦ out.1 = .ok ()) () := by
  have hdark := sameBoard_dark display request.outputs
  rw [program, Action.start_bind, start_switchOff haccepted.exists_output, Program.bind_bind]
  refine (Program.meets_granting _ _).bind fun _ _ _ ↦ ?_
  rw [Program.done_bind, Action.follow_ok, Action.start_get_bind, Action.start_bind, start_onPipe,
    Program.bind_bind, hdark.device]
  refine (setMode_of_ready haccepted hpolls _).bind ?_
  rintro ⟨_, view⟩ _ rfl
  rw [Program.done_bind, Action.follow_ok, start_switchOn pipe fun id hid ↦ ?_]
  · exact (Program.meets_granting _ _).bind fun _ _ _ ↦ .done rfl
  · -- The outputs are the same as when they went dark, so they are found again.
    rw [output?_setPipe]
    exact hdark.exists_output (haccepted.exists_output id hid)

/-- On an engine that is ready, a mode set comes to what its planning comes to. -/
theorem applyMode_of_ready (hpolls : display.device.config.idlePolls ≠ 0) (pipe : Pipe)
    (request : Request) :
    ((applyMode pipe request).start display).Meets ready
      (fun out _ ↦ out.1 = (display.plan pipe request).map fun _ ↦ ()) () := by
  cases hplan : display.plan pipe request with
  | error failure =>
    rw [start_applyMode_of_error hplan, Program.meets_ask]
    exact fun _ _ ↦ .done rfl
  | ok plan =>
    rw [start_applyMode hplan, Program.meets_ask]
    intro _ _
    rw [Program.meets_ask]
    intro _ _
    refine (program_of_ready hpolls (accepted_of_plan hplan)).bind ?_
    rintro ⟨_, left⟩ _ rfl
    exact (Program.meets_ask ..).mpr fun _ _ ↦ .done rfl

end Display

end Scanout
