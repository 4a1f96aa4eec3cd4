import Scanout.Proofs.Display.Plan
import Scanout.Proofs.Display.Program
import Scanout.Proofs.Snapshot

/-!
How operations end once they have begun. A wait only fails with a lockup, and a sequence fails as
its waits do. What is checked again on the way was checked of the same request before, so a mode set
that was accepted ends well or with the engine stuck; and the replay after a lockup never fails
itself.
-/

set_option autoImplicit false
set_option relaxedAutoImplicit false

namespace Scanout

open Register

/-- The engine did not go idle. -/
def Failure.IsLockup (failure : Failure Error) : Prop :=
  ∃ polls status, failure = .error (.lockup polls status)

/-- The action only fails with a lockup. -/
abbrev Action.OnlyLocksUp {σ α : Type} (action : Action σ α) : Prop :=
  action.FailsOnly Failure.IsLockup

/-- The action does not fail. -/
abbrev Action.NeverFails {σ α : Type} (action : Action σ α) : Prop :=
  action.FailsOnly fun _ ↦ False

namespace Device

variable {σ : Type}

theorem waitIdle_locksUp (device : Device) : (device.waitIdle : Action σ Unit).OnlyLocksUp := by
  intro state
  rw [start_waitIdle]
  refine stage_returns (fun status ↦ ?_) (.done (by rintro _ ⟨⟩))
  rintro _ ⟨⟩
  exact ⟨_, status, rfl⟩

theorem mapMemory_locksUp (device : Device) (base size : UInt32) :
    (device.mapMemory base size : Action σ Unit).OnlyLocksUp :=
  .bind (.lift _) fun _ ↦ .bind (.lift _) fun _ ↦ .bind (.lift _) fun _ ↦ .bind (.lift _) fun _ ↦
    device.waitIdle_locksUp

end Device

namespace Pipe.View

theorem setPower_locksUp (device : Device) (request : Dpms) :
    (setPower device request).OnlyLocksUp := by
  have hend : ∀ last : View → View, (do
      device.waitIdle
      modify last : Action View Unit).OnlyLocksUp :=
    fun _ ↦ .bind device.waitIdle_locksUp fun _ ↦ .modify _
  refine .get_bind fun view ↦ .bind (.lift _) fun _ ↦ ?_
  split
  · exact .get_bind fun _ ↦ .bind (.modify _) fun _ ↦ .bind (.lift _) fun _ ↦
      .bind (.lift _) fun _ ↦ hend _
  · exact .get_bind fun _ ↦ .bind (.modify _) fun _ ↦ .bind (.lift _) fun _ ↦
      .bind (.lift _) fun _ ↦ hend _

end Pipe.View

namespace Snapshot

variable {σ : Type}

theorem restore_locksUp (device : Device) (snapshot : Snapshot) :
    (snapshot.restore device : Action σ Unit).OnlyLocksUp := by
  have hentry : ∀ (place : Place) (value : UInt32),
      (place.write device value : Action σ Unit).OnlyLocksUp := by
    intro place value
    cases place with
    | direct register => exact .lift _
    | aperture => exact .bind (.lift _) fun _ ↦ device.waitIdle_locksUp
  have hback : ∀ entries, (writeBack device entries : Action σ Unit).OnlyLocksUp := by
    intro entries
    induction entries with
    | nil => exact .pure ()
    | cons head rest ih =>
      rw [writeBack]
      split
      · exact .bind (hentry _ _) fun _ ↦ ih
      · exact ih
  exact .bind (hback _) fun _ ↦ .lift _

end Snapshot

namespace Display

variable {display : Display} {pipe : Pipe} {request : Request} {plan : Pipe.Plan}

theorem onPipe_failsOnly {kind : Failure Error → Prop} (pipe : Pipe)
    {action : Action Pipe.View Unit} (haction : action.FailsOnly kind) :
    (onPipe pipe action).FailsOnly kind := by
  intro display
  rw [start_onPipe]
  exact (haction _).bind fun _ hout ↦ .done hout

theorem refresh_neverFails : refresh.NeverFails :=
  .get_bind fun _ ↦ .bind (.lift _) fun _ ↦ .set _

theorem restoreSnapshot_locksUp (snapshot : Snapshot) : (restoreSnapshot snapshot).OnlyLocksUp :=
  .get_bind fun display ↦ .bind (snapshot.restore_locksUp display.device) fun _ ↦
    refresh_neverFails.mono fun _ ↦ False.elim

/-- The replay after a failed mode set reports no failure of its own: a lockup is noted, and nothing
else comes of writing a snapshot back. -/
theorem recover_neverFails (pipe : Pipe) : (recover pipe).NeverFails := by
  refine .get_bind fun display ↦ ?_
  split
  · exact .lift _
  · rename_i snapshot _
    refine .bind (.lift _) fun _ ↦
      .attempt_bind (snapshot.restore_locksUp display.device) fun result hresult ↦ ?_
    split
    · exact .bind (.lift _) fun _ ↦ refresh_neverFails
    · rename_i reason
      obtain ⟨_, _, hlockup⟩ := hresult (.fault reason) rfl
      cases hlockup
    · exact refresh_neverFails

/-- A sequence on a device ended well, or with the engine stuck. -/
def Ended (device : Device) (result : Except (Failure Error) Unit) : Prop :=
  result = .ok () ∨ ∃ status, result = .error (device.lockup status)

/-- A plan that was accepted can be written, so its mode set only gets stuck. -/
theorem setMode_ended (haccepted : display.Accepted pipe request plan) (device : Device)
    (view : Pipe.View) :
    ((Pipe.View.setMode device plan).start view).Returns fun out ↦ Ended device out.1 := by
  obtain ⟨stop, hstop⟩ := haccepted.placed.fits
  obtain ⟨hh, hv⟩ := haccepted.totals
  have hstuck : ∀ status, Ended device (.error (device.lockup status)) :=
    fun status ↦ .inr ⟨status, rfl⟩
  rw [Pipe.View.start_setMode hstop hh hv]
  exact Device.stage_returns hstuck (Device.stage_returns hstuck
    (Device.stage_returns hstuck (.done (.inl rfl))))

/-- A mode set that was accepted ends well, or with the engine stuck. -/
theorem program_ended (haccepted : display.Accepted pipe request plan) :
    ((program pipe request.outputs plan).start display).Returns fun out ↦
      Ended display.device out.1 := by
  have hdark := sameBoard_dark display request.outputs
  rw [program, Action.start_bind, start_switchOff haccepted.exists_output, Program.bind_bind]
  refine .after _ fun _ ↦ ?_
  rw [Program.done_bind, Action.follow_ok, Action.start_get_bind, Action.start_bind, start_onPipe,
    Program.bind_bind, hdark.device]
  refine (setMode_ended haccepted display.device _).bind ?_
  rintro ⟨result, view⟩ hended
  rw [Program.done_bind]
  cases result with
  | error failure => exact .done hended
  | ok _ =>
    -- The outputs are the same as when they went dark, so they are found again.
    rw [Action.follow_ok, start_switchOn pipe fun id hid ↦ ?_]
    · exact .after _ fun _ ↦ .done (.inl rfl)
    · rw [output?_setPipe]
      exact hdark.exists_output (haccepted.exists_output id hid)

end Display

end Scanout
