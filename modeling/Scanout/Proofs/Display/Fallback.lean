import Scanout.Proofs.Display.Resync
import Scanout.Proofs.Snapshot

/-!
Falling back on a snapshot after a mode set failed. A replay either leaves the saved values or gets
stuck, and what is cached is read back in both cases; the fallback itself never fails. Reading back
does not look at the engine status, so an idle status that is seen on the way is the one that the
replay waited for.
-/

set_option autoImplicit false
set_option relaxedAutoImplicit false

namespace Scanout.Display

variable {σ : Type} {display : Display}

/-- What is cached is rebuilt however a replay ended, and a replay that failed is noted first. -/
def rebuild : Except (Failure Error) Unit × Display → Hardware (Except (Failure Error) Unit × Display)
  | (.ok _, display) => refresh.start display
  | (.error (.error cause), display) =>
    .ask (.note ⟨.error, s!"restore after failed mode set: {cause.message}"⟩) fun _ ↦
      refresh.start display
  | (.error (.fault reason), display) => .done (.error (.fault reason), display)

/-- What is noted when there is nothing to fall back on. -/
def abandonment (pipe : Pipe) : Log.Entry :=
  ⟨.error, s!"{pipe.name}: mode set failed with no saved state to fall back on"⟩

/-- What is noted before the fallback begins. -/
def fallback (pipe : Pipe) : Log.Entry :=
  ⟨.warn, s!"{pipe.name}: mode set failed, restoring saved state"⟩

theorem start_recover_none (hsaved : display.saved = none) (pipe : Pipe) :
    (recover pipe).start display =
      .ask (.note (abandonment pipe)) fun _ ↦ .done (.ok (), display) := by
  rw [recover, Action.start_get_bind, hsaved]
  rfl

theorem start_recover_some {snapshot : Snapshot} (hsaved : display.saved = some snapshot)
    (pipe : Pipe) :
    (recover pipe).start display = .ask (.note (fallback pipe)) fun _ ↦
      ((snapshot.restore display.device).start display).bind rebuild := by
  rw [recover, Action.start_get_bind, hsaved]
  simp only [Action.start_lift_bind, Action.start_bind (Action.attempt _), Action.start_attempt,
    Program.bind_bind, Program.done_bind, Action.follow_ok]
  refine congrArg (Program.ask _) (funext fun _ ↦ ?_)
  rw [Program.done_bind]
  refine congrArg (Program.bind _) (funext ?_)
  rintro ⟨(cause | reason) | _, left⟩
  · exact Action.start_lift_bind _ _ left
  · rfl
  · rfl

theorem idle_not_mem_of_readback {α : Type} {goal : α → Unit → Prop} {program : Hardware α}
    (hreadback : program.Meets (.asking Access.IsReadback) goal ())
    (handler : Handler Access.signature σ) (state : σ) :
    Event.idle ∉ program.trace handler state := by
  intro hmem
  cases hreadback.asks handler state Event.idle hmem

theorem idle_not_mem_refresh (handler : Handler Access.signature σ) (state : σ) :
    Event.idle ∉ (refresh.start display).trace handler state := by
  rw [start_refresh, Program.trace_bind, Program.trace_done, List.append_nil]
  exact idle_not_mem_of_readback display.resync_readback handler state

theorem idle_not_mem_rebuild (out : Except (Failure Error) Unit × Display)
    (handler : Handler Access.signature σ) (state : σ) :
    Event.idle ∉ (rebuild out).trace handler state := by
  obtain ⟨(cause | reason) | _, left⟩ := out
  · rw [rebuild, Program.trace_ask, List.mem_cons]
    rintro (hnote | hrest)
    · cases hnote
    · exact idle_not_mem_refresh handler _ hrest
  · exact List.not_mem_nil
  · exact idle_not_mem_refresh handler state

theorem run_rebuild {result : Except (Failure Error) Unit}
    (hresult : ∀ reason, result ≠ .error (.fault reason)) (file : RegisterFile) :
    (rebuild (result, display)).run RegisterFile.port file =
      ((.ok (), reread file display), file) := by
  rcases result with (cause | reason) | _
  · exact run_refresh file display
  · exact absurd rfl (hresult reason)
  · exact run_refresh file display

/-- The fallback itself does not fail; and where it saw the engine idle, the snapshot is back and
what is cached is what the registers stand for. -/
theorem recover_replays {snapshot : Snapshot} (hsaved : display.saved = some snapshot)
    (pipe : Pipe) (file : RegisterFile) :
    let program := (recover pipe).start display
    let run := program.run RegisterFile.port file
    run.1.1 = .ok () ∧ (Event.idle ∈ program.trace RegisterFile.port file →
      Snapshot.Replayed display.device snapshot run.2 ∧ run.1.2 = reread run.2 display) := by
  intro program run
  have hreplay : ((snapshot.restore display.device).start display).Meets (.of RegisterFile.port)
      (fun out left ↦ (out = (.ok (), display) ∧ Snapshot.Replayed display.device snapshot left) ∨
        ∃ status, out = (.error (display.device.lockup status), display)) file :=
    Snapshot.meets_replay (fun status _ _ ↦ .inr ⟨status, rfl⟩) fun _ hleft ↦ .inl ⟨rfl, hleft⟩
  have hquiet : ∀ failure,
      (((snapshot.restore display.device).start display).run RegisterFile.port file).1.1 =
        .error failure →
      Event.idle ∉ ((snapshot.restore display.device).start display).trace RegisterFile.port file :=
    fun _ ↦ snapshot.not_idle_of_restore display.device display RegisterFile.port file
  rw [Program.meets_of_iff] at hreplay
  simp only [run, program, start_recover_some hsaved, Program.run_ask, Program.run_bind,
    Program.trace_ask, Program.trace_bind, List.mem_cons, List.mem_append, idle_not_mem_rebuild,
    or_false]
  generalize hplayed : ((snapshot.restore display.device).start display).run RegisterFile.port
    file = played at hreplay hquiet
  have hnoted : ∀ entry,
      ((snapshot.restore display.device).start display).run RegisterFile.port
        (RegisterFile.port.answer (.note entry) file).2 = played := fun _ ↦ hplayed
  rw [hnoted]
  obtain ⟨out, left⟩ := played
  rcases hreplay with ⟨rfl, hleft⟩ | ⟨status, rfl⟩
  · rw [run_rebuild (by rintro _ ⟨⟩)]
    exact ⟨rfl, fun _ ↦ ⟨hleft, rfl⟩⟩
  · rw [run_rebuild (by rintro _ ⟨⟩)]
    refine ⟨rfl, ?_⟩
    rintro (hnote | hreplayed)
    · cases hnote
    · exact absurd hreplayed (hquiet _ rfl)

theorem run_recover (pipe : Pipe) (file : RegisterFile) :
    (((recover pipe).start display).run RegisterFile.port file).1.1 = .ok () := by
  cases hsaved : display.saved with
  | none => rw [start_recover_none hsaved]; rfl
  | some snapshot => exact (recover_replays hsaved pipe file).1

end Scanout.Display
