import Scanout.Proofs.Device

/-!
An engine that is idle all along. A register file may answer for the engine status as it likes;
where it always answers idle, every wait is over after one poll, and a stage stores its writes and
goes on with what follows. Nothing but the pending answers is used up by that, so when the polls
happened does not matter to what a file holds.
-/

set_option autoImplicit false
set_option relaxedAutoImplicit false

namespace Scanout

open Register

namespace RegisterFile

variable {file : RegisterFile} {writes : List (Direct × UInt32)}

/-- The engine status reads idle, however often registers that report were read before. -/
def Idle (file : RegisterFile) : Prop :=
  ∀ reads, ((file.advance reads).read engineStatus.offset).1 = engineIdle

/-- The file once the engine status was read. -/
def polled (file : RegisterFile) : RegisterFile :=
  (file.read engineStatus.offset).2

theorem idle_cleared : cleared.Idle := fun _ ↦ rfl

/-- The engine status is not behind the window. -/
theorem read_engineStatus (file : RegisterFile) :
    file.read engineStatus.offset =
      if file.reports engineStatus.offset then (file.answers 0, file.advance 1)
      else (file.value engineStatus, file) := by
  rw [read]
  split
  · rfl
  · exact if_neg fun hdata ↦ absurd hdata.2 (by decide)

/-- A poll uses up an answer if the status is one that reports, and else changes nothing. -/
theorem polled_eq (file : RegisterFile) :
    file.polled = file.advance (if file.reports engineStatus.offset then 1 else 0) := by
  rw [polled, read_engineStatus]
  split <;> rfl

@[simp] theorem value_polled (file : RegisterFile) (register : Direct) :
    file.polled.value register = file.value register := by
  rw [polled_eq, value_advance]

theorem store_advance (file : RegisterFile) (writes : List (Direct × UInt32)) (reads : Nat) :
    (file.advance reads).store writes = (file.store writes).advance reads := by
  induction writes generalizing file with
  | nil => rfl
  | cons head rest ih => exact ih (file.write head.1.offset head.2)

/-- Writes change neither which registers report nor what they are about to answer. -/
theorem answering_store (file : RegisterFile) (writes : List (Direct × UInt32)) :
    (file.store writes).reports = file.reports ∧ (file.store writes).answers = file.answers := by
  induction writes generalizing file with
  | nil => exact ⟨rfl, rfl⟩
  | cons head rest ih => exact ih (file.write head.1.offset head.2)

/-- It does not matter whether a file is polled before some writes or after them. -/
theorem store_polled (file : RegisterFile) (writes : List (Direct × UInt32)) :
    file.polled.store writes = (file.store writes).polled := by
  rw [polled_eq, polled_eq, store_advance, (file.answering_store writes).1]

namespace Idle

theorem read (hidle : file.Idle) : file.read engineStatus.offset = (engineIdle, file.polled) :=
  Prod.ext (hidle 0) rfl

theorem advance (hidle : file.Idle) (reads : Nat) : (file.advance reads).Idle := by
  intro more
  rw [advance_advance]
  exact hidle (more + reads)

theorem polled (hidle : file.Idle) : file.polled.Idle := by
  rw [polled_eq]
  exact hidle.advance _

/-- Writing other registers leaves the engine idle. -/
theorem store (hidle : file.Idle) (hother : ∀ entry ∈ writes, entry.1 ≠ engineStatus) :
    (file.store writes).Idle := by
  intro reads
  have hbefore := hidle reads
  rw [← store_advance]
  rw [read_engineStatus] at hbefore ⊢
  obtain ⟨hsame, hanswers⟩ := (file.advance reads).answering_store writes
  rw [hsame, hanswers, value_store_of_ne _ hother]
  by_cases hreports : (file.advance reads).reports engineStatus.offset = true
  · rw [if_pos hreports] at hbefore ⊢
    exact hbefore
  · rw [if_neg hreports] at hbefore ⊢
    exact hbefore

end Idle

end RegisterFile

namespace Device

variable {σ : Type} {device : Device} {file : RegisterFile}

/-- An idle engine settles at the first poll. -/
theorem run_settle_of_idle (hpolls : device.config.idlePolls ≠ 0) (hidle : file.Idle) :
    device.settle.run RegisterFile.port file = (.ok (), file.polled) := by
  obtain ⟨polls, hsucc⟩ : ∃ polls, device.config.idlePolls.toNat = polls + 1 := by
    refine Nat.exists_eq_succ_of_ne_zero fun hzero ↦ hpolls ?_
    exact UInt32.toNat.inj hzero
  have hread : RegisterFile.port.answer (.read engineStatus.offset) file =
      (engineIdle, file.polled) := hidle.read
  rw [settle, hsucc, pollIdle_succ, Program.run_bind, Program.run_ask, hread]
  simp only [if_true, Program.run_done]
  rfl

/-- With an idle engine a stage stores its writes, and the rest follows. -/
theorem run_stage_of_idle (hpolls : device.config.idlePolls ≠ 0) (hidle : file.Idle)
    {writes : List (Direct × UInt32)} (hother : ∀ entry ∈ writes, entry.1 ≠ engineStatus)
    (stuck : σ) (rest : Hardware (Except (Failure Error) Unit × σ)) :
    (device.stage writes stuck rest).run RegisterFile.port file =
      rest.run RegisterFile.port (file.store writes).polled := by
  rw [stage, Program.run_bind, RegisterFile.run_writeAll, Program.run_bind,
    run_settle_of_idle hpolls (hidle.store hother)]

end Device

end Scanout
