import Scanout.Proofs.Display.Board
import Scanout.Proofs.Display.Footprint

/-!
A snapshot undoes a session. Whatever is done between saving and restoring, and whether or not it
succeeds, a restore that succeeds leaves every register of the table as it was saved; and since
nothing outside the table was written meanwhile, nothing is left behind elsewhere.

The two sync widths that are never written back are the exception.
-/

set_option autoImplicit false
set_option relaxedAutoImplicit false

namespace Scanout

open Register

namespace Display

variable {σ : Type}

/-- Save, make some calls, and put back what was saved. -/
def excursion (calls : List Call) : Action Display Unit := do
  let snapshot ← saveState
  session calls
  restoreSnapshot snapshot

/-- A restore that succeeds leaves the saved values. -/
theorem restoreSnapshot_restored (display : Display) (saved file : RegisterFile) :
    ((restoreSnapshot (.ofFile display.device saved)).start display).Meets
      (.of RegisterFile.port)
      (fun out left ↦ out.1 = .ok () → Snapshot.Restored display.device saved left) file := by
  rw [restoreSnapshot, Action.start_get_bind, Action.start_bind, Program.meets_bind]
  exact Snapshot.meets_restore (fun _ _ _ ↦ .done (by rintro ⟨⟩)) fun left hrestored ↦
    meets_refresh fun _ ↦ hrestored

theorem meets_excursion (display : Display) {calls : List Call}
    (hsession : (session calls).Keeps coveredPort (IsOn display)) (file : RegisterFile) :
    ((excursion calls).start display).Meets (.of RegisterFile.port)
      (fun out left ↦ out.1 = .ok () → Snapshot.Restored display.device file left) file := by
  refine meets_saveState_bind ?_
  rw [Action.start_bind]
  have hsaved : display.SameDevice { display with saved := some (.ofFile display.device file) } :=
    ⟨rfl, fun pipe ↦ by cases pipe <;> rfl⟩
  have hleft := hsession { display with saved := some (.ofFile display.device file) } () hsaved
  refine (hleft.of_asking RegisterFile.port _).bind ?_
  rintro ⟨_ | _, changed⟩ left hsame
  · exact .done (by rintro ⟨⟩)
  · rw [Action.follow_ok, ← hsame.device]
    exact restoreSnapshot_restored changed file left

/-- Restoring a snapshot undoes every session that came between, and nothing was written
meanwhile that it does not cover. -/
theorem excursion_restores (display : Display) (calls : List Call)
    (hcalls : ∀ call ∈ calls, call.isDdc = false) (file : RegisterFile) :
    let program := (excursion calls).start display
    ((program.run RegisterFile.port file).1.1 = .ok () →
        Snapshot.Restored display.device file (program.run RegisterFile.port file).2) ∧
      OnlyWrites (fun register _ ↦ Snapshot.Covers register)
        (program.trace RegisterFile.port file) := by
  have hsession : (session calls).Keeps coveredPort (IsOn display) :=
    keeps_session fun call hcall ↦ keeps_call (hcalls call hcall)
  have hwhole : (excursion calls).Keeps coveredPort (IsOn display) :=
    .bind keeps_saveState fun snapshot ↦ .bind hsession fun _ ↦ keeps_restoreSnapshot snapshot
  constructor
  · exact (Program.meets_of_iff ..).mp (meets_excursion display hsession file)
  · exact .of_meets (hwhole display () (.refl display)) RegisterFile.port file

/-- A session with a mode set, a replay and a mode set that is refused, undone. -/
theorem excursion_restores_desktop :
    let calls : List Call := [.applyMode .first desktopRequest, .showCursor .second, .restoreState,
      .applyMode .second desktopRequest, .setPower (.output .dac1) .off, .mapMemory]
    Snapshot.Restored desktop.device .cleared
      (((excursion calls).start desktop).run RegisterFile.port .cleared).2 :=
  (excursion_restores desktop _ (by decide) .cleared).1 (Except.eq_ok (by decide +kernel))

end Display

end Scanout
