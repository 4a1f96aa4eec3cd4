import Scanout.Proofs.Display.Board
import Scanout.Proofs.Display.Rejection
import Scanout.Proofs.Pll.Range

/-!
Which clocks a mode set can be asked for. A mode passes with a clock of up to 400000 kHz, but the
dividers end at 327857 kHz, and what lies between is only found out by the search, the last of all
checks. The other checks come first and find nothing but what the caller got wrong (`Refuses`), so a
mode set answers that there is no setting exactly if they all pass (`Admissible`) and the clock is
past the end of the dividers.
-/

set_option autoImplicit false
set_option relaxedAutoImplicit false

namespace Scanout

theorem Chip.Generation.pllLimits_eq (generation : Generation) : generation.pllLimits = {} := by
  cases generation <;> rfl

namespace Display

/-- The only errors are preconditions that do not hold. -/
def Refuses {α : Type} (result : Except (Failure Error) α) : Prop :=
  ∀ cause, result = .error (.error cause) → cause.category = .precondition

namespace Refuses

variable {α β : Type}

theorem ok (value : α) : Refuses (.ok value : Except (Failure Error) α) := by
  rintro _ ⟨⟩

theorem error {cause : Error} (hcause : cause.category = .precondition) :
    Refuses (.error (.error cause) : Except (Failure Error) α) := by
  rintro _ ⟨⟩
  exact hcause

theorem bind {first : Except (Failure Error) α} {rest : α → Except (Failure Error) β}
    (hfirst : Refuses first) (hrest : ∀ value, first = .ok value → Refuses (rest value)) :
    Refuses (first >>= rest) := by
  cases first with
  | ok value => exact hrest value rfl
  | error failure =>
    rintro cause ⟨⟩
    exact hfirst cause rfl

theorem ofFault (result : Except Fault α) : Refuses (Failure.ofFault result) := by
  cases result with
  | ok value => exact .ok value
  | error reason => rintro _ ⟨⟩

/-- A mode that does not pass is the caller's. -/
theorem invalidMode (result : Except Mode.Flaw α) :
    Refuses (Failure.ofError (result.mapError Error.invalidMode)) := by
  cases result with
  | ok value => exact .ok value
  | error flaw => exact .error rfl

theorem ofFlaw (result : Except (Failure Mode.Flaw) α) :
    Refuses (result.mapError Error.ofFlaw) := by
  cases result with
  | ok value => exact .ok value
  | error failure =>
    cases failure with
    | error flaw => exact .error rfl
    | fault reason => rintro _ ⟨⟩

end Refuses

section Checks

variable (display : Display) (pipe : Pipe) (request : Request)

theorem checkRouting_refuses (ids : List Output.Id) :
    Refuses (Failure.ofError (display.checkRouting pipe ids)) := by
  induction ids with
  | nil => exact .ok ()
  | cons id rest ih =>
    rw [checkRouting]
    split
    · exact .error rfl
    split
    · exact .error rfl
    split
    · exact .error rfl
    · exact ih

theorem planSurface_refuses (format : Surface.Format) :
    Refuses (display.planSurface request format) := by
  unfold planSurface
  dsimp only
  split
  · exact .error rfl
  split
  · exact .error rfl
  refine .bind (.bind (.ofFault _) fun stop _ ↦ ?_) fun _ _ ↦ .ok _
  split
  · exact .ok _
  · exact .error rfl

theorem checkViewport_refuses : Refuses (Failure.ofError (checkViewport request)) := by
  unfold checkViewport
  dsimp only
  split
  · exact .error rfl
  · exact .ok ()

end Checks

/-- Every check of a request passes, but for that of its clock. -/
structure Admissible (display : Display) (pipe : Pipe) (request : Request) : Prop where
  routing : display.checkRouting pipe request.outputs = .ok ()
  mode : request.mode.validate = .ok ()
  scan : (display.scanMode request).validate = .ok ()
  surface : ∃ format surface, Surface.Format.ofDepth? request.depth = some format ∧
    display.planSurface request format = .ok surface
  viewport : checkViewport request = .ok ()

variable {display : Display} {pipe : Pipe} {request : Request}

/-- The clock decides about a request that passes all else. -/
theorem Admissible.plan_eq (hadmissible : display.Admissible pipe request) :
    ∃ build : Pll.Solution → Pipe.Plan, display.plan pipe request =
      (Pll.synthesize {} (display.scanMode request).clock).map build := by
  obtain ⟨hrouting, hmode, hscan, ⟨format, surface, hformat, hsurface⟩, hviewport⟩ := hadmissible
  obtain ⟨timing, htiming⟩ := Timing.exists_ofMode hscan
  have hnonzero : ¬(request.mode.clock = 0 ∨ (display.scanMode request).clock = 0) :=
    not_or.mpr ⟨Mode.clock_ne_zero hmode, Mode.clock_ne_zero hscan⟩
  refine ⟨fun pll ↦ { timing, pll, surface, x := request.x, y := request.y,
                      width := request.mode.h.display, height := request.mode.v.display }, ?_⟩
  have hpure : (pure format : Except (Failure Error) Surface.Format) = .ok format := rfl
  simp only [plan, hrouting, hmode, htiming, hformat, hpure, Except.ok_bind, hsurface, hviewport,
    if_neg hnonzero, Chip.Generation.pllLimits_eq]
  cases Pll.synthesize {} (display.scanMode request).clock <;> rfl

/-- What is wrong with any other request is the caller's fault. -/
theorem plan_refuses (hother : ¬display.Admissible pipe request) :
    Refuses (display.plan pipe request) := by
  unfold plan
  refine .bind (display.checkRouting_refuses pipe _) fun _ hrouting ↦ ?_
  dsimp only
  split
  · exact .error rfl
  refine .bind (.invalidMode _) fun _ hmode ↦ .bind (.ofFlaw _) fun timing htiming ↦ ?_
  split
  case h_2 => exact .error rfl
  case h_1 format hformat =>
    refine .bind (.ok format) fun format hsame ↦
      .bind (display.planSurface_refuses request format) fun surface hsurface ↦
        .bind (checkViewport_refuses request) fun _ hviewport ↦ absurd ?_ hother
    cases hsame
    exact {
      routing := Failure.ofError_eq_ok.mp hrouting
      mode := Except.mapError_eq_ok.mp (Failure.ofError_eq_ok.mp hmode)
      scan := (Timing.of_ofMode (Except.mapError_eq_ok.mp htiming)).1
      surface := ⟨format, surface, hformat, hsurface⟩
      viewport := Failure.ofError_eq_ok.mp hviewport }

theorem plan_eq_noPllSolution_iff {target : UInt32} :
    display.plan pipe request = .error (.error (.noPllSolution target)) ↔
      display.Admissible pipe request ∧ target = (display.scanMode request).clock ∧
        327857 < target := by
  constructor
  · intro hplan
    have hadmissible : display.Admissible pipe request := by
      by_contra hother
      cases plan_refuses hother _ hplan
    obtain ⟨build, hbuild⟩ := hadmissible.plan_eq
    rw [hbuild] at hplan
    cases hsynthesize : Pll.synthesize {} (display.scanMode request).clock with
    | ok solution =>
      rw [hsynthesize] at hplan
      cases hplan
    | error failure =>
      rw [hsynthesize] at hplan
      cases hplan
      obtain ⟨rfl, hfast⟩ := Pll.synthesize_usual_eq_noPllSolution_iff.mp hsynthesize
      exact ⟨hadmissible, rfl, UInt32.lt_iff_toNat_lt.mpr hfast⟩
  · rintro ⟨hadmissible, rfl, hfast⟩
    obtain ⟨build, hbuild⟩ := hadmissible.plan_eq
    rw [hbuild, Pll.synthesize_usual_eq_noPllSolution_iff.mpr
      ⟨rfl, UInt32.lt_iff_toNat_lt.mp hfast⟩]
    rfl

/-- A request is turned down in its planning or not at all. -/
theorem applyMode_eq_noPllSolution_iff {σ : Type} (handler : Handler Access.signature σ) (state : σ)
    {target : UInt32} :
    (((applyMode pipe request).start display).run handler state).1.1 =
        .error (.error (.noPllSolution target)) ↔
      display.plan pipe request = .error (.error (.noPllSolution target)) := by
  cases hplan : display.plan pipe request with
  | ok plan =>
    refine iff_of_false (fun hresult ↦ ?_) (by rintro ⟨⟩)
    exact (applyMode_committed hplan).returns handler state _ hresult (.inr ⟨target, rfl⟩)
  | error failure =>
    rw [start_applyMode_of_error hplan, Program.run_ask, Program.run_done]
    constructor <;>
      · rintro ⟨⟩
        rfl

theorem exists_synthesize_iff_of_validate {mode : Mode} (hvalid : mode.validate = .ok ()) :
    (∃ solution, Pll.synthesize {} mode.clock = .ok solution) ↔ mode.clock ≤ 327857 := by
  rw [Pll.synthesize_usual_iff, Pll.fastest_usual, UInt32.le_iff_toNat_le]
  exact and_iff_right (Mode.clock_ne_zero hvalid)

theorem Admissible.exists_plan_iff (hadmissible : display.Admissible pipe request) :
    (∃ plan, display.plan pipe request = .ok plan) ↔
      (display.scanMode request).clock ≤ 327857 := by
  obtain ⟨build, hbuild⟩ := hadmissible.plan_eq
  rw [← exists_synthesize_iff_of_validate hadmissible.scan, hbuild]
  cases Pll.synthesize {} (display.scanMode request).clock with
  | ok solution => exact iff_of_true ⟨_, rfl⟩ ⟨_, rfl⟩
  | error failure => exact iff_of_false (by rintro ⟨_, ⟨⟩⟩) (by rintro ⟨_, ⟨⟩⟩)

/-- The clock of a mode that passes has a setting exactly up to 327857 kHz. A mode set answers that
there is none exactly if the request passes every other check and is to be scanned out faster than
that. -/
theorem applyMode_reach (mode : Mode) (display : Display) (pipe : Pipe) (request : Request) :
    (mode.validate = .ok () →
      ((∃ solution, Pll.synthesize {} mode.clock = .ok solution) ↔ mode.clock ≤ 327857)) ∧
      (display.Admissible pipe request →
        ((∃ plan, display.plan pipe request = .ok plan) ↔
          (display.scanMode request).clock ≤ 327857)) ∧
      ∀ (target : UInt32) {σ : Type} (handler : Handler Access.signature σ) (state : σ),
        (((applyMode pipe request).start display).run handler state).1.1 =
            .error (.error (.noPllSolution target)) ↔
          display.Admissible pipe request ∧ target = (display.scanMode request).clock ∧
            327857 < target :=
  ⟨exists_synthesize_iff_of_validate, Admissible.exists_plan_iff, fun _ _ handler state ↦
    (applyMode_eq_noPllSolution_iff handler state).trans plan_eq_noPllSolution_iff⟩

/-- The computed mode of 2560 by 1600 pixels at sixty frames a second. -/
def wideMode : Mode where
  clock := 348500
  h := ⟨2560, 2752, 3032, 3504⟩
  v := ⟨1600, 1603, 1609, 1658⟩
  flags := Mode.negativeHSync ||| Mode.positiveVSync

theorem admissible_wideMode : desktop.Admissible .first (.of wideMode [.dac1]) where
  routing := by decide
  mode := by decide
  scan := by decide
  surface := ⟨.argb8888, _, rfl, rfl⟩
  viewport := by decide

/-- A desktop board scans out 1024 by 768 pixels, but refuses 2560 by 1600. -/
theorem applyMode_reach_desktop :
    (∃ solution, Pll.synthesize {} desktopRequest.mode.clock = .ok solution) ∧
      (¬∃ plan, desktop.plan .first (.of wideMode [.dac1]) = .ok plan) ∧
      (((applyMode .first (.of wideMode [.dac1])).start desktop).run RegisterFile.port
        .cleared).1.1 = .error (.error (.noPllSolution 348500)) := by
  obtain ⟨hclock, hplan, hresult⟩ :=
    applyMode_reach desktopRequest.mode desktop .first (.of wideMode [.dac1])
  refine ⟨(hclock (by decide)).mpr (by decide), fun hplanned ↦ ?_,
    (hresult _ _ _).mpr ⟨admissible_wideMode, rfl, by decide⟩⟩
  exact absurd ((hplan admissible_wideMode).mp hplanned) (by decide)

/-- A mode that passes can be too fast: no setting reaches its clock, and a mode set that asks for
nothing else that could be refused answers so. -/
theorem wideMode_not_reached :
    wideMode.validate = .ok () ∧ (¬∃ solution, Pll.synthesize {} wideMode.clock = .ok solution) ∧
      desktop.Admissible .first (.of wideMode [.dac1]) ∧
      (((applyMode .first (.of wideMode [.dac1])).start desktop).run RegisterFile.port
        .cleared).1.1 = .error (.error (.noPllSolution wideMode.clock)) := by
  refine ⟨admissible_wideMode.mode, fun hreached ↦ ?_, admissible_wideMode, ?_⟩
  · exact absurd (Pll.synthesize_usual_iff.mp hreached).2 (by decide)
  · rw [applyMode_eq_noPllSolution_iff, plan_eq_noPllSolution_iff]
    exact ⟨admissible_wideMode, rfl, by decide⟩

end Display

end Scanout
