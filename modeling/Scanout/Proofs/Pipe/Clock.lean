import Scanout.Proofs.Pipe.ModeSet
import Scanout.Proofs.Pll.Range

/-!
The clock that a pipe gets. Programming its PLL shows a list of writes and else only polls
(`write_mem_programPll`), and each divider is in that list once, so what the registers are given is
the setting that was found. Its clock can be read off them, and it is close to the one that was
asked for.
-/

set_option autoImplicit false
set_option relaxedAutoImplicit false

namespace Scanout.Pipe

open Register

/-- The clock in kHz that the values of its divider registers make a PLL run at. -/
def dividedClock (reference feedback post : UInt32) : Nat :=
  (Feedback.mk feedback).multiplier.toNat * Pll.crystal / (reference.toNat * post.toNat)

/-- The register is written among the events, and never with another value. -/
def Puts (register : Direct) (value : UInt32) (events : List Event) : Prop :=
  ∀ given, Event.write register given ∈ events ↔ given = value

section Programmed

variable {σ τ : Type} (device : Device) (pipe : Pipe) (solution : Pll.Solution) (state : σ)
  (handler : Handler Access.signature τ) (hardware : τ)

/-- Whether or not the engine settles afterwards, a PLL is programmed with its list. -/
theorem write_mem_programPll (register : Direct) (value : UInt32) :
    Event.write register value ∈
        ((programPll device pipe solution).start state).trace handler hardware ↔
      (register, value) ∈ pllWrites pipe solution := by
  have hpolls : ∀ statuses,
      Event.write register value ∉ Event.polled device.config.idleInterval statuses := by
    intro statuses hmem
    cases (Event.isPoll_of_polled _ hmem).written
  rw [start_programPll]
  obtain ⟨statuses, ⟨left, -, htrace⟩ | ⟨-, -, htrace⟩⟩ :=
    device.trace_stage (pllWrites pipe solution) state (.done (.ok (), state)) handler hardware
  · rw [htrace, List.append_assoc, List.mem_append, Event.write_mem_writes]
    refine or_iff_left fun hmem ↦ ?_
    rcases List.mem_append.mp hmem with hpoll | hidle
    · exact hpolls statuses hpoll
    · cases List.mem_singleton.mp hidle
  · rw [htrace, List.mem_append, Event.write_mem_writes]
    refine or_iff_left fun hmem ↦ ?_
    rcases List.mem_append.mp hmem with hpoll | hnote
    · exact hpolls statuses hpoll
    · cases List.mem_singleton.mp hnote

/-- Each divider of the setting is put in its register. -/
theorem programPll_puts :
    let events := ((programPll device pipe solution).start state).trace handler hardware
    Puts (pipe.pll .reference) solution.reference events ∧
      Puts (pipe.pll .feedback)
        ((⟨0⟩ : Feedback).setMultiplier solution.multiplier.toUInt8).raw events ∧
      Puts (pipe.pll .post) solution.post events := by
  simp only [Puts, write_mem_programPll, pllWrites, dividerWrites]
  cases pipe <;> simp [Pipe.pll, clockSource]

end Programmed

/-- From 25000 kHz on, a setting that is found is off by less than half a percent, and programming a
PLL with it gives the divider registers values that make its clock. -/
theorem programPll_accurate {target : UInt32} {solution : Pll.Solution} (hlow : 25000 ≤ target)
    (hsolution : Pll.synthesize {} target = .ok solution) :
    200 * solution.error target < target.toNat ∧
      ∀ (device : Device) (pipe : Pipe) {σ τ : Type} (state : σ)
        (handler : Handler Access.signature τ) (hardware : τ),
        let events := ((programPll device pipe solution).start state).trace handler hardware
        ∃ reference feedback post, Puts (pipe.pll .reference) reference events ∧
          Puts (pipe.pll .feedback) feedback events ∧ Puts (pipe.pll .post) post events ∧
          dividedClock reference feedback post = solution.achieved.toNat := by
  refine ⟨Pll.error_lt_of_synthesize hlow hsolution,
    fun device pipe _ _ state handler hardware ↦ ?_⟩
  obtain ⟨hreference, hfeedback, hpost⟩ :=
    programPll_puts device pipe solution state handler hardware
  refine ⟨_, _, _, hreference, hfeedback, hpost, ?_⟩
  rw [dividedClock, Feedback.multiplier_set, Pll.toNat_toUInt8_multiplier hsolution]
  exact (Pll.optimal_of_synthesize hsolution).offered.admitted.achieved.symm

/-- For 268876 kHz the nearest clock is 1124 kHz off, which is more than four in a thousand. -/
theorem programPll_accurate_farthest :
    200 * 1124 < 268876 ∧ ∃ reference feedback post,
      let events := ((programPll ⟨⟨0x7146, "RV515", .rv515, false⟩, {}⟩ .second
        ⟨2, 240, 12, 270000⟩).start ()).trace RegisterFile.port .cleared
      Puts (Pipe.second.pll .reference) reference events ∧
        Puts (Pipe.second.pll .feedback) feedback events ∧
        Puts (Pipe.second.pll .post) post events ∧
        dividedClock reference feedback post = 270000 := by
  have hfound : Pll.synthesize {} 268876 = .ok ⟨2, 240, 12, 270000⟩ := by decide +kernel
  obtain ⟨herror, hputs⟩ := programPll_accurate (by decide) hfound
  exact ⟨herror, hputs _ _ _ _ _⟩

end Scanout.Pipe
