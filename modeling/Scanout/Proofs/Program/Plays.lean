import Scanout.Proofs.Program.Trace

/-!
Programs with a state, and with failures. How the plays of such a program come apart is said once
for each way of building it: a step is a program over a state, and an exchange a step that may fail
and then leaves out the rest.
-/

set_option autoImplicit false
set_option relaxedAutoImplicit false

namespace Scanout

variable {S : Signature} {σ ε α β : Type} {state : σ} {exchanges : List (Exchange S)}

theorem plays_step_bind (step : StateT σ (Program S) α) (rest : α → StateT σ (Program S) β)
    (out : β × σ) :
    ((step >>= rest).run state).Plays exchanges out ↔ ∃ early late value middle,
      exchanges = early ++ late ∧ (step.run state).Plays early (value, middle) ∧
        ((rest value).run middle).Plays late out := by
  rw [StateT.run_bind, Program.bind_eq, Program.plays_bind]
  simp only [Prod.exists]

theorem plays_step_pure (value : α) (out : α × σ) :
    ((pure value : StateT σ (Program S) α).run state).Plays exchanges out ↔
      exchanges = [] ∧ out = (value, state) :=
  Program.plays_done _ _ _

theorem plays_step_lift (program : Program S α) (out : α × σ) :
    ((liftM program : StateT σ (Program S) α).run state).Plays exchanges out ↔
      program.Plays exchanges out.1 ∧ out.2 = state := by
  refine (Program.plays_bind program (fun value ↦ .done (value, state)) _ _).trans ?_
  simp only [Program.plays_done]
  constructor
  · rintro ⟨early, _, value, rfl, hprogram, rfl, rfl⟩
    exact ⟨by rwa [List.append_nil], rfl⟩
  · rintro ⟨hprogram, hkept⟩
    exact ⟨exchanges, [], out.1, by simp, hprogram, rfl, by rw [← hkept]⟩

theorem plays_step_modify (change : σ → σ) (out : Unit × σ) :
    ((modify change : StateT σ (Program S) Unit).run state).Plays exchanges out ↔
      exchanges = [] ∧ out = ((), change state) :=
  Program.plays_done _ _ _

theorem plays_exchange_pure (value : α) (result : Except ε α) (left : σ) :
    ((pure value : ExceptT ε (StateT σ (Program S)) α).run.run state).Plays exchanges
        (result, left) ↔ exchanges = [] ∧ result = .ok value ∧ left = state :=
  (Program.plays_done _ _ _).trans (by rw [Prod.mk.injEq])

theorem plays_exchange_throw (cause : ε) (result : Except ε α) (left : σ) :
    ((throw cause : ExceptT ε (StateT σ (Program S)) α).run.run state).Plays exchanges
        (result, left) ↔ exchanges = [] ∧ result = .error cause ∧ left = state :=
  (Program.plays_done _ _ _).trans (by rw [Prod.mk.injEq])

/-- A play of two exchanges is one of each, or ends in the failure of the first. -/
theorem plays_exchange_bind (exchange : ExceptT ε (StateT σ (Program S)) α)
    (rest : α → ExceptT ε (StateT σ (Program S)) β) (result : Except ε β) (left : σ) :
    ((exchange >>= rest).run.run state).Plays exchanges (result, left) ↔
      (∃ early late value middle, exchanges = early ++ late ∧
        (exchange.run.run state).Plays early (.ok value, middle) ∧
          ((rest value).run.run middle).Plays late (result, left)) ∨
      ∃ cause, (exchange.run.run state).Plays exchanges (.error cause, left) ∧
        result = .error cause := by
  rw [ExceptT.run_bind, plays_step_bind]
  constructor
  · rintro ⟨early, late, value, middle, rfl, hfirst, hrest⟩
    cases value with
    | ok value => exact .inl ⟨early, late, value, middle, rfl, hfirst, hrest⟩
    | error cause =>
      obtain ⟨rfl, heq⟩ := (plays_step_pure _ _).mp hrest
      obtain ⟨rfl, rfl⟩ := Prod.mk.inj heq
      exact .inr ⟨cause, by rwa [List.append_nil], rfl⟩
  · rintro (⟨early, late, value, middle, rfl, hfirst, hrest⟩ | ⟨cause, hfirst, rfl⟩)
    · exact ⟨early, late, .ok value, middle, rfl, hfirst, hrest⟩
    · exact ⟨exchanges, [], .error cause, left, by simp, hfirst,
        (plays_step_pure _ _).mpr ⟨rfl, rfl⟩⟩

theorem plays_exchange_step (step : StateT σ (Program S) α) (result : Except ε α) (left : σ) :
    ((liftM step : ExceptT ε (StateT σ (Program S)) α).run.run state).Plays exchanges
        (result, left) ↔
      ∃ value, (step.run state).Plays exchanges (value, left) ∧ result = .ok value := by
  show ((step >>= fun value ↦ pure (.ok value) :
    StateT σ (Program S) (Except ε α)).run state).Plays _ _ ↔ _
  rw [plays_step_bind]
  simp only [plays_step_pure, Prod.mk.injEq]
  constructor
  · rintro ⟨early, _, value, middle, rfl, hstep, rfl, rfl, rfl⟩
    exact ⟨value, by rwa [List.append_nil], rfl⟩
  · rintro ⟨value, hstep, rfl⟩
    exact ⟨exchanges, [], value, left, by simp, hstep, rfl, rfl, rfl⟩

theorem plays_exchange_lift (program : Program S α) (result : Except ε α) (left : σ) :
    ((liftM program : ExceptT ε (StateT σ (Program S)) α).run.run state).Plays exchanges
        (result, left) ↔
      ∃ value, program.Plays exchanges value ∧ left = state ∧ result = .ok value := by
  refine (plays_exchange_step (liftM program : StateT σ (Program S) α) result left).trans ?_
  simp only [plays_step_lift, and_assoc]

/-- A step does not fail, so the exchange goes on after it. -/
theorem plays_exchange_step_bind (step : StateT σ (Program S) α)
    (rest : α → ExceptT ε (StateT σ (Program S)) β) (out : Except ε β × σ) :
    (((liftM step : ExceptT ε (StateT σ (Program S)) α) >>= rest).run.run state).Plays
        exchanges out ↔
      ∃ early late value middle, exchanges = early ++ late ∧
        (step.run state).Plays early (value, middle) ∧
          ((rest value).run.run middle).Plays late out := by
  obtain ⟨result, left⟩ := out
  simp only [plays_exchange_bind, plays_exchange_step]
  constructor
  · rintro (⟨early, late, value, middle, rfl, ⟨_, hstep, heq⟩, hrest⟩ | ⟨_, ⟨_, _, heq⟩, _⟩)
    · rw [← Except.ok.inj heq] at hstep
      exact ⟨early, late, value, middle, rfl, hstep, hrest⟩
    · cases heq
  · rintro ⟨early, late, value, middle, rfl, hstep, hrest⟩
    exact .inl ⟨early, late, value, middle, rfl, ⟨value, hstep, rfl⟩, hrest⟩

theorem plays_exchange_lift_bind (program : Program S α)
    (rest : α → ExceptT ε (StateT σ (Program S)) β) (out : Except ε β × σ) :
    (((liftM program : ExceptT ε (StateT σ (Program S)) α) >>= rest).run.run state).Plays
        exchanges out ↔
      ∃ early late value, exchanges = early ++ late ∧ program.Plays early value ∧
        ((rest value).run.run state).Plays late out := by
  refine (plays_exchange_step_bind (liftM program : StateT σ (Program S) α) rest out).trans ?_
  simp only [plays_step_lift]
  constructor
  · rintro ⟨early, late, value, _, rfl, ⟨hprogram, rfl⟩, hrest⟩
    exact ⟨early, late, value, rfl, hprogram, hrest⟩
  · rintro ⟨early, late, value, rfl, hprogram, hrest⟩
    exact ⟨early, late, value, state, rfl, ⟨hprogram, rfl⟩, hrest⟩

end Scanout
