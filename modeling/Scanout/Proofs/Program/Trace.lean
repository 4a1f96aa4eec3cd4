import Scanout.Program

/-!
A program played against a handler leaves a trace: every request it made together with the answer
it got, oldest first. What is said about the order of accesses is said of traces, and it composes
along `bind` as the run does.

`Program.Plays` is the same with no handler at hand: these exchanges are what the program shows
under some answers. Every trace is one of its plays (`plays_trace`), and taking a play apart tells
all that a program can ever show.
-/

set_option autoImplicit false
set_option relaxedAutoImplicit false

namespace Scanout

/-- A request and the answer that was given to it. -/
structure Exchange (S : Signature) where
  request : S.Request
  answer : S.Answer request

instance {S : Signature} [DecidableEq S.Request] [∀ request, DecidableEq (S.Answer request)] :
    DecidableEq (Exchange S)
  | ⟨request, answer⟩, ⟨other, reply⟩ =>
    if hrequest : request = other then
      decidable_of_iff (hrequest ▸ answer = reply) (by subst hrequest; simp)
    else .isFalse fun heq ↦ hrequest (congrArg Exchange.request heq)

namespace Program

variable {S : Signature} {α β σ : Type}

/-- Every exchange of a program with a handler, oldest first. -/
def trace (handler : Handler S σ) : Program S α → σ → List (Exchange S)
  | done _, _ => []
  | ask request next, state =>
    ⟨request, (handler.answer request state).1⟩ ::
      (next (handler.answer request state).1).trace handler (handler.answer request state).2

@[simp] theorem trace_done (handler : Handler S σ) (value : α) (state : σ) :
    (done value : Program S α).trace handler state = [] := rfl

theorem trace_ask (handler : Handler S σ) (request : S.Request)
    (next : S.Answer request → Program S α) (state : σ) :
    (ask request next).trace handler state =
      ⟨request, (handler.answer request state).1⟩ ::
        (next (handler.answer request state).1).trace handler
          (handler.answer request state).2 := rfl

/-- The trace of a sequence is that of its first part, then that of the rest from the state that
was left. -/
theorem trace_bind (handler : Handler S σ) (program : Program S α) (rest : α → Program S β)
    (state : σ) :
    (program.bind rest).trace handler state =
      program.trace handler state ++
        (rest (program.run handler state).1).trace handler (program.run handler state).2 := by
  induction program generalizing state with
  | done value => rfl
  | ask request next ih =>
    rw [ask_bind, trace_ask, trace_ask, run_ask, ih, List.cons_append]

/-- With some answers the program shows these exchanges and ends in this value. -/
def Plays : Program S α → List (Exchange S) → α → Prop
  | done value, exchanges, out => exchanges = [] ∧ out = value
  | ask request next, exchanges, out =>
    ∃ answer rest, exchanges = ⟨request, answer⟩ :: rest ∧ (next answer).Plays rest out

theorem plays_done (value : α) (exchanges : List (Exchange S)) (out : α) :
    (done value : Program S α).Plays exchanges out ↔ exchanges = [] ∧ out = value := Iff.rfl

theorem plays_ask (request : S.Request) (next : S.Answer request → Program S α)
    (exchanges : List (Exchange S)) (out : α) :
    (ask request next).Plays exchanges out ↔
      ∃ answer rest, exchanges = ⟨request, answer⟩ :: rest ∧ (next answer).Plays rest out := Iff.rfl

/-- A single request shows itself with whatever is answered. -/
theorem plays_perform (request : S.Request) (exchanges : List (Exchange S))
    (answer : S.Answer request) :
    (ask request done).Plays exchanges answer ↔ exchanges = [⟨request, answer⟩] := by
  constructor
  · rintro ⟨_, _, rfl, rfl, rfl⟩
    rfl
  · rintro rfl
    exact ⟨answer, [], rfl, rfl, rfl⟩

/-- A play of a sequence is a play of its first part, then one of the rest. -/
theorem plays_bind (program : Program S α) (rest : α → Program S β)
    (exchanges : List (Exchange S)) (out : β) :
    (program.bind rest).Plays exchanges out ↔ ∃ early late value, exchanges = early ++ late ∧
      program.Plays early value ∧ (rest value).Plays late out := by
  induction program generalizing exchanges with
  | done value =>
    constructor
    · intro hrest
      exact ⟨[], exchanges, value, rfl, ⟨rfl, rfl⟩, hrest⟩
    · rintro ⟨_, late, _, rfl, ⟨rfl, rfl⟩, hrest⟩
      exact hrest
  | ask request next ih =>
    constructor
    · rintro ⟨answer, later, rfl, hlater⟩
      obtain ⟨early, late, value, rfl, hearly, hlate⟩ := (ih answer later).mp hlater
      exact ⟨⟨request, answer⟩ :: early, late, value, rfl, ⟨answer, early, rfl, hearly⟩, hlate⟩
    · rintro ⟨_, late, value, rfl, ⟨answer, early, rfl, hearly⟩, hlate⟩
      exact ⟨answer, early ++ late, rfl,
        (ih answer (early ++ late)).mpr ⟨early, late, value, rfl, hearly, hlate⟩⟩

/-- The trace against a handler is a play. -/
theorem plays_trace (handler : Handler S σ) (program : Program S α) (state : σ) :
    program.Plays (program.trace handler state) (program.run handler state).1 := by
  induction program generalizing state with
  | done value => exact ⟨rfl, rfl⟩
  | ask request next ih => exact ⟨_, _, rfl, ih _ _⟩

-- A program of a whole operation is too large to be unfolded by accident.
attribute [irreducible] Plays

end Program

end Scanout
