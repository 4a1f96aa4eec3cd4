import Scanout.Proofs.Program.Trace

/-!
A contract says what a program may count on from the other side of its interface. `Program.Meets`
is the weakest precondition over it: whatever the contract leaves open, the program ends in the
postcondition.

Four contracts matter. `Contract.of` is exactly one handler, and meeting it is a fact about the run
(`meets_of_iff`). `Contract.asking` leaves every answer open and restricts the requests instead, so
meeting it bounds what appears in any trace at all (`Meets.asks`). `Contract.watching` leaves every
answer open as well and folds a view of the exchanges, so meeting it is a fact about every trace
(`Meets.watched`). `Contract.granting` leaves some answers out, so meeting it is a fact about the
runs in which they are not given (`Meets.granted`).
-/

set_option autoImplicit false
set_option relaxedAutoImplicit false

namespace Scanout

/-- What a program may count on. `after request state goal` means that `goal` holds of every
answer to the request, and of every state it can leave, that has to be reckoned with. -/
structure Contract (S : Signature) (σ : Type) where
  after : (request : S.Request) → σ → (S.Answer request → σ → Prop) → Prop
  mono : ∀ {request : S.Request} {state : σ} {weak strong : S.Answer request → σ → Prop},
    (∀ answer left, strong answer left → weak answer left) →
      after request state strong → after request state weak

namespace Contract

variable {S : Signature} {σ : Type}

/-- Exactly what a handler does. -/
def of (handler : Handler S σ) : Contract S σ where
  after request state goal :=
    goal (handler.answer request state).1 (handler.answer request state).2
  mono himp := himp _ _

/-- Every request satisfies a predicate, and anything may be answered. -/
def asking (asks : S.Request → Prop) : Contract S Unit where
  after request _ goal := asks request ∧ ∀ answer, goal answer ()
  mono himp := fun ⟨hasks, hgoal⟩ ↦ ⟨hasks, fun answer ↦ himp answer () (hgoal answer)⟩

/-- Anything may be answered that makes an exchange of a kind. -/
def granting (grants : Exchange S → Prop) : Contract S Unit where
  after request _ goal := ∀ answer, grants ⟨request, answer⟩ → goal answer ()
  mono himp := fun hgoal answer hgrants ↦ himp answer () (hgoal answer hgrants)

/-- Anything may be answered, and a view keeps up with the exchanges. -/
def watching (see : σ → Exchange S → σ) : Contract S σ where
  after request view goal := ∀ answer, goal answer (see view ⟨request, answer⟩)
  mono himp := fun hgoal answer ↦ himp answer _ (hgoal answer)

end Contract

namespace Program

variable {S : Signature} {α β σ τ : Type}

/-- Under the contract, the program ends in the postcondition. -/
def Meets (contract : Contract S σ) (post : α → σ → Prop) : Program S α → σ → Prop
  | done value, state => post value state
  | ask request next, state =>
    contract.after request state fun answer left ↦ (next answer).Meets contract post left

variable {contract : Contract S σ} {post weaker : α → σ → Prop}

@[simp] theorem meets_done (value : α) (state : σ) :
    (done value : Program S α).Meets contract post state ↔ post value state := Iff.rfl

theorem meets_ask (request : S.Request) (next : S.Answer request → Program S α) (state : σ) :
    (ask request next).Meets contract post state ↔
      contract.after request state fun answer left ↦ (next answer).Meets contract post left :=
  Iff.rfl

theorem Meets.mono {program : Program S α} {state : σ}
    (hmeets : program.Meets contract post state)
    (himp : ∀ value left, post value left → weaker value left) :
    program.Meets contract weaker state := by
  induction program generalizing state with
  | done value => exact himp value state hmeets
  | ask request next ih =>
    exact contract.mono (fun answer left hnext ↦ ih answer hnext) hmeets

theorem meets_bind (program : Program S α) (rest : α → Program S β) (goal : β → σ → Prop)
    (state : σ) :
    (program.bind rest).Meets contract goal state ↔
      program.Meets contract (fun value left ↦ (rest value).Meets contract goal left) state := by
  induction program generalizing state with
  | done value => rfl
  | ask request next ih =>
    constructor
    · exact contract.mono fun answer left ↦ (ih answer left).mp
    · exact contract.mono fun answer left ↦ (ih answer left).mpr

/-- A sequence is checked at the point between its parts. -/
theorem Meets.bind {program : Program S α} {rest : α → Program S β} {goal : β → σ → Prop}
    {state : σ} (hmeets : program.Meets contract post state)
    (hrest : ∀ value left, post value left → (rest value).Meets contract goal left) :
    (program.bind rest).Meets contract goal state :=
  (meets_bind program rest goal state).mpr (hmeets.mono hrest)

theorem meets_of_iff (handler : Handler S σ) (program : Program S α) (state : σ) :
    program.Meets (.of handler) post state ↔
      post (program.run handler state).1 (program.run handler state).2 := by
  induction program generalizing state with
  | done value => rfl
  | ask request next ih =>
    rw [meets_ask, run_ask]
    exact ih _ _

/-- What holds whatever is answered holds of every play: of its requests, and of its value. -/
theorem Meets.plays {asks : S.Request → Prop} {goal : α → Unit → Prop} {program : Program S α}
    (hmeets : program.Meets (.asking asks) goal ()) {exchanges : List (Exchange S)} {value : α}
    (hplays : program.Plays exchanges value) :
    (∀ exchange ∈ exchanges, asks exchange.request) ∧ goal value () := by
  induction program generalizing exchanges with
  | done out =>
    obtain ⟨rfl, rfl⟩ := (plays_done _ _ _).mp hplays
    exact ⟨fun _ hmem ↦ absurd hmem List.not_mem_nil, hmeets⟩
  | ask request next ih =>
    obtain ⟨answer, rest, rfl, hrest⟩ := (plays_ask _ _ _ _).mp hplays
    obtain ⟨hasks, hgoal⟩ := ih answer (hmeets.2 answer) hrest
    exact ⟨List.forall_mem_cons.mpr ⟨hmeets.1, hasks⟩, hgoal⟩

/-- A bound on the requests bounds every trace, whoever answers. -/
theorem Meets.asks {asks : S.Request → Prop} {goal : α → Unit → Prop} {program : Program S α}
    (hmeets : program.Meets (.asking asks) goal ()) (handler : Handler S τ) (state : τ) :
    ∀ exchange ∈ program.trace handler state, asks exchange.request :=
  (hmeets.plays (plays_trace handler program state)).1

/-- What holds whatever is answered holds of every run. -/
theorem Meets.returns {asks : S.Request → Prop} {goal : α → Unit → Prop} {program : Program S α}
    (hmeets : program.Meets (.asking asks) goal ()) (handler : Handler S τ) (state : τ) :
    goal (program.run handler state).1 () :=
  (hmeets.plays (plays_trace handler program state)).2

/-- What holds of the view whatever is answered holds of the view of every play. -/
theorem Meets.plays_watched {see : σ → Exchange S → σ} {program : Program S α} {view : σ}
    (hmeets : program.Meets (.watching see) post view) {exchanges : List (Exchange S)} {value : α}
    (hplays : program.Plays exchanges value) : post value (exchanges.foldl see view) := by
  induction program generalizing exchanges view with
  | done out =>
    obtain ⟨rfl, rfl⟩ := (plays_done _ _ _).mp hplays
    exact hmeets
  | ask request next ih =>
    obtain ⟨answer, rest, rfl, hrest⟩ := (plays_ask _ _ _ _).mp hplays
    exact ih answer (hmeets answer) hrest

/-- The same of the view of every trace. -/
theorem Meets.watched {see : σ → Exchange S → σ} {program : Program S α} {view : σ}
    (hmeets : program.Meets (.watching see) post view) (handler : Handler S τ) (state : τ) :
    post (program.run handler state).1 ((program.trace handler state).foldl see view) :=
  hmeets.plays_watched (plays_trace handler program state)

/-- What holds if all exchanges are of a kind holds of a run in which they are. -/
theorem Meets.granted {grants : Exchange S → Prop} {goal : α → Unit → Prop} {program : Program S α}
    (hmeets : program.Meets (.granting grants) goal ()) (handler : Handler S τ) (state : τ)
    (hgrants : ∀ exchange ∈ program.trace handler state, grants exchange) :
    goal (program.run handler state).1 () := by
  induction program generalizing state with
  | done value => exact hmeets
  | ask request next ih =>
    rw [trace_ask, List.forall_mem_cons] at hgrants
    exact ih _ (hmeets _ hgrants.1) _ hgrants.2

theorem meets_granting (grants : Exchange S → Prop) (program : Program S α) :
    program.Meets (.granting grants) (fun _ _ ↦ True) () := by
  induction program with
  | done value => trivial
  | ask request next ih => exact fun answer _ ↦ ih answer

theorem Meets.of_asking {asks : S.Request → Prop} {goal : α → Unit → Prop} {program : Program S α}
    (hmeets : program.Meets (.asking asks) goal ()) (handler : Handler S τ) (state : τ) :
    program.Meets (.of handler) (fun value _ ↦ goal value ()) state :=
  (meets_of_iff handler program state).mpr (hmeets.returns handler state)

/-- A narrower bound on the requests is a bound on them. -/
theorem Meets.widen {narrow wide : S.Request → Prop} {goal : α → Unit → Prop}
    {program : Program S α} (hmeets : program.Meets (.asking narrow) goal ())
    (himp : ∀ request, narrow request → wide request) :
    program.Meets (.asking wide) goal () := by
  induction program with
  | done value => exact hmeets
  | ask request next ih =>
    exact ⟨himp request hmeets.1, fun answer ↦ ih answer (hmeets.2 answer)⟩

/-- What every request keeps that may be made, the program keeps. -/
theorem Meets.preserves {asks : S.Request → Prop} {goal : α → Unit → Prop} {program : Program S α}
    (hmeets : program.Meets (.asking asks) goal ()) {invariant : σ → Prop}
    (hkeeps : ∀ request state, asks request → invariant state →
      contract.after request state fun _ left ↦ invariant left) {state : σ}
    (hstate : invariant state) :
    program.Meets contract (fun _ left ↦ invariant left) state := by
  induction program generalizing state with
  | done value => exact hstate
  | ask request next ih =>
    refine contract.mono (fun answer left hleft ↦ ?_) (hkeeps request state hmeets.1 hstate)
    exact ih answer (hmeets.2 answer) hleft

/-- Nothing is asked of a program that may request anything. -/
theorem meets_anything (program : Program S α) :
    program.Meets (.asking fun _ ↦ True) (fun _ _ ↦ True) () := by
  induction program with
  | done value => trivial
  | ask request next ih => exact ⟨trivial, ih⟩

theorem Meets.done {value : α} {state : σ} (hpost : post value state) :
    (Program.done value : Program S α).Meets contract post state :=
  hpost

theorem Meets.ask {asks : S.Request → Prop} {goal : α → Unit → Prop} {request : S.Request}
    {next : S.Answer request → Program S α} (hrequest : asks request)
    (hnext : ∀ answer, (next answer).Meets (.asking asks) goal ()) :
    (Program.ask request next).Meets (.asking asks) goal () :=
  ⟨hrequest, hnext⟩

/-- Whatever is answered, the program ends in a value that satisfies the goal. -/
abbrev Returns (goal : α → Prop) (program : Program S α) : Prop :=
  program.Meets (.asking fun _ ↦ True) (fun value _ ↦ goal value) ()

theorem Returns.done {goal : α → Prop} {value : α} (hgoal : goal value) :
    (Program.done value : Program S α).Returns goal :=
  Meets.done hgoal

theorem Returns.ask {goal : α → Prop} {request : S.Request}
    {next : S.Answer request → Program S α} (hnext : ∀ answer, (next answer).Returns goal) :
    (Program.ask request next).Returns goal :=
  Meets.ask trivial hnext

theorem Returns.bind {goal : α → Prop} {final : β → Prop} {program : Program S α}
    {rest : α → Program S β} (hprogram : program.Returns goal)
    (hrest : ∀ value, goal value → (rest value).Returns final) :
    (program.bind rest).Returns final :=
  Meets.bind hprogram fun value _ hgoal ↦ hrest value hgoal

/-- Where the rest returns a value of the kind, it does not matter what came before. -/
theorem Returns.after {final : β → Prop} (program : Program S α) {rest : α → Program S β}
    (hrest : ∀ value, (rest value).Returns final) : (program.bind rest).Returns final :=
  Meets.bind program.meets_anything fun value _ _ ↦ hrest value

theorem Meets.asking_returns {asks : S.Request → Prop} {goal : α → Prop} {program : Program S α}
    (hmeets : program.Meets (.asking asks) (fun value _ ↦ goal value) ()) :
    program.Returns goal :=
  hmeets.widen fun _ _ ↦ trivial

-- A program of a whole operation is too large to be unfolded by accident.
attribute [irreducible] Meets

end Program

end Scanout
