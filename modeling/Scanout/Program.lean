/-!
# Programs over a signature of requests

A `Signature` lists the requests a program may make and the type of each answer. A `Program` is
either done or asks one request and goes on with the answer; it is data, so what it would do
under every possible answer is there to be read. A `Handler` answers requests from a state of
its own and `Program.run` plays the two against each other; `Program.interpret` carries a program
into any monad that has an action for every request, which is how one layer of requests is
realised by the layer below.

The main statements are `run_bind` and `interpret_bind`: running or interpreting a sequence is
doing its parts in turn.
-/

set_option autoImplicit false
set_option relaxedAutoImplicit false

namespace Scanout

/-- The requests of an interface and the type of the answer to each. -/
structure Signature where
  Request : Type
  Answer : Request → Type

/-- A finite interaction with an interface, branching on every possible answer. -/
inductive Program (S : Signature) (α : Type) : Type where
  | done (value : α)
  | ask (request : S.Request) (next : S.Answer request → Program S α)

namespace Program

variable {S : Signature} {α β γ σ : Type}

/-- The program that goes on with `rest` where `first` is done. -/
def bind : Program S α → (α → Program S β) → Program S β
  | done value, rest => rest value
  | ask request next, rest => ask request fun answer => (next answer).bind rest

/-- The program that makes one request and returns its answer. -/
def perform (request : S.Request) : Program S (S.Answer request) :=
  ask request done

instance : Monad (Program S) where
  pure := done
  bind := bind

@[simp] theorem pure_eq (value : α) : (pure value : Program S α) = done value := rfl

@[simp] theorem bind_eq (program : Program S α) (rest : α → Program S β) :
    program >>= rest = program.bind rest := rfl

@[simp] theorem done_bind (value : α) (rest : α → Program S β) :
    (done value : Program S α).bind rest = rest value := rfl

@[simp] theorem ask_bind (request : S.Request) (next : S.Answer request → Program S α)
    (rest : α → Program S β) :
    (ask request next).bind rest = ask request fun answer => (next answer).bind rest := rfl

theorem bind_done (program : Program S α) : program.bind done = program := by
  induction program with
  | done value => rfl
  | ask request next ih => simp [ih]

theorem bind_bind (program : Program S α) (f : α → Program S β) (g : β → Program S γ) :
    (program.bind f).bind g = program.bind fun value => (f value).bind g := by
  induction program with
  | done value => rfl
  | ask request next ih => simp [ih]

instance : LawfulMonad (Program S) := LawfulMonad.mk' (Program S)
  (fun program => bind_done program) (fun _ _ => rfl) bind_bind

end Program

/-- A device that answers every request of a signature out of a state. -/
structure Handler (S : Signature) (σ : Type) where
  answer : (request : S.Request) → σ → S.Answer request × σ

namespace Program

variable {S : Signature} {α β σ : Type}

/-- The result of a program against a handler, and the state the handler is left in. -/
def run (handler : Handler S σ) : Program S α → σ → α × σ
  | done value, state => (value, state)
  | ask request next, state =>
    (next (handler.answer request state).1).run handler (handler.answer request state).2

@[simp] theorem run_done (handler : Handler S σ) (value : α) (state : σ) :
    (done value : Program S α).run handler state = (value, state) := rfl

theorem run_ask (handler : Handler S σ) (request : S.Request)
    (next : S.Answer request → Program S α) (state : σ) :
    (ask request next).run handler state =
      (next (handler.answer request state).1).run handler (handler.answer request state).2 := rfl

/-- A sequence runs as its first part, then its rest from the state that was left. -/
theorem run_bind (handler : Handler S σ) (program : Program S α) (rest : α → Program S β)
    (state : σ) :
    (program.bind rest).run handler state =
      (rest (program.run handler state).1).run handler (program.run handler state).2 := by
  induction program generalizing state with
  | done value => rfl
  | ask request next ih => simp [run_ask, ih]

/-- The program carried into a monad, one action for each request. -/
def interpret {m : Type → Type} [Monad m] (realise : (request : S.Request) → m (S.Answer request)) :
    Program S α → m α
  | done value => pure value
  | ask request next => do
    let answer ← realise request
    (next answer).interpret realise

theorem interpret_bind {m : Type → Type} [Monad m] [LawfulMonad m]
    (realise : (request : S.Request) → m (S.Answer request)) (program : Program S α)
    (rest : α → Program S β) :
    (program.bind rest).interpret realise =
      program.interpret realise >>= fun value => (rest value).interpret realise := by
  induction program with
  | done value => simp [interpret]
  | ask request next ih => simp [interpret, ih]

end Program

end Scanout
