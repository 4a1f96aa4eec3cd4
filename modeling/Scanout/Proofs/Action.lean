import Scanout.Display.Operation
import Scanout.Proofs.Checked
import Scanout.Proofs.Program.Contract

/-!
An action is a hardware program once its state is given. The `start` equations say which program
that is for every way of building an action, so that what an action does is read off a program of
accesses with no state or failure left in it.

`Action.Keeps` is an invariant between the cached state and the other side of the port that holds
whenever the action stops, also where it stops with a failure. It is kept by a sequence whose parts
keep it, so an operation is checked one line at a time.
-/

set_option autoImplicit false
set_option relaxedAutoImplicit false

namespace Scanout

namespace Action

variable {σ τ υ α β : Type}

/-- Go on with a value, or stay with a failure. -/
def follow (rest : α → Action σ β) :
    Except (Failure Error) α × σ → Hardware (Except (Failure Error) β × σ)
  | (.ok value, state) => (rest value).start state
  | (.error failure, state) => .done (.error failure, state)

@[simp] theorem follow_ok (rest : α → Action σ β) (value : α) (state : σ) :
    follow rest (.ok value, state) = (rest value).start state := rfl

@[simp] theorem follow_error (rest : α → Action σ β) (failure : Failure Error) (state : σ) :
    follow rest (.error failure, state) = .done (.error failure, state) := rfl

@[simp] theorem start_pure (value : α) (state : σ) :
    (pure value : Action σ α).start state = .done (.ok value, state) := rfl

theorem start_bind (action : Action σ α) (rest : α → Action σ β) (state : σ) :
    (action >>= rest).start state = (action.start state).bind (follow rest) := by
  simp only [start, ExceptT.run_bind, StateT.run_bind, Program.bind_eq]
  congr 1
  funext out
  obtain ⟨result, left⟩ := out
  cases result <;> rfl

@[simp] theorem start_lift (program : Hardware α) (state : σ) :
    (liftM program : Action σ α).start state =
      program.bind fun value ↦ .done (.ok value, state) := by
  show ((program.bind fun value ↦ .done (value, state)).bind
    fun out ↦ .done (Except.ok out.1, out.2)) = _
  rw [Program.bind_bind]
  rfl

@[simp] theorem start_lift_bind (program : Hardware α) (rest : α → Action σ β) (state : σ) :
    (liftM program >>= rest : Action σ β).start state =
      program.bind fun value ↦ (rest value).start state := by
  rw [start_bind, start_lift, Program.bind_bind]
  rfl

@[simp] theorem start_get (state : σ) :
    (get : Action σ σ).start state = .done (.ok state, state) := rfl

@[simp] theorem start_set (next state : σ) :
    (set next : Action σ PUnit).start state = .done (.ok ⟨⟩, next) := rfl

@[simp] theorem start_modify (change : σ → σ) (state : σ) :
    (modify change : Action σ PUnit).start state = .done (.ok ⟨⟩, change state) := rfl

@[simp] theorem start_get_bind (rest : σ → Action σ β) (state : σ) :
    (get >>= rest).start state = (rest state).start state := by
  rw [start_bind, start_get, Program.done_bind, follow_ok]

@[simp] theorem start_modify_bind (change : σ → σ) (rest : PUnit → Action σ β) (state : σ) :
    (modify change >>= rest).start state = (rest ⟨⟩).start (change state) := by
  rw [start_bind, start_modify, Program.done_bind, follow_ok]

@[simp] theorem start_settled (value : Except (Failure Error) α) (state : σ) :
    (settled value).start state = .done (value, state) := rfl

@[simp] theorem start_settled_bind (value : α) (rest : α → Action σ β) (state : σ) :
    (settled (.ok value) >>= rest).start state = (rest value).start state := by
  rw [start_bind, start_settled, Program.done_bind, follow_ok]

@[simp] theorem start_accepted (value : Except Error α) (state : σ) :
    (accepted value).start state = .done (Failure.ofError value, state) := rfl

@[simp] theorem start_accepted_bind (value : α) (rest : α → Action σ β) (state : σ) :
    (accepted (.ok value) >>= rest).start state = (rest value).start state :=
  start_settled_bind value rest state

@[simp] theorem start_checked (value : Except Fault α) (state : σ) :
    (checked value).start state = .done (Failure.ofFault value, state) := rfl

@[simp] theorem start_refuse (error : Error) (state : σ) :
    (refuse error : Action σ α).start state = .done (.error (.error error), state) := rfl

@[simp] theorem start_throw (failure : Failure Error) (state : σ) :
    (throw failure : Action σ α).start state = .done (.error failure, state) := rfl

theorem start_attempt (action : Action σ α) (state : σ) :
    action.attempt.start state =
      (action.start state).bind fun out ↦ .done (.ok out.1, out.2) :=
  rfl

/-- Wherever the action stops, the invariant holds if it did before. -/
def Keeps (contract : Contract Access.signature υ) (invariant : σ → υ → Prop)
    (action : Action σ α) : Prop :=
  ∀ state hardware, invariant state hardware →
    (action.start state).Meets contract (fun out left ↦ invariant out.2 left) hardware

namespace Keeps

variable {contract : Contract Access.signature υ} {invariant : σ → υ → Prop}

theorem pure (value : α) : Keeps contract invariant (pure value : Action σ α) :=
  fun _ _ hinvariant ↦ .done hinvariant

theorem refuse (error : Error) : Keeps contract invariant (refuse error : Action σ α) :=
  fun _ _ hinvariant ↦ .done hinvariant

theorem throw (failure : Failure Error) :
    Keeps contract invariant (throw failure : Action σ α) :=
  fun _ _ hinvariant ↦ .done hinvariant

theorem bind {action : Action σ α} {rest : α → Action σ β}
    (haction : Keeps contract invariant action)
    (hrest : ∀ value, Keeps contract invariant (rest value)) :
    Keeps contract invariant (action >>= rest) := by
  intro state hardware hinvariant
  rw [start_bind, Program.meets_bind]
  refine (haction state hardware hinvariant).mono ?_
  rintro ⟨result, state⟩ hardware hinvariant
  cases result with
  | ok value => exact hrest value state hardware hinvariant
  | error failure => exact .done hinvariant

/-- A state that was looked at satisfies the invariant together with some hardware. -/
theorem get_bind {rest : σ → Action σ β}
    (hrest : ∀ state, (∃ hardware, invariant state hardware) →
      Keeps contract invariant (rest state)) :
    Keeps contract invariant (get >>= rest) := by
  intro state hardware hinvariant
  rw [start_get_bind]
  exact hrest state ⟨hardware, hinvariant⟩ state hardware hinvariant

theorem settled_bind {value : Except (Failure Error) α} {rest : α → Action σ β}
    (hrest : ∀ result, value = .ok result → Keeps contract invariant (rest result)) :
    Keeps contract invariant (settled value >>= rest) := by
  intro state hardware hinvariant
  rw [start_bind, start_settled, Program.done_bind]
  cases value with
  | ok result => exact hrest result rfl state hardware hinvariant
  | error failure => exact .done hinvariant

theorem accepted_bind {value : Except Error α} {rest : α → Action σ β}
    (hrest : ∀ result, value = .ok result → Keeps contract invariant (rest result)) :
    Keeps contract invariant (accepted value >>= rest) := by
  show Keeps contract invariant (settled (Failure.ofError value) >>= rest)
  exact .settled_bind fun result hresult ↦ hrest result (Failure.ofError_eq_ok.mp hresult)

theorem checked (value : Except Fault α) :
    Keeps contract invariant (checked value : Action σ α) :=
  fun _ _ hinvariant ↦ .done hinvariant

theorem modify {change : σ → σ}
    (hchange : ∀ state hardware, invariant state hardware → invariant (change state) hardware) :
    Keeps contract invariant (modify change : Action σ PUnit) :=
  fun state hardware hinvariant ↦ .done (hchange state hardware hinvariant)

theorem lift {program : Hardware α}
    (hprogram : ∀ state hardware, invariant state hardware →
      program.Meets contract (fun _ left ↦ invariant state left) hardware) :
    Keeps contract invariant (liftM program : Action σ α) := by
  intro state hardware hinvariant
  rw [start_lift]
  exact (hprogram state hardware hinvariant).bind fun _ _ hleft ↦ .done hleft

theorem attempt {action : Action σ α} (haction : Keeps contract invariant action) :
    Keeps contract invariant action.attempt := by
  intro state hardware hinvariant
  rw [start_attempt]
  exact (haction state hardware hinvariant).bind fun _ _ hleft ↦ .done hleft

/-- What is kept under a bound on the requests is kept under a wider one. -/
theorem widen {narrow wide : Access.signature.Request → Prop} {invariant : σ → Unit → Prop}
    {action : Action σ α} (haction : Keeps (.asking narrow) invariant action)
    (himp : ∀ request, narrow request → wide request) : Keeps (.asking wide) invariant action :=
  fun state _ hinvariant ↦ (haction state () hinvariant).widen himp

/-- What is kept whatever is answered is kept under any handler. -/
theorem of_asking {asks : Access.signature.Request → Prop} {invariant : σ → Prop}
    {action : Action σ α} (haction : Keeps (.asking asks) (fun state _ ↦ invariant state) action)
    (handler : Handler Access.signature υ) :
    Keeps (.of handler) (fun state _ ↦ invariant state) action :=
  fun state hardware hinvariant ↦ (haction state () hinvariant).of_asking handler hardware

/-- A program over the port does not reach what is cached. -/
theorem lift_cached (handler : Handler Access.signature υ) {invariant : σ → Prop}
    (program : Hardware α) :
    Keeps (.of handler) (fun state _ ↦ invariant state) (liftM program : Action σ α) :=
  lift fun _ _ hinvariant ↦ (Program.meets_of_iff ..).mpr hinvariant

end Keeps

/-- Wherever it is started and whatever is answered, the action fails in no other way. -/
def FailsOnly (kind : Failure Error → Prop) (action : Action σ α) : Prop :=
  ∀ state, (action.start state).Returns fun out ↦ ∀ failure, out.1 = .error failure → kind failure

namespace FailsOnly

variable {kind : Failure Error → Prop}

theorem pure (value : α) : FailsOnly kind (pure value : Action σ α) :=
  fun _ ↦ .done (by rintro _ ⟨⟩)

theorem throw {failure : Failure Error} (hkind : kind failure) :
    FailsOnly kind (throw failure : Action σ α) := by
  refine fun _ ↦ .done ?_
  rintro _ ⟨⟩
  exact hkind

theorem bind {action : Action σ α} {rest : α → Action σ β} (haction : FailsOnly kind action)
    (hrest : ∀ value, FailsOnly kind (rest value)) : FailsOnly kind (action >>= rest) := by
  intro state
  rw [start_bind]
  refine (haction state).bind ?_
  rintro ⟨result, left⟩ hresult
  cases result with
  | ok value => exact hrest value left
  | error failure =>
    refine .done ?_
    rintro _ ⟨⟩
    exact hresult failure rfl

theorem get_bind {rest : σ → Action σ β} (hrest : ∀ state, FailsOnly kind (rest state)) :
    FailsOnly kind (get >>= rest) := by
  intro state
  rw [start_get_bind]
  exact hrest state state

theorem modify (change : σ → σ) : FailsOnly kind (modify change : Action σ PUnit) :=
  fun _ ↦ .done (by rintro _ ⟨⟩)

theorem set (next : σ) : FailsOnly kind (set next : Action σ PUnit) :=
  fun _ ↦ .done (by rintro _ ⟨⟩)

theorem lift (program : Hardware α) : FailsOnly kind (liftM program : Action σ α) := by
  intro state
  rw [start_lift]
  exact .after program fun _ ↦ .done (by rintro _ ⟨⟩)

/-- What was attempted has not failed; the rest learns how it would have. -/
theorem attempt_bind {inner : Failure Error → Prop} {action : Action σ α}
    {rest : Except (Failure Error) α → Action σ β} (haction : FailsOnly inner action)
    (hrest : ∀ result, (∀ failure, result = .error failure → inner failure) →
      FailsOnly kind (rest result)) :
    FailsOnly kind (action.attempt >>= rest) := by
  intro state
  rw [start_bind, start_attempt, Program.bind_bind]
  refine (haction state).bind fun out hout ↦ ?_
  rw [Program.done_bind, follow_ok]
  exact hrest out.1 hout out.2

theorem mono {wide : Failure Error → Prop} {action : Action σ α} (haction : FailsOnly kind action)
    (himp : ∀ failure, kind failure → wide failure) : FailsOnly wide action :=
  fun state ↦ (haction state).mono fun _ _ hout failure hfailure ↦ himp _ (hout failure hfailure)

end FailsOnly

end Action

end Scanout
