import Scanout.Proofs.Display.Ending
import Scanout.Proofs.Display.Footprint
import Scanout.Proofs.I2c.Outcome

/-!
A request that is turned down leaves no trace. Every call is one of two kinds from the state it is
made in: it is turned down outright, before the device is looked at, or it is never turned down
at all. What is checked again half way cannot fail any more by then, since it was checked of the
same request before; a mode set that has begun therefore ends with success or with a lockup.
-/

set_option autoImplicit false
set_option relaxedAutoImplicit false

namespace Scanout

open Register

/-- The error is about what was asked for: the caller got it wrong, or no PLL setting reaches its
clock. -/
def Error.IsRejection (cause : Error) : Prop :=
  cause.category = .precondition ∨ ∃ target, cause = .noPllSolution target

/-- The failure is about what was asked for. -/
def Failure.IsRejection : Failure Error → Prop
  | .error cause => cause.IsRejection
  | .fault _ => False

theorem Device.lockup_not_rejection (device : Device) (status : UInt32) :
    ¬(device.lockup status).IsRejection := by
  rintro (hcategory | ⟨target, heq⟩)
  · cases hcategory
  · cases heq

theorem I2c.OnBus.not_rejection {α : Type} {cause : I2c.Error}
    (hbus : I2c.OnBus (.error cause : Except I2c.Error α)) : ¬(Error.i2c cause).IsRejection := by
  rintro (hcategory | ⟨target, heq⟩)
  · rw [Error.category, hbus cause rfl] at hcategory
    cases hcategory
  · cases heq

/-- Nothing but notes: no register is accessed, and nothing is waited for. -/
def Untouched (events : List Event) : Prop :=
  ∀ event ∈ events, ∃ entry, event = Event.note entry

/-- The action is never turned down. -/
abbrev Action.IsCommitted {σ α : Type} (action : Action σ α) : Prop :=
  action.FailsOnly fun failure ↦ ¬failure.IsRejection

/-- Turned down outright: some notes, then a failure in the state it started in. -/
inductive TurnedDown {σ α : Type} (state : σ) :
    Hardware (Except (Failure Error) α × σ) → Prop where
  | refused (failure : Failure Error) : TurnedDown state (.done (.error failure, state))
  | noted (entry : Log.Entry) {rest : Hardware (Except (Failure Error) α × σ)} :
    TurnedDown state rest → TurnedDown state (.ask (.note entry) fun _ ↦ rest)

namespace TurnedDown

variable {σ υ α β : Type} {state : σ} {program : Hardware (Except (Failure Error) α × σ)}

theorem untouched (hdown : TurnedDown state program) (handler : Handler Access.signature υ)
    (hardware : υ) :
    Untouched (program.trace handler hardware) ∧
      (program.run handler hardware).1.2 = state := by
  induction hdown generalizing hardware with
  | refused failure => exact ⟨fun _ hevent ↦ absurd hevent List.not_mem_nil, rfl⟩
  | noted entry _ ih =>
    obtain ⟨hrest, hstate⟩ := ih (handler.answer (.note entry) hardware).2
    rw [Untouched, Program.trace_ask, List.forall_mem_cons]
    exact ⟨⟨⟨entry, rfl⟩, hrest⟩, hstate⟩

/-- What would have followed a success does not matter. -/
theorem follow (hdown : TurnedDown state program) (rest : α → Action σ β) :
    TurnedDown state (program.bind (Action.follow rest)) := by
  induction hdown with
  | refused failure => exact .refused failure
  | noted entry _ ih => exact .noted entry ih

end TurnedDown

/-- From this state the action is turned down outright, or it is never turned down. -/
def Action.Decides {σ α : Type} (action : Action σ α) (state : σ) : Prop :=
  TurnedDown state (action.start state) ∨
    (action.start state).Returns fun out ↦
      ∀ failure, out.1 = .error failure → ¬failure.IsRejection

namespace Action.Decides

variable {σ α β : Type} {state : σ}

theorem refuse (error : Error) : (Action.refuse error : Action σ α).Decides state :=
  .inl (.refused _)

theorem committed {action : Action σ α} (haction : action.IsCommitted) : action.Decides state :=
  .inr (haction state)

/-- It is decided before the rest begins, which is never turned down. -/
theorem bind {action : Action σ α} {rest : α → Action σ β} (haction : action.Decides state)
    (hrest : ∀ value, (rest value).IsCommitted) : (action >>= rest).Decides state := by
  rw [Decides, start_bind]
  rcases haction with hdown | hreturns
  · exact .inl (hdown.follow rest)
  · refine .inr (hreturns.bind ?_)
    rintro ⟨result, left⟩ hresult
    cases result with
    | ok value => exact hrest value left
    | error failure =>
      refine .done ?_
      rintro _ ⟨⟩
      exact hresult failure rfl

theorem get_bind {rest : σ → Action σ β} (hrest : (rest state).Decides state) :
    (get >>= rest).Decides state := by
  rwa [Decides, start_get_bind]

theorem accepted_bind {value : Except Error α} {rest : α → Action σ β}
    (hrest : ∀ result, value = .ok result → (rest result).Decides state) :
    (Action.accepted value >>= rest).Decides state := by
  cases value with
  | ok result => exact hrest result rfl
  | error cause => exact .inl (.refused _)

end Action.Decides

/-!
What is never turned down: a lockup is not about what was asked for.
-/

/-- What only fails with a lockup is never turned down. -/
theorem Action.FailsOnly.committed {σ α : Type} {action : Action σ α}
    (haction : action.OnlyLocksUp) : action.IsCommitted := by
  refine haction.mono ?_
  rintro _ ⟨polls, status, rfl⟩ (hcategory | ⟨target, heq⟩)
  · cases hcategory
  · cases heq

namespace Display

variable {display : Display} {pipe : Pipe} {request : Request} {plan : Pipe.Plan}

/-- An output that exists is changed without further ado. -/
theorem onOutput_decides (id : Output.Id) (change : Output.View → Hardware Output.View)
    (display : Display) : (onOutput id change).Decides display := by
  cases hfound : display.output? id with
  | none =>
    rw [Action.Decides, onOutput, Action.start_get_bind, hfound]
    exact .inl (.refused _)
  | some view =>
    rw [Action.Decides, start_onOutput hfound]
    exact .inr (.after _ fun _ ↦ .done (by rintro _ ⟨⟩))

/-- Once it has a plan, a mode set is not turned down any more. -/
theorem applyMode_committed (hplan : display.plan pipe request = .ok plan) :
    ((applyMode pipe request).start display).Returns fun out ↦
      ∀ failure, out.1 = .error failure → ¬failure.IsRejection := by
  rw [start_applyMode hplan]
  refine .ask fun _ ↦ .ask fun _ ↦ (program_ended (accepted_of_plan hplan)).bind ?_
  rintro ⟨result, left⟩ (hok | ⟨status, hstuck⟩)
  · cases hok
    exact .ask fun _ ↦ .done (by rintro _ ⟨⟩)
  · cases hstuck
    -- A lockup is fatal, and it is what is reported after the replay.
    have hreport : (recover pipe >>= fun _ ↦ Action.refuse
        (.lockup display.device.config.idlePolls status) : Action Display Unit).IsCommitted :=
      .bind ((recover_neverFails pipe).mono fun _ ↦ False.elim) fun _ ↦
        .throw (display.device.lockup_not_rejection status)
    have hstart := hreport left
    rwa [Action.start_bind] at hstart

theorem applyMode_decides (pipe : Pipe) (request : Request) (display : Display) :
    (applyMode pipe request).Decides display := by
  cases hplan : display.plan pipe request with
  | error failure =>
    rw [Action.Decides, start_applyMode_of_error hplan]
    exact .inl (.noted _ (.refused failure))
  | ok plan => exact .inr (applyMode_committed hplan)

/-- A monitor is out of reach from the start, or what its transport returns is passed on. -/
theorem withDdc_cases {α : Type} (id : Output.Id)
    (talk : {m : Type → Type} → [Monad m] → Edid.Bus m → m α) (goal : α → Prop)
    (htalk : ∀ {S : Signature} {bus : Edid.Bus (Program S)}, bus.IsOnBus → (talk bus).Returns goal)
    (display : Display) :
    TurnedDown display ((withDdc id talk).start display) ∨
      ((withDdc id talk).start display).Returns fun out ↦
        (∀ value, out.1 = .ok value → goal value) ∧
          ∀ failure, out.1 = .error failure → ¬failure.IsRejection := by
  rw [withDdc, Action.start_get_bind]
  cases display.ddc id with
  | error cause => exact .inl (.refused _)
  | ok channel =>
    rw [Action.start_accepted_bind]
    cases channel with
    | none => exact .inl (.refused _)
    | hardware connector =>
      dsimp only
      cases I2c.Controller.bind? display.device.config.controller connector with
      | error cause => exact .inl (.refused _)
      | ok controller =>
        refine .inr ?_
        rw [Action.start_lift]
        refine (htalk (Edid.Bus.ofController_onBus controller)).bind fun value hgoal ↦ .done ?_
        exact ⟨by rintro _ ⟨⟩; exact hgoal, by rintro _ ⟨⟩⟩
    | pads base =>
      refine .inr ?_
      rw [Action.start_lift_bind]
      have hwires := I2c.Pads.run_returns base
        (htalk (Edid.Bus.ofBitBang_onBus display.device.config.bitBang))
      refine (I2c.Pads.attach_bind_returns base (fun _ ↦ by rintro _ ⟨⟩) hwires).bind
        fun outcome houtcome ↦ .done ?_
      cases outcome with
      | ok value => exact ⟨by rintro _ ⟨⟩; exact houtcome value rfl, by rintro _ ⟨⟩⟩
      | error reason => exact ⟨by rintro _ ⟨⟩, by rintro _ ⟨⟩; exact not_false⟩

theorem probeDdc_decides (id : Output.Id) (display : Display) : (probeDdc id).Decides display :=
  (withDdc_cases id Edid.probe (fun _ ↦ True) (fun _ ↦ Program.meets_anything _) display).imp_right
    fun hreturns ↦ hreturns.mono fun _ _ hout ↦ hout.2

theorem readEdid_decides (id : Output.Id) (block : UInt8) (display : Display) :
    (readEdid id block).Decides display := by
  rw [Action.Decides, readEdid, Action.start_bind]
  rcases withDdc_cases id (fun bus ↦ Edid.readBlock bus block) I2c.OnBus
    (fun hbus ↦ Edid.readBlock_onBus hbus block) display with hdown | hreturns
  · exact .inl (hdown.follow _)
  · refine .inr (hreturns.bind ?_)
    rintro ⟨result, left⟩ ⟨hvalue, hfailure⟩
    cases result with
    | error failure =>
      refine .done ?_
      rintro _ ⟨⟩
      exact hfailure failure rfl
    | ok outcome =>
      rw [Action.follow_ok]
      cases outcome with
      | error cause => exact Action.FailsOnly.throw (hvalue _ rfl).not_rejection left
      | ok data =>
        have hsum : (do
            if !Edid.checksumOk data then
              Hardware.note .warn (s!"{id.name}: EDID block {block} fails its checksum")
            return data : Action Display (List UInt8)).IsCommitted := by
          dsimp only
          split
          · exact .bind (.lift _) fun _ ↦ .pure data
          · exact .pure data
        dsimp only
        split
        · exact Action.FailsOnly.bind (.lift _) (fun _ ↦ hsum) left
        · exact hsum left

theorem setCursor_decides (pipe : Pipe) (location width height : UInt32) (display : Display) :
    (setCursor pipe location width height).Decides display := by
  rw [setCursor_eq]
  split
  · exact .committed (.bind (.lift _) fun _ ↦ .bind (.lift _) fun _ ↦ .lift _)
  · exact .refuse _

/-- From any state, each call is turned down outright or never. -/
theorem call_decides (call : Call) (display : Display) : call.action.Decides display := by
  cases call with
  | applyMode pipe request => exact applyMode_decides pipe request display
  | routeOutput id pipe =>
    exact .get_bind (.accepted_bind fun _ _ ↦ onOutput_decides id _ display)
  | setPower target request =>
    cases target with
    | pipe pipe =>
      exact .get_bind (.committed (onPipe_failsOnly pipe
        (Pipe.View.setPower_locksUp display.device request)).committed)
    | output id => exact onOutput_decides id _ display
  | mapMemory =>
    exact .committed (.get_bind fun current ↦ (current.device.mapMemory_locksUp _ _).committed)
  | saveState =>
    exact .committed (.bind (.get_bind fun _ ↦ .bind (.lift _) fun _ ↦ .bind (.modify _) fun _ ↦
      .pure _) fun _ ↦ .pure ())
  | restoreState =>
    refine .get_bind ?_
    cases display.saved with
    | none => exact .refuse _
    | some snapshot => exact .committed (restoreSnapshot_locksUp snapshot).committed
  | setCursor pipe location width height =>
    exact setCursor_decides pipe location width height display
  | showCursor pipe => exact .committed (.lift _)
  | hideCursor pipe => exact .committed (.lift _)
  | moveCursor pipe x y => exact .committed (.lift _)
  | probeDdc id => exact .bind (probeDdc_decides id display) fun _ ↦ .pure ()
  | readEdid id block => exact .bind (readEdid_decides id block display) fun _ ↦ .pure ()

/-- The configuration that a device was bound with is one that its monitor engine can be bound with,
whatever was called since. -/
theorem bind_session {adapter : Adapter} {config : Config} {wirings : List Output.Wiring}
    {origin : Display} (hattach : attachWith adapter config wirings = .ok origin)
    (calls : List Call) {σ : Type} (handler : Handler Access.signature σ) (state : σ)
    (connector : UInt8) :
    ∃ controller, I2c.Controller.bind?
      (((session calls).start origin).run handler state).1.2.device.config.controller connector =
        .ok controller := by
  have hsame : origin.SameDevice (((session calls).start origin).run handler state).1.2 :=
    (keeps_session_on calls origin () (.refl origin)).returns handler state
  have hbound := bound_of_attachWith hattach
  rw [hsame.device, hbound.tuned, I2c.Controller.bind?, hbound.valid]
  exact ⟨_, rfl⟩

/-- A call that is turned down has touched nothing and changed nothing. What is checked once more
while a mode set is under way never turns it down: from an accepted plan it ends well or with the
engine stuck. Neither does the configuration, which was checked when the device was bound. -/
theorem rejection_atomic :
    (∀ (display : Display) (call : Call) {σ : Type} (handler : Handler Access.signature σ)
      (state : σ) (cause : Error), cause.IsRejection →
        ((call.action.start display).run handler state).1.1 = .error (.error cause) →
          Untouched ((call.action.start display).trace handler state) ∧
            ((call.action.start display).run handler state).1.2 = display) ∧
      (∀ (display : Display) (pipe : Pipe) (request : Request) (plan : Pipe.Plan),
        display.plan pipe request = .ok plan →
          ∀ {σ : Type} (handler : Handler Access.signature σ) (state : σ), Ended display.device
            (((program pipe request.outputs plan).start display).run handler state).1.1) ∧
      ∀ (adapter : Adapter) (config : Config) (wirings : List Output.Wiring) (origin : Display),
        attachWith adapter config wirings = .ok origin →
          ∀ (calls : List Call) {σ : Type} (handler : Handler Access.signature σ) (state : σ)
            (connector : UInt8), ∃ controller, I2c.Controller.bind?
              (((session calls).start origin).run handler state).1.2.device.config.controller
                connector = .ok controller := by
  refine ⟨fun display call _ handler state cause hrejection hresult ↦ ?_,
    fun display pipe request plan hplan _ handler state ↦ ?_,
    fun _ _ _ origin hattach calls _ handler state connector ↦ ?_⟩
  · rcases call_decides call display with hdown | hreturns
    · exact hdown.untouched handler state
    · exact absurd hrejection (hreturns.returns handler state _ hresult)
  · exact (program_ended (accepted_of_plan hplan)).returns handler state
  · exact bind_session hattach calls handler state connector

/-- A desktop board has no panel link, so a mode set that also names it is turned down, although the
mode itself would be accepted. -/
theorem rejection_atomic_desktop :
    let call : Call := .applyMode .first { desktopRequest with outputs := [.dac1, .lvds] }
    (Untouched ((call.action.start desktop).trace RegisterFile.port .cleared) ∧
      ((call.action.start desktop).run RegisterFile.port .cleared).1.2 = desktop) ∧
    (∃ plan, desktop.plan .first desktopRequest = .ok plan ∧ Ended desktop.device
      (((program .first desktopRequest.outputs plan).start desktop).run RegisterFile.port
        .cleared).1.1) ∧
    ∃ controller, I2c.Controller.bind?
      (((session [call]).start desktop).run RegisterFile.port .cleared).1.2.device.config.controller
        1 = .ok controller := by
  intro call
  obtain ⟨plan, hplan⟩ : ∃ plan, desktop.plan .first desktopRequest = .ok plan :=
    Except.exists_of_isOk (by decide +kernel)
  refine ⟨?_, ⟨plan, hplan, ?_⟩, ?_⟩
  · exact rejection_atomic.1 desktop call RegisterFile.port .cleared (.unknownOutput .lvds)
      (.inl rfl) rfl
  · exact rejection_atomic.2.1 desktop .first desktopRequest plan hplan RegisterFile.port .cleared
  · exact rejection_atomic.2.2 ⟨0x7146, 0, 0x10000000⟩ {} Output.desktop desktop rfl [call]
      RegisterFile.port .cleared 1

end Display

end Scanout
