import Scanout.Proofs.Display.CoherentSession
import Scanout.Proofs.Display.Ending
import Scanout.Proofs.Display.Wiring
import Scanout.Proofs.Display.Words
import Scanout.Proofs.I2c.Outcome

/-!
No operation faults. What is asked for is arbitrary and so is every answer of the device, so a fault
is ruled out where it could arise: planning a request, before anything is answered, and forming the
addresses of the pads on which a monitor is reached. The first needs nothing but the checks of the
plan itself; the second needs that outputs stay wired as they were bound, which every operation
keeps. Everything else fails with errors that it reports on purpose.
-/

set_option autoImplicit false
set_option relaxedAutoImplicit false

namespace Scanout

open Register

/-- The dividers of either generation are small. -/
theorem Chip.Generation.pllLimits_sized (generation : Generation) :
    generation.pllLimits.Sized := by
  cases generation <;> exact Pll.Limits.sized_of_small rfl (by decide) (by decide)

namespace Display

theorem surfaceStop_faultless {surface : Surface} (hpitch : surface.pitch.toNat < UInt16.size)
    (hheight : surface.height.toNat < UInt16.size) : Faultless (Pipe.surfaceStop surface) := by
  obtain ⟨stop, hstop⟩ := Surface.exists_stop hpitch hheight
  refine .ofFault_bind hstop ?_
  split
  · exact .ok _
  · exact .error _

theorem planSurface_faultless (display : Display) (request : Request) (format : Surface.Format) :
    Faultless (display.planSurface request format) := by
  have hsize : ∀ size : UInt16, size.toUInt32.toNat < UInt16.size := by
    intro size
    rw [UInt16.toNat_toUInt32]
    exact size.toNat_lt_size
  unfold planSurface
  dsimp only
  split
  · exact .error _
  split
  · exact .error _
  exact .bind (surfaceStop_faultless (hsize request.width) (hsize request.height)) fun _ _ ↦ .ok _

/-- Any request at all is planned or refused, in any state. -/
theorem plan_faultless (display : Display) (pipe : Pipe) (request : Request) :
    Faultless (display.plan pipe request) := by
  have hpll := Pll.synthesize_faultless display.device.chip.generation.pllLimits_sized
    (display.scanMode request).clock
  unfold plan
  refine .bind (.ofError _) fun _ _ ↦ ?_
  dsimp only
  split
  · exact .error _
  refine .bind (.ofError _) fun _ _ ↦
    .bind ((Timing.ofMode_faultless _).mapError _) fun timing _ ↦ ?_
  split
  · exact .bind (.ok _) fun format _ ↦ .bind (planSurface_faultless display request format)
      fun _ _ ↦ .bind (.ofError _) fun _ _ ↦ .bind hpll fun _ _ ↦ .ok _
  · exact .error _

end Display

/-!
From a given state. Where a part of an action only locks up or does not fail at all, that was shown
from every state.
-/

namespace Action

variable {σ α β : Type} {state : σ}

/-- Started here, the action does not fault, whatever is answered. -/
def FaultlessFrom (action : Action σ α) (state : σ) : Prop :=
  (action.start state).Returns fun out ↦ Faultless out.1

theorem FailsOnly.faultless {kind : Failure Error → Prop} {action : Action σ α}
    (haction : action.FailsOnly kind) (hkind : ∀ reason, ¬kind (.fault reason)) (state : σ) :
    action.FaultlessFrom state :=
  (haction state).mono fun _ _ hout reason hfault ↦ hkind reason (hout _ hfault)

theorem OnlyLocksUp.faultless {action : Action σ α} (haction : action.OnlyLocksUp) (state : σ) :
    action.FaultlessFrom state :=
  FailsOnly.faultless haction (by rintro _ ⟨_, _, ⟨⟩⟩) state

namespace FaultlessFrom

theorem pure (value : α) : (pure value : Action σ α).FaultlessFrom state :=
  .done (.ok value)

theorem refuse (error : Error) : (Action.refuse error : Action σ α).FaultlessFrom state :=
  .done (.error error)

theorem modify (change : σ → σ) : (modify change : Action σ PUnit).FaultlessFrom state :=
  .done (.ok PUnit.unit)

theorem lift (program : Hardware α) : (liftM program : Action σ α).FaultlessFrom state := by
  rw [FaultlessFrom, start_lift]
  exact .after program fun value ↦ .done (.ok value)

theorem bind {action : Action σ α} {rest : α → Action σ β} (haction : action.FaultlessFrom state)
    (hrest : ∀ value left, (rest value).FaultlessFrom left) :
    (action >>= rest).FaultlessFrom state := by
  rw [FaultlessFrom, start_bind]
  refine Program.Returns.bind haction ?_
  rintro ⟨result, left⟩ hresult
  cases result with
  | ok value => exact hrest value left
  | error failure =>
    refine .done ?_
    rintro reason ⟨⟩
    exact hresult reason rfl

theorem get_bind {rest : σ → Action σ β} (hrest : (rest state).FaultlessFrom state) :
    (get >>= rest).FaultlessFrom state := by
  rwa [FaultlessFrom, start_get_bind]

theorem accepted_bind {value : Except Error α} {rest : α → Action σ β}
    (hrest : ∀ result, value = .ok result → (rest result).FaultlessFrom state) :
    (Action.accepted value >>= rest).FaultlessFrom state := by
  cases value with
  | ok result => exact hrest result rfl
  | error cause => exact .done (.error cause)

end FaultlessFrom

end Action

namespace Display

variable {display : Display}

theorem onOutput_faultless (id : Output.Id) (change : Output.View → Hardware Output.View)
    (display : Display) : (onOutput id change).FaultlessFrom display :=
  meets_onOutput (.error _) fun view _ ↦ (change view).meets_anything.mono fun _ _ _ ↦ .ok ()

/-- A mode set is refused, or it ends well or with the engine stuck. -/
theorem applyMode_faultless (pipe : Pipe) (request : Request) (display : Display) :
    (applyMode pipe request).FaultlessFrom display := by
  cases hplan : display.plan pipe request with
  | error failure =>
    have hrefused := display.plan_faultless pipe request
    rw [hplan] at hrefused
    rw [Action.FaultlessFrom, start_applyMode_of_error hplan]
    refine .ask fun _ ↦ .done ?_
    rintro reason ⟨⟩
    exact hrefused reason rfl
  | ok plan =>
    rw [Action.FaultlessFrom, start_applyMode hplan]
    refine .ask fun _ ↦ .ask fun _ ↦ (program_ended (accepted_of_plan hplan)).bind ?_
    rintro ⟨result, left⟩ (hok | ⟨status, hstuck⟩)
    · cases hok
      exact .ask fun _ ↦ .done (.ok ())
    · cases hstuck
      have hreport : (recover pipe >>= fun _ ↦ Action.refuse
          (.lockup display.device.config.idlePolls status) : Action Display Unit).FaultlessFrom
            left :=
        .bind ((recover_neverFails pipe).faultless (fun _ ↦ id) left) fun _ _ ↦ .refuse _
      rwa [Action.FaultlessFrom, Action.start_bind] at hreport

/-- A monitor that is reached line by line is reached at pads that have addresses. -/
def PadsFit (display : Display) : Prop :=
  ∀ id base, display.ddc id = .ok (.pads base) → I2c.Pads.Fits base

theorem withDdc_faultless {α : Type} (hpads : display.PadsFit) (id : Output.Id)
    (talk : {m : Type → Type} → [Monad m] → Edid.Bus m → m α) :
    (withDdc id talk).FaultlessFrom display := by
  refine .get_bind (.accepted_bind fun channel hchannel ↦ ?_)
  cases channel with
  | none => exact .refuse _
  | hardware connector =>
    dsimp only
    split
    · exact .refuse _
    · exact .lift _
  | pads base =>
    have hfits := hpads id base hchannel
    have hsession := (I2c.Pads.attach_succeeds hfits).bind fun _ ↦ I2c.Pads.run_succeeds hfits
      (talk (Edid.Bus.ofBitBang display.device.config.bitBang))
    dsimp only
    rw [Action.FaultlessFrom, Action.start_lift_bind]
    refine Program.Returns.bind hsession ?_
    rintro _ ⟨value, rfl⟩
    exact .done (.ok value)

theorem readEdid_faultless (hpads : display.PadsFit) (id : Output.Id) (block : UInt8) :
    (readEdid id block).FaultlessFrom display := by
  refine .bind (withDdc_faultless hpads id _) fun outcome left ↦ ?_
  cases outcome with
  | error cause => exact .refuse _
  | ok data =>
    have hsum : ∀ left, (do
        if !Edid.checksumOk data then
          Hardware.note .warn (s!"{id.name}: EDID block {block} fails its checksum")
        return data : Action Display (List UInt8)).FaultlessFrom left := by
      intro left
      dsimp only
      split
      · exact .bind (.lift _) fun _ _ ↦ .pure data
      · exact .pure data
    dsimp only
    split
    · exact .bind (.lift _) fun _ left ↦ hsum left
    · exact hsum left

theorem setCursor_faultless (pipe : Pipe) (location width height : UInt32) (display : Display) :
    (setCursor pipe location width height).FaultlessFrom display := by
  rw [setCursor_eq]
  split
  · exact .bind (.lift _) fun _ _ ↦ .bind (.lift _) fun _ _ ↦ .lift _
  · exact .refuse _

theorem saveState_faultless (display : Display) : saveState.FaultlessFrom display :=
  .get_bind (.bind (.lift _) fun snapshot _ ↦ .bind (.modify _) fun _ _ ↦ .pure snapshot)

theorem restoreState_faultless (display : Display) : restoreState.FaultlessFrom display := by
  refine .get_bind ?_
  split
  · exact .refuse _
  · exact (restoreSnapshot_locksUp _).faultless display

/-- No call faults, in a state whose pads have addresses. -/
theorem call_faultless (hpads : display.PadsFit) (call : Call) :
    call.action.FaultlessFrom display := by
  cases call with
  | applyMode pipe request => exact applyMode_faultless pipe request display
  | routeOutput id pipe =>
    exact .get_bind (.accepted_bind fun _ _ ↦ onOutput_faultless id _ display)
  | setPower target request =>
    cases target with
    | pipe pipe =>
      exact .get_bind (Action.OnlyLocksUp.faultless (onPipe_failsOnly pipe
        (Pipe.View.setPower_locksUp display.device request)) display)
    | output id => exact onOutput_faultless id _ display
  | mapMemory => exact .get_bind ((display.device.mapMemory_locksUp _ _).faultless display)
  | saveState => exact .bind (saveState_faultless display) fun _ _ ↦ .pure ()
  | restoreState => exact restoreState_faultless display
  | setCursor pipe location width height => exact setCursor_faultless pipe location width height _
  | showCursor pipe => exact .lift _
  | hideCursor pipe => exact .lift _
  | moveCursor pipe x y => exact .lift _
  | probeDdc id => exact .bind (withDdc_faultless hpads id _) fun _ _ ↦ .pure ()
  | readEdid id block => exact .bind (readEdid_faultless hpads id block) fun _ _ ↦ .pure ()

/-!
Everything that can be asked of a device, one thing after another.
-/

/-- What can be asked of a device: a call, a snapshot of one's own to be replayed, or to wait for
the engine. -/
inductive Operation where
  | call (call : Call)
  | restoreSnapshot (snapshot : Snapshot)
  | waitIdle
  deriving DecidableEq, Repr

namespace Operation

/-- What is done for an operation, apart from what it answers. -/
def action : Operation → Action Display Unit
  | call made => made.action
  | restoreSnapshot snapshot => Display.restoreSnapshot snapshot
  | waitIdle => do (← get).device.waitIdle

/-- What an operation works out comes to the same in words. -/
def Fits (display : Display) : Operation → Prop
  | call made => made.Fits display
  | restoreSnapshot _ | waitIdle => True

theorem fits {display : Display} (hvalid : display.device.config.controller.validate = .ok ())
    (operation : Operation) : operation.Fits display := by
  cases operation with
  | call made => exact made.fits hvalid
  | _ => trivial

end Operation

/-- Perform some operations in order, whatever each of them comes to. -/
def perform : List Operation → Action Display Unit
  | [] => return
  | operation :: rest => do
    let _ ← operation.action.attempt
    perform rest

variable {origin : Display}

theorem keepsWiring_operation (operation : Operation) : KeepsWiring origin operation.action := by
  cases operation with
  | call made => exact keepsWiring_call made
  | restoreSnapshot snapshot => exact keepsWiring_restoreSnapshot snapshot
  | waitIdle =>
    exact .get_bind fun display _ ↦ display.device.keeps_waitIdle.widen fun _ _ ↦ trivial

theorem keepsWiring_perform (operations : List Operation) :
    KeepsWiring origin (perform operations) := by
  induction operations with
  | nil => exact .pure ()
  | cons operation rest ih => exact .bind (.attempt (keepsWiring_operation operation)) fun _ ↦ ih

theorem operation_faultless (hpads : display.PadsFit) (operation : Operation) :
    operation.action.FaultlessFrom display := by
  cases operation with
  | call made => exact call_faultless hpads made
  | restoreSnapshot snapshot => exact (restoreSnapshot_locksUp snapshot).faultless display
  | waitIdle => exact .get_bind (display.device.waitIdle_locksUp.faultless display)

/-- The pads of either usual board have addresses. -/
theorem padsFit_boardOutputs (chip : Chip) :
    ∀ wiring ∈ boardOutputs chip, ∀ base, wiring.ddc = .pads base → I2c.Pads.Fits base := by
  unfold boardOutputs
  split
  · simp only [Output.mobile, List.forall_mem_cons]
    refine ⟨?_, ?_, ?_, ?_, by simp⟩ <;> rintro _ ⟨⟩ <;> decide
  · simp only [Output.desktop, List.forall_mem_cons]
    refine ⟨?_, ?_, ?_, ?_, by simp⟩ <;> rintro _ ⟨⟩ <;> decide

/-- A device that is wired as it was bound has addresses for its pads. -/
theorem SameWiring.padsFit (hsame : origin.SameWiring display) (hfresh : origin.Fresh) :
    display.PadsFit := by
  intro id base hddc
  obtain ⟨wiring, hwiring, hpads⟩ := wiring_of_ddc hddc
  rw [hsame.wirings, hfresh.wirings] at hwiring
  exact padsFit_boardOutputs _ wiring hwiring base hpads

/-- From a device that was bound with its usual board, whatever is asked of it and whatever it
answers, no operation faults, and what one works out without a check comes to the same in words
that are checked. -/
theorem perform_faultless {adapter : Adapter} {config : Config} {origin : Display}
    (hattach : attach adapter config = .ok origin) :
    WordsFit ∧ ∀ (earlier : List Operation) (operation : Operation) {σ : Type}
      (handler : Handler Access.signature σ) (state : σ),
        let left := ((perform earlier).start origin).run handler state
        Faultless ((operation.action.start left.1.2).run handler left.2).1.1 ∧
          operation.Fits left.1.2 := by
  obtain ⟨_, -, hbind⟩ := Except.bind_eq_ok.mp hattach
  have hbound := bound_of_attachWith hbind
  refine ⟨wordsFit, fun earlier operation _ handler state ↦ ?_⟩
  have hsame : origin.SameWiring (((perform earlier).start origin).run handler state).1.2 :=
    (keepsWiring_perform earlier origin () ⟨rfl, rfl⟩).returns handler state
  have hpads := hsame.padsFit (fresh_of_attach hattach)
  have hvalid : (((perform earlier).start origin).run handler
      state).1.2.device.config.controller.validate = .ok () := by
    rw [hsame.device, hbound.tuned]
    exact hbound.valid
  exact ⟨(operation_faultless hpads operation).returns handler _, operation.fits hvalid⟩

/-- A mode set with everything at hand to fall back on, then the last block of a monitor that is
reached line by line. -/
theorem perform_faultless_desktop :
    attach ⟨0x7146, 0, 0x10000000⟩ {} = .ok desktop ∧
      let earlier : List Operation := [.call .saveState, .call (.applyMode .first desktopRequest),
        .restoreSnapshot ⟨[]⟩, .waitIdle, .call .mapMemory]
      let operation : Operation := .call (.readEdid .dac1 255)
      let left := ((perform earlier).start desktop).run RegisterFile.port .cleared
      WordsFit ∧ Faultless ((operation.action.start left.1.2).run RegisterFile.port left.2).1.1 ∧
        operation.Fits left.1.2 :=
  ⟨attach_desktop, (perform_faultless attach_desktop).1,
    (perform_faultless attach_desktop).2 _ _ RegisterFile.port .cleared⟩

end Display

end Scanout
