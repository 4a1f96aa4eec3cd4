import Scanout.Proofs.Action
import Scanout.Proofs.Display.Plan

/-!
Runs of operations. A session makes some calls one after another, and goes on whatever each of them
comes to. What every call keeps, a session of any length keeps; and to know that a call keeps an
invariant it is enough to know it of the steps that calls are made of (`Steady`).
-/

set_option autoImplicit false
set_option relaxedAutoImplicit false

namespace Scanout.Display

open Register

/-- A call of an operation with its arguments. -/
inductive Call where
  | applyMode (pipe : Pipe) (request : Request)
  | routeOutput (id : Output.Id) (pipe : Pipe)
  | setPower (target : Target) (request : Dpms)
  | mapMemory
  | saveState
  | restoreState
  | setCursor (pipe : Pipe) (location width height : UInt32)
  | showCursor (pipe : Pipe)
  | hideCursor (pipe : Pipe)
  | moveCursor (pipe : Pipe) (x y : Int)
  | probeDdc (id : Output.Id)
  | readEdid (id : Output.Id) (block : UInt8)
  deriving DecidableEq, Repr

namespace Call

/-- The operation that is called, apart from what it answers. -/
def action : Call → Action Display Unit
  | applyMode pipe request => Display.applyMode pipe request
  | routeOutput id pipe => Display.routeOutput id pipe
  | setPower target request => Display.setPower target request
  | mapMemory => Display.mapMemory
  | saveState => do
    let _ ← Display.saveState
  | restoreState => Display.restoreState
  | setCursor pipe location width height => Display.setCursor pipe location width height
  | showCursor pipe => Display.showCursor pipe
  | hideCursor pipe => Display.hideCursor pipe
  | moveCursor pipe x y => Display.moveCursor pipe x y
  | probeDdc id => do
    let _ ← Display.probeDdc id
  | readEdid id block => do
    let _ ← Display.readEdid id block

/-- The call talks to a monitor. -/
def isDdc : Call → Bool
  | probeDdc _ | readEdid _ _ => true
  | _ => false

end Call

/-- Make some calls in order, whatever each of them comes to. -/
def session : List Call → Action Display Unit
  | [] => return
  | call :: rest => do
    let _ ← call.action.attempt
    session rest

/-- The registers of a pipe that only the cursor uses. -/
def cursorRegisters : List PipeRegister :=
  [.cursorControl, .cursorLocation, .cursorSize, .cursorPosition]

variable {υ : Type} {contract : Contract Access.signature υ} {invariant : Display → υ → Prop}

theorem keeps_session {calls : List Call}
    (hcalls : ∀ call ∈ calls, call.action.Keeps contract invariant) :
    (session calls).Keeps contract invariant := by
  induction calls with
  | nil => exact .pure ()
  | cons call rest ih =>
    rw [List.forall_mem_cons] at hcalls
    exact .bind (.attempt hcalls.1) fun _ ↦ ih hcalls.2

/-- Talking to a monitor keeps what is kept by the programs that either transport plays. -/
theorem keeps_withDdc {α : Type} (id : Output.Id)
    {talk : {m : Type → Type} → [Monad m] → Edid.Bus m → m α}
    (hcontroller : ∀ controller : I2c.Controller,
      (liftM (talk (Edid.Bus.ofController controller) : Hardware α) :
        Action Display α).Keeps contract invariant)
    (hpads : ∀ display, (∃ hardware, invariant display hardware) → ∀ base,
      display.ddc id = .ok (.pads base) → ∀ wires : I2c.Wires α,
        (liftM (ExceptT.run (I2c.BitBang.attach base >>= fun _ ↦ I2c.Pads.run base wires)) :
          Action Display (Except Fault α)).Keeps contract invariant) :
    (withDdc id talk).Keeps contract invariant := by
  refine .get_bind fun display hdisplay ↦ .accepted_bind fun channel hchannel ↦ ?_
  cases channel with
  | hardware connector =>
    dsimp only
    split
    · exact .refuse _
    · exact hcontroller _
  | pads base =>
    exact .bind (hpads display hdisplay base hchannel _) fun outcome ↦ .checked outcome
  | none => exact .refuse _

/-- Falling back on a snapshot keeps what is kept by writing it back and by reading again. -/
theorem keeps_recover_of
    (hnote : ∀ level text,
      (liftM (Hardware.note level text) : Action Display Unit).Keeps contract invariant)
    (hrestore : ∀ (snapshot : Snapshot) device,
      (snapshot.restore device : Action Display Unit).Keeps contract invariant)
    (hrefresh : refresh.Keeps contract invariant) (pipe : Pipe) :
    (recover pipe).Keeps contract invariant := by
  refine .get_bind fun display _ ↦ ?_
  split
  · exact hnote _ _
  · refine .bind (hnote _ _) fun _ ↦ .bind (.attempt (hrestore _ display.device)) fun result ↦ ?_
    split
    · exact .bind (hnote _ _) fun _ ↦ hrefresh
    · exact .throw _
    · exact hrefresh

theorem keeps_restoreState_of
    (hreplay : ∀ snapshot, (restoreSnapshot snapshot).Keeps contract invariant) :
    restoreState.Keeps contract invariant := by
  refine .get_bind fun display _ ↦ ?_
  split
  · exact .refuse _
  · exact hreplay _

/-- What is done with a cursor image that fits. -/
def placeCursor (pipe : Pipe) (location width height : UInt32) : Action Display Unit := do
  Hardware.write (pipe.register .cursorLocation) location
  Hardware.write (pipe.register .cursorSize)
    (Point.of (width - 1).toUInt16 (height - 1).toUInt16).raw
  Hardware.update (pipe.register .cursorControl) cursorFormatMask cursorFormatArgb

theorem setCursor_eq (pipe : Pipe) (location width height : UInt32) :
    setCursor pipe location width height =
      if Pipe.cursorFits width height then placeCursor pipe location width height
      else Action.refuse (.cursorTooLarge width height cursorLimit) := by
  unfold setCursor Pipe.setCursor
  cases Pipe.cursorFits width height <;> rfl

/-- The invariant is kept by the steps of operations that neither set a mode nor switch an output:
what is done to a pipe's power, what is done to the device as a whole, and what no view is about. -/
structure Passive (contract : Contract Access.signature υ) (invariant : Display → υ → Prop) :
    Prop where
  note : ∀ level text,
    (liftM (Hardware.note level text) : Action Display Unit).Keeps contract invariant
  pipePower : ∀ pipe device request,
    (onPipe pipe (Pipe.View.setPower device request)).Keeps contract invariant
  route : ∀ id pipe, (onOutput id fun view ↦ view.route pipe).Keeps contract invariant
  recover : ∀ pipe, (recover pipe).Keeps contract invariant
  mapMemory : mapMemory.Keeps contract invariant
  saveState : (do let _ ← saveState : Action Display Unit).Keeps contract invariant
  restoreState : restoreState.Keeps contract invariant
  cursor : ∀ (pipe : Pipe) (name : PipeRegister) (value : UInt32), name ∈ cursorRegisters →
    (liftM (Hardware.write (pipe.register name) value) : Action Display Unit).Keeps contract
      invariant
  cursorControl : ∀ (pipe : Pipe) (clear set : UInt32),
    (liftM (Hardware.update (pipe.register .cursorControl) clear set) :
      Action Display Unit).Keeps contract invariant

/-- The invariant is kept by all the steps that operations are made of. -/
structure Steady (contract : Contract Access.signature υ) (invariant : Display → υ → Prop) : Prop
    extends Passive contract invariant where
  setMode : ∀ {origin : Display} {pipe : Pipe} {request : Request} {plan : Pipe.Plan},
    origin.Accepted pipe request plan → ∀ device,
      (onPipe pipe (Pipe.View.setMode device plan)).Keeps contract invariant
  outputPower : ∀ id request,
    (onOutput id fun view ↦ view.setPower request).Keeps contract invariant
  light : ∀ id pipe, (onOutput id fun view ↦ do
    let view ← view.route pipe
    view.setPower .on).Keeps contract invariant

namespace Passive

variable (hpassive : Passive contract invariant)
include hpassive

theorem setCursor (pipe : Pipe) (location width height : UInt32) :
    (setCursor pipe location width height).Keeps contract invariant := by
  rw [setCursor_eq]
  split
  · exact .bind (hpassive.cursor pipe _ _ (by decide)) fun _ ↦
      .bind (hpassive.cursor pipe _ _ (by decide)) fun _ ↦ hpassive.cursorControl pipe _ _
  · exact .refuse _

theorem readEdid {id : Output.Id} {block : UInt8}
    (hblock : (withDdc id fun bus ↦ Edid.readBlock bus block).Keeps contract invariant) :
    (readEdid id block).Keeps contract invariant := by
  refine .bind hblock fun outcome ↦ ?_
  cases outcome with
  | error cause => exact .refuse _
  | ok data =>
    have hsum : (do
        if !Edid.checksumOk data then
          Hardware.note .warn (s!"{id.name}: EDID block {block} fails its checksum")
        return data : Action Display (List UInt8)).Keeps contract invariant := by
      dsimp only
      split
      · exact .bind (hpassive.note _ _) fun _ ↦ .pure data
      · exact .pure data
    dsimp only
    split
    · exact .bind (hpassive.note _ _) fun _ ↦ hsum
    · exact hsum

/-- Talking to a monitor keeps the invariant if its exchanges do. -/
theorem talk (hprobe : ∀ id, (withDdc id Edid.probe).Keeps contract invariant)
    (hblock : ∀ id block,
      (withDdc id fun bus ↦ Edid.readBlock bus block).Keeps contract invariant)
    {call : Call} (hddc : call.isDdc = true) : call.action.Keeps contract invariant := by
  cases call with
  | probeDdc id => exact .bind (hprobe id) fun _ ↦ .pure ()
  | readEdid id block => exact .bind (hpassive.readEdid (hblock id block)) fun _ ↦ .pure ()
  | _ => cases hddc

/-- Every call keeps the invariant, if the two that switch outputs do and talking to a monitor. -/
theorem call {call : Call}
    (happly : ∀ pipe request, call = .applyMode pipe request →
      (applyMode pipe request).Keeps contract invariant)
    (hpower : ∀ id request, call = .setPower (.output id) request →
      (onOutput id fun view ↦ view.setPower request).Keeps contract invariant)
    (hddc : call.isDdc = true → call.action.Keeps contract invariant) :
    call.action.Keeps contract invariant := by
  cases call with
  | applyMode pipe request => exact happly pipe request rfl
  | routeOutput id pipe =>
    exact .get_bind fun _ _ ↦ .accepted_bind fun _ _ ↦ hpassive.route id pipe
  | setPower target request =>
    cases target with
    | pipe pipe => exact .get_bind fun display _ ↦ hpassive.pipePower pipe display.device request
    | output id => exact hpower id request rfl
  | mapMemory => exact hpassive.mapMemory
  | saveState => exact hpassive.saveState
  | restoreState => exact hpassive.restoreState
  | setCursor pipe location width height => exact hpassive.setCursor pipe location width height
  | showCursor pipe => exact hpassive.cursorControl pipe _ _
  | hideCursor pipe => exact hpassive.cursorControl pipe _ _
  | moveCursor pipe x y => exact hpassive.cursor pipe _ _ (by decide)
  | probeDdc id => exact hddc rfl
  | readEdid id block => exact hddc rfl

end Passive

/-- What is done to one output after another keeps what doing it to each of them keeps. -/
theorem keeps_each {one : Output.Id → Action Display Unit}
    {each : List Output.Id → Action Display Unit} (hnil : each [] = return)
    (hcons : ∀ id rest, each (id :: rest) = one id >>= fun _ ↦ each rest)
    {outputs : List Output.Id} (hone : ∀ id ∈ outputs, (one id).Keeps contract invariant) :
    (each outputs).Keeps contract invariant := by
  induction outputs with
  | nil =>
    rw [hnil]
    exact .pure ()
  | cons id rest ih =>
    rw [List.forall_mem_cons] at hone
    rw [hcons]
    exact .bind hone.1 fun _ ↦ ih hone.2

theorem keeps_switchOff {outputs : List Output.Id}
    (houtputs : ∀ id ∈ outputs,
      (onOutput id fun view ↦ view.setPower .off).Keeps contract invariant) :
    (switchOff outputs).Keeps contract invariant :=
  keeps_each rfl (fun _ _ ↦ rfl) houtputs

theorem keeps_switchOn {pipe : Pipe} {outputs : List Output.Id}
    (houtputs : ∀ id ∈ outputs, (onOutput id fun view ↦ do
      let view ← view.route pipe
      view.setPower .on).Keeps contract invariant) :
    (switchOn pipe outputs).Keeps contract invariant :=
  keeps_each rfl (fun _ _ ↦ rfl) houtputs

namespace Steady

/-- Steps that are kept under a bound on the requests are kept under a wider one. -/
theorem widen {narrow wide : Access.signature.Request → Prop} {invariant : Display → Unit → Prop}
    (hsteady : Steady (.asking narrow) invariant)
    (himp : ∀ request, narrow request → wide request) : Steady (.asking wide) invariant where
  note level text := (hsteady.note level text).widen himp
  pipePower pipe device request := (hsteady.pipePower pipe device request).widen himp
  setMode haccepted device := (hsteady.setMode haccepted device).widen himp
  outputPower id request := (hsteady.outputPower id request).widen himp
  route id pipe := (hsteady.route id pipe).widen himp
  light id pipe := (hsteady.light id pipe).widen himp
  recover pipe := (hsteady.recover pipe).widen himp
  mapMemory := hsteady.mapMemory.widen himp
  saveState := hsteady.saveState.widen himp
  restoreState := hsteady.restoreState.widen himp
  cursor pipe name value hname := (hsteady.cursor pipe name value hname).widen himp
  cursorControl pipe clear set := (hsteady.cursorControl pipe clear set).widen himp

variable (hsteady : Steady contract invariant)
include hsteady

theorem applyMode (pipe : Pipe) (request : Request) :
    (applyMode pipe request).Keeps contract invariant := by
  refine .bind (hsteady.note _ _) fun _ ↦ .get_bind fun display _ ↦
    .settled_bind fun plan hplan ↦ .bind (hsteady.note _ _) fun _ ↦ .bind (.attempt ?_)
      fun result ↦ ?_
  · exact .bind (keeps_switchOff fun id _ ↦ hsteady.outputPower id .off) fun _ ↦
      .get_bind fun current _ ↦
        .bind (hsteady.setMode (accepted_of_plan hplan) current.device) fun _ ↦
          keeps_switchOn fun id _ ↦ hsteady.light id pipe
  · split
    · exact hsteady.note _ _
    · split
      · exact .bind (hsteady.recover pipe) fun _ ↦ .refuse _
      · exact .refuse _
    · exact .throw _

/-- Every call keeps the invariant, apart from talking to a monitor. -/
theorem call {call : Call}
    (hddc : call.isDdc = true → call.action.Keeps contract invariant) :
    call.action.Keeps contract invariant :=
  hsteady.toPassive.call (fun pipe request _ ↦ hsteady.applyMode pipe request)
    (fun id request _ ↦ hsteady.outputPower id request) hddc

/-- Where talking to a monitor keeps it as well, a session of any calls does. -/
theorem session (hprobe : ∀ id, (withDdc id Edid.probe).Keeps contract invariant)
    (hblock : ∀ id block,
      (withDdc id fun bus ↦ Edid.readBlock bus block).Keeps contract invariant)
    (calls : List Call) : (session calls).Keeps contract invariant :=
  keeps_session fun _ _ ↦ hsteady.call (hsteady.toPassive.talk hprobe hblock)

end Steady

end Scanout.Display
