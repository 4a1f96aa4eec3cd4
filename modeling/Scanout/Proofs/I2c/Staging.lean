import Scanout.Proofs.I2c.Course
import Scanout.Proofs.Recall
import Scanout.Proofs.Register.Packed

/-!
The transactions that a trace of the hardware engine shows. What is staged for the next one is
followed through the events: the bytes queued since the last command, and the size register with
the value that it was last found at. A command for queued bytes is a transaction of what is staged,
and a read of the data register takes a byte; these are the deeds of a trace, and those of a
sequence of events are those of its parts (`Staging.deeds_append`).
-/

set_option autoImplicit false
set_option relaxedAutoImplicit false

namespace Scanout.I2c

open Register

/-- What is staged for the next transaction: the bytes that are queued, the size register, the value
it was found at before it was written, and whether an engine was set up on the way. -/
structure Staging where
  queued : List UInt32 := []
  size : UInt32 := 0
  found : UInt32 := 0
  setUp : Bool := false
  deriving DecidableEq, Repr

/-- What a trace does to the bus: it kicks a transaction off with some commands, or takes a byte. -/
inductive Deed where
  | kick (staging : Staging) (commands : UInt32)
  | get (value : UInt32)
  deriving DecidableEq, Repr

namespace Staging

/-- What is staged after an event. Any write of the start register uses up what was queued. -/
def see (staging : Staging) : Event → Staging
  | ⟨.write offset value, _⟩ =>
    if ⟨offset⟩ = i2cData then { staging with queued := staging.queued ++ [value] }
    else if ⟨offset⟩ = i2cStart then { staging with queued := [] }
    else if ⟨offset⟩ = i2cSize then { staging with size := value }
    else if ⟨offset⟩ = i2cControl then { staging with setUp := true }
    else staging
  | ⟨.read offset, value⟩ =>
    if ⟨offset⟩ = i2cSize then { staging with found := value } else staging
  | ⟨.delay _, _⟩ | ⟨.note _, _⟩ => staging

/-- The deed of an event. The start register is also written with nothing queued, where the bus is
started; this is no transaction yet. -/
def deed? (staging : Staging) : Event → Option Deed
  | ⟨.write offset value, _⟩ =>
    if ⟨offset⟩ = i2cStart ∧ staging.queued ≠ [] then
      some (.kick staging (value &&& i2cCommandMask))
    else none
  | ⟨.read offset, value⟩ => if ⟨offset⟩ = i2cData then some (.get value) else none
  | ⟨.delay _, _⟩ | ⟨.note _, _⟩ => none

/-- What is staged after some events. -/
def after (staging : Staging) (events : List Event) : Staging :=
  events.foldl see staging

/-- The deeds of a trace, oldest first. -/
def deeds : Staging → List Event → List Deed
  | _, [] => []
  | staging, event :: rest => (staging.deed? event).toList ++ deeds (staging.see event) rest

variable (staging : Staging)

@[simp] theorem after_nil : staging.after [] = staging := rfl

@[simp] theorem deeds_nil : staging.deeds [] = [] := rfl

@[simp] theorem after_cons (event : Event) (rest : List Event) :
    staging.after (event :: rest) = (staging.see event).after rest := rfl

theorem deeds_cons (event : Event) (rest : List Event) :
    staging.deeds (event :: rest) =
      (staging.deed? event).toList ++ (staging.see event).deeds rest := rfl

theorem after_append (early late : List Event) :
    staging.after (early ++ late) = (staging.after early).after late :=
  List.foldl_append

theorem deeds_append (early late : List Event) :
    staging.deeds (early ++ late) = staging.deeds early ++ (staging.after early).deeds late := by
  induction early generalizing staging with
  | nil => rfl
  | cons event rest ih => rw [List.cons_append, deeds, deeds, ih, List.append_assoc, after_cons]

theorem see_write (register : Direct) (value : UInt32) :
    staging.see (.write register value) =
      if register = i2cData then { staging with queued := staging.queued ++ [value] }
      else if register = i2cStart then { staging with queued := [] }
      else if register = i2cSize then { staging with size := value }
      else if register = i2cControl then { staging with setUp := true }
      else staging := rfl

theorem see_read (register : Direct) (value : UInt32) :
    staging.see (.read register value) =
      if register = i2cSize then { staging with found := value } else staging := rfl

/-- The staged size is what the events leave in the size register. -/
theorem size_see (event : Event) :
    (staging.see event).size = recalled i2cSize staging.size [event] := by
  obtain ⟨access, answer⟩ := event
  cases access with
  | write offset value =>
    refine Eq.trans ?_ (recalled_write_cons i2cSize staging.size ⟨offset⟩ value []).symm
    show (staging.see (.write ⟨offset⟩ value)).size = _
    rw [see_write, recalled_nil]
    repeat' split
    all_goals simp_all +decide
  | read offset =>
    show (staging.see (.read ⟨offset⟩ answer)).size = staging.size
    rw [see_read]
    split <;> rfl
  | delay microseconds | note entry => rfl

theorem size_after (events : List Event) :
    (staging.after events).size = recalled i2cSize staging.size events := by
  induction events generalizing staging with
  | nil => rfl
  | cons event rest ih => rw [after_cons, ih, size_see, ← recalled_cons]

/-- An event that neither changes what is staged nor is a deed. -/
def Idle (event : Event) : Prop :=
  ∀ staging : Staging, staging.see event = staging ∧ staging.deed? event = none

theorem of_idle {events : List Event} (hevents : ∀ event ∈ events, Idle event) :
    staging.after events = staging ∧ staging.deeds events = [] := by
  induction events with
  | nil => exact ⟨rfl, rfl⟩
  | cons event rest ih =>
    rw [List.forall_mem_cons] at hevents
    obtain ⟨hsee, hnone⟩ := hevents.1 staging
    rw [after_cons, deeds_cons, hsee, hnone]
    exact ih hevents.2

theorem idle_poll {event : Event} (hpoll : Controller.IsPoll event) : Idle event := by
  cases hpoll with
  | read status => exact fun _ ↦ ⟨rfl, rfl⟩
  | delay microseconds => exact fun _ ↦ ⟨rfl, rfl⟩

theorem idle_stop : ∀ event ∈ Event.writes Controller.stopWrites, Idle event := by
  simp only [Event.writes, Controller.stopWrites, List.map_cons, List.map_nil,
    List.forall_mem_cons, List.not_mem_nil, false_implies, implies_true, and_true]
  exact ⟨fun _ ↦ ⟨rfl, rfl⟩, fun _ ↦ ⟨rfl, rfl⟩, fun _ ↦ ⟨rfl, rfl⟩⟩

/-- With bytes queued, an update of the commands kicks them off. -/
theorem of_command (hqueued : staging.queued ≠ []) {commands : UInt32}
    (hcommands : commands &&& i2cCommandMask = commands) (old : UInt32) :
    staging.after (Event.update i2cStart i2cCommandMask commands old) =
        { staging with queued := [] } ∧
      staging.deeds (Event.update i2cStart i2cCommandMask commands old) =
        [.kick staging commands] := by
  have hgiven : ((old &&& ~~~i2cCommandMask) ||| commands) &&& i2cCommandMask = commands := by
    rw [or_and_distrib, cleared_and_self, hcommands, UInt32.zero_or]
  refine ⟨rfl, ?_⟩
  have hdeed : staging.deed? (.write i2cStart ((old &&& ~~~i2cCommandMask) ||| commands)) =
      some (.kick staging commands) := by
    refine (if_pos ⟨rfl, hqueued⟩).trans ?_
    rw [hgiven]
  show (staging.deed? (.write i2cStart _)).toList ++ [] = _
  rw [hdeed]
  rfl

theorem of_queue (bytes : List UInt8) :
    staging.after (Event.writes (Controller.queueWrites bytes)) =
        { staging with queued := staging.queued ++ bytes.map UInt8.toUInt32 } ∧
      staging.deeds (Event.writes (Controller.queueWrites bytes)) = [] := by
  induction bytes generalizing staging with
  | nil => simp [Controller.queueWrites, Event.writes]
  | cons byte rest ih =>
    obtain ⟨hafter, hdeeds⟩ := ih { staging with queued := staging.queued ++ [byte.toUInt32] }
    refine ⟨hafter.trans ?_, hdeeds⟩
    simp

theorem of_taken (values : List UInt32) :
    staging.after (values.map (Event.read i2cData)) = staging ∧
      staging.deeds (values.map (Event.read i2cData)) = values.map .get := by
  induction values with
  | nil => exact ⟨rfl, rfl⟩
  | cons value rest ih => exact ⟨ih.1, congrArg (Deed.get value :: ·) ih.2⟩

end Staging

end Scanout.I2c
