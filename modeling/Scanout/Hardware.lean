import Scanout.Error
import Scanout.Log
import Scanout.Program
import Scanout.Register.Address

/-!
# Programs over registers

A `Hardware` program reads and writes mapped registers, waits, and leaves notes in the log. The
port operations are built from these: `modify` clears and sets bits, and the memory controller is
reached through its window.

An `Action` is a hardware program over a cached state that may also fail. The state at the point
of a failure is kept, since a sequence that stops half way has still changed what is cached.
-/

set_option autoImplicit false
set_option relaxedAutoImplicit false

namespace Scanout

open Register

/-- One request to the register port. -/
inductive Access where
  | read (offset : UInt32)
  | write (offset value : UInt32)
  | delay (microseconds : UInt32)
  | note (entry : Log.Entry)
  deriving DecidableEq, Repr

/-- What an access answers: a read its value, everything else nothing. -/
abbrev Access.Answer : Access → Type
  | read _ => UInt32
  | write _ _ | delay _ | note _ => Unit

/-- The register port as an interface. -/
abbrev Access.signature : Signature where
  Request := Access
  Answer := Access.Answer

/-- A program over the register port. -/
abbrev Hardware := Program Access.signature

namespace Hardware

/-- The value of a mapped register. -/
def read (register : Direct) : Hardware UInt32 :=
  .ask (.read register.offset) .done

/-- Give a mapped register a value. -/
def write (register : Direct) (value : UInt32) : Hardware Unit :=
  .ask (.write register.offset value) .done

/-- Wait. -/
def delay (microseconds : UInt32) : Hardware Unit :=
  .ask (.delay microseconds) .done

/-- Leave a note in the log. -/
def note (level : Log.Level) (text : String) : Hardware Unit :=
  .ask (.note { level, text }) .done

/-- Clear bits of a mapped register, then set some; the answer is the value written. -/
def modify (register : Direct) (clear set : UInt32) : Hardware UInt32 := do
  let value := ((← read register) &&& ~~~clear) ||| set
  write register value
  return value

/-- Clear and set bits without asking for the value. -/
def update (register : Direct) (clear set : UInt32) : Hardware Unit := do
  let _ ← modify register clear set

/-- Select an address of a window, then read its data. -/
def readIndexed (window : Window) (address : UInt32) : Hardware UInt32 := do
  write window.index address
  read window.data

/-- Select an address of a window, then write its data. -/
def writeIndexed (window : Window) (address value : UInt32) : Hardware Unit := do
  write window.index address
  write window.data value

/-- The value of a memory controller register. -/
def readController (register : Controller) : Hardware UInt32 :=
  readIndexed controllerWindow register.readIndex

/-- Give a memory controller register a value. -/
def writeController (register : Controller) (value : UInt32) : Hardware Unit :=
  writeIndexed controllerWindow register.writeIndex value

end Hardware

/-- A hardware program over a cached state, which may fail and then keeps the state it had. -/
abbrev Action (σ : Type) := ExceptT (Failure Error) (StateT σ Hardware)

namespace Action

variable {σ τ α : Type}

/-- Fail with an error. -/
def refuse (error : Error) : Action σ α :=
  throw (.error error)

/-- A value that may be a fault of the arithmetic. -/
def checked (value : Except Fault α) : Action σ α :=
  ExceptT.mk (pure (Failure.ofFault value))

/-- A value that may be an error. -/
def accepted (value : Except Error α) : Action σ α :=
  ExceptT.mk (pure (Failure.ofError value))

/-- A value that may be a failure. -/
def settled (value : Except (Failure Error) α) : Action σ α :=
  ExceptT.mk (pure value)

/-- The action on a part of a larger state. -/
def zoom (part : τ → σ) (replace : σ → τ → τ) (action : Action σ α) : Action τ α :=
  ExceptT.mk fun whole => do
    let (result, changed) ← action.run.run (part whole)
    return (result, replace changed whole)

/-- The program of an action from a state: its result, and the state it leaves. -/
def start (action : Action σ α) (state : σ) : Hardware (Except (Failure Error) α × σ) :=
  action.run.run state

end Action

end Scanout
