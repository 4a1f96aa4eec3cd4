import Std.Data.HashMap
import Scanout.I2c.Wire

/-!
# A scripted test bench

A register file and a pair of lines whose answers can be scripted, with a record of every access.
A read takes the front of the offset's queue if there is one, else its fixed value, else what was
last stored. A sample of the lines takes the next scripted one, else the idle levels, else what
was last driven.
-/

set_option autoImplicit false
set_option relaxedAutoImplicit false

namespace Scanout

open I2c

/-- One access as it was answered. -/
inductive Bench.Event where
  | read (offset value : UInt32)
  | write (offset value : UInt32)
  | delay (microseconds : UInt32)
  | drive (levels : Levels)
  | sample (levels : Levels)
  deriving DecidableEq, Repr

/-- The state of the bench. -/
structure Bench where
  stored : Std.HashMap UInt32 UInt32 := {}
  fixed : Std.HashMap UInt32 UInt32 := {}
  queued : Std.HashMap UInt32 (List UInt32) := {}
  driven : Levels := .released
  samples : List Levels := []
  idle : Option Levels := none
  events : Array Bench.Event := #[]
  entries : Array Log.Entry := #[]
  writes : Nat := 0

namespace Bench

/-- A line level as a digit. -/
def digit (high : Bool) : String :=
  if high then "1" else "0"

/-- The event as one line. -/
def Event.text : Event → String
  | read offset value =>
    "R " ++ Text.Hex.digits offset.toNat ++ " " ++ Text.Hex.digits value.toNat
  | write offset value =>
    "W " ++ Text.Hex.digits offset.toNat ++ " " ++ Text.Hex.digits value.toNat
  | delay microseconds => s!"D {microseconds}"
  | drive levels => "S" ++ digit levels.clock ++ digit levels.data
  | sample levels => "G" ++ digit levels.clock ++ digit levels.data

/-- Record an event. -/
def record (bench : Bench) (event : Event) : Bench :=
  { bench with events := bench.events.push event }

/-- Keep a note. -/
def keep (bench : Bench) (entry : Log.Entry) : Bench :=
  { bench with entries := bench.entries.push entry }

/-- Store a value without an access. -/
def poke (bench : Bench) (offset value : UInt32) : Bench :=
  { bench with stored := bench.stored.insert offset value }

/-- Fix what an offset reads. -/
def fix (bench : Bench) (offset value : UInt32) : Bench :=
  { bench with fixed := bench.fixed.insert offset value }

/-- Let an offset read what is stored again. -/
def unfix (bench : Bench) (offset : UInt32) : Bench :=
  { bench with fixed := bench.fixed.erase offset }

/-- Queue values that an offset reads first. -/
def enqueue (bench : Bench) (offset : UInt32) (values : List UInt32) : Bench :=
  { bench with queued := bench.queued.insert offset (bench.queued.getD offset [] ++ values) }

/-- What is stored at an offset, zero if nothing was. -/
def peek (bench : Bench) (offset : UInt32) : UInt32 :=
  bench.stored.getD offset 0

/-- The answer to a read, and the bench with the queue moved on. -/
def read (bench : Bench) (offset : UInt32) : UInt32 × Bench :=
  match bench.queued.getD offset [] with
  | value :: rest => (value, { bench with queued := bench.queued.insert offset rest })
  | [] => (bench.fixed.getD offset (bench.peek offset), bench)

/-- The levels of the next sample, and the bench with the script moved on. -/
def sample (bench : Bench) : Levels × Bench :=
  match bench.samples with
  | levels :: rest => (levels, { bench with samples := rest })
  | [] => (bench.idle.getD bench.driven, bench)

/-- The bench as a register port. -/
def port : Handler Access.signature Bench where
  answer request bench :=
    match request with
    | .read offset =>
      let (value, bench) := bench.read offset
      (value, bench.record (.read offset value))
    | .write offset value =>
      ((), { (bench.poke offset value).record (.write offset value) with
        writes := bench.writes + 1 })
    | .delay microseconds => ((), bench.record (.delay microseconds))
    | .note entry => ((), bench.keep entry)

/-- The bench as a pair of lines. -/
def wires : Handler WireAccess.signature Bench where
  answer request bench :=
    match request with
    | .drive levels => ((), { bench with driven := levels }.record (.drive levels))
    | .sample =>
      let (levels, bench) := bench.sample
      (levels, bench.record (.sample levels))
    | .delay microseconds => ((), bench.record (.delay microseconds))
    | .note entry => ((), bench.keep entry)

end Bench

end Scanout
