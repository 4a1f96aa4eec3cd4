import Scanout.Edid

/-!
# A recording bus

A bus that keeps what was asked of it and answers every read with the bytes 1, 2, 3 and so on,
until a set number of calls after which every call fails. It shows which transactions a fetch is
made of.
-/

set_option autoImplicit false
set_option relaxedAutoImplicit false

namespace Scanout.Bench

open I2c

/-- One call of a bus. -/
inductive Recorder.Call where
  | exchange (address : UInt8) (phases : List Phase)
  | segment (segment offset : UInt8) (count : Nat)
  deriving DecidableEq, Repr

/-- What was asked of a recording bus. -/
structure Recorder where
  calls : List Recorder.Call := []
  entries : List Log.Entry := []
  /-- The number of calls that succeed; without one, all do. -/
  limit : Option Nat := none
  deriving DecidableEq, Repr

namespace Recorder

/-- Bytes that count up from one. -/
def counting (count : Nat) : List UInt8 :=
  (List.range count).map fun index => (index + 1).toUInt8

/-- What a transaction that succeeds reads. -/
def buffers : List Phase → List (List UInt8)
  | [] => []
  | .write _ :: rest => buffers rest
  | .read count :: rest => counting count :: buffers rest

/-- Keep a call and answer it, or fail it with the number of calls so far. -/
def serve {α : Type} (call : Call) (value : α) : StateM Recorder (Except I2c.Error α) := do
  modify fun recorder => { recorder with calls := recorder.calls ++ [call] }
  let recorder ← get
  let count := recorder.calls.length
  if recorder.limit.any (· < count) then
    return .error (.bus count.toUInt32)
  return .ok value

/-- The recording bus. -/
def bus : Edid.Bus (StateM Recorder) where
  exchange address phases := serve (.exchange address phases) (buffers phases)
  readSegment segment offset count := serve (.segment segment offset count) (counting count)
  note entry := modify fun recorder => { recorder with entries := recorder.entries ++ [entry] }

end Recorder

end Scanout.Bench
