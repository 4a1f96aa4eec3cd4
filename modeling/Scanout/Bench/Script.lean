import Scanout.Bench
import Scanout.Snapshot

/-!
# Scripts for the bench

Ways to prepare a bench: an engine that is idle from the start, a register file in which every
entry of the snapshot table has a value of its own, and line samples written as digits.
-/

set_option autoImplicit false
set_option relaxedAutoImplicit false

namespace Scanout.Bench

open I2c Register

/-- A bench whose engine always reads idle. -/
def idling : Bench :=
  ({} : Bench).fix engineStatus.offset engineIdle

/-- Where a bench keeps the value of a snapshot entry: for the aperture register, the data
register of its window. -/
def home : Snapshot.Place → UInt32
  | .direct register => register.offset
  | .aperture => controllerData.offset

/-- Store values that rise from entry to entry of the snapshot table. -/
def seeded (bench : Bench) (seed : Nat) : Bench :=
  Snapshot.table.zipIdx.foldl
    (fun bench (entry, index) => bench.poke (home entry.place) (seed + index * 0x101).toUInt32)
    bench

/-- The levels of a digit, the clock in its upper bit and the data in its lower one. -/
def levels? : Char → Option Levels
  | '0' => some ⟨false, false⟩
  | '1' => some ⟨false, true⟩
  | '2' => some ⟨true, false⟩
  | '3' => some ⟨true, true⟩
  | _ => none

/-- Add samples to those still to come. -/
def feed (bench : Bench) (samples : List Levels) : Bench :=
  { bench with samples := bench.samples ++ samples }

/-- Set what the lines read once the samples are used up: fixed levels, or what is driven. -/
def rest (bench : Bench) (idle : Option Levels) : Bench :=
  { bench with idle }

end Scanout.Bench
