import Scanout.Config
import Scanout.I2c.Address
import Scanout.I2c.Phase
import Scanout.I2c.Wire

/-!
# Driving the bus line by line

A master of the two-wire bus that moves the lines itself. Bytes go most significant bit first,
each followed by a slot for the acknowledgement. A slave may hold the clock low for a while;
`clockHigh` waits for it. Every transfer starts from released lines and ends with a stop
condition, also when it fails part way.
-/

set_option autoImplicit false
set_option relaxedAutoImplicit false

namespace Scanout.I2c

/-- The course of a transfer: what the master drives, and the bytes that have arrived. -/
structure Master where
  levels : Levels := .released
  received : List UInt8 := []
  deriving DecidableEq, Repr

namespace BitBang

/-- A step of a transfer that cannot fail. -/
abbrev Step := StateT Master Wires

/-- A step of a transfer that may fail on the bus. -/
abbrev Exchange := ExceptT Error Step

/-- Wait for half a clock period. -/
def halfPeriod (config : Config.BitBang) : Wires Unit :=
  Wires.delay config.halfPeriod

/-- Drive the data line and leave the clock as it is. -/
def setData (high : Bool) : Step Unit := do
  let levels := { (← get).levels with data := high }
  modify fun master => { master with levels }
  Wires.drive levels

/-- Drive the clock line and leave the data as it is. -/
def setClock (high : Bool) : Step Unit := do
  let levels := { (← get).levels with clock := high }
  modify fun master => { master with levels }
  Wires.drive levels

/-- Sample the clock up to `tries` times, half a period apart, until it is high. -/
def awaitClock (config : Config.BitBang) : (tries : Nat) → Wires Bool
  | 0 => return false
  | tries + 1 => do
    let seen ← Wires.sample
    if seen.clock then
      return true
    halfPeriod config
    awaitClock config tries

/-- Release the clock and wait for a slave that holds it. -/
def clockHigh (config : Config.BitBang) : Exchange Unit := do
  setClock true
  if !(← awaitClock config config.stretchTimeout.toNat) then
    Wires.note .warn (s!"ddc: clock stretched past {config.stretchTimeout} half periods")
    throw .clockStretch

/-- A start condition, or a repeated one when the bus is already held. -/
def start (config : Config.BitBang) : Exchange Unit := do
  setData true
  clockHigh config
  halfPeriod config
  setData false
  halfPeriod config
  setClock false
  halfPeriod config

/-- A stop condition. A clock that is stuck was reported by what failed before. -/
def stop (config : Config.BitBang) : Step Unit := do
  setData false
  halfPeriod config
  let _ ← (clockHigh config).run
  halfPeriod config
  setData true
  halfPeriod config

/-- Clock one bit out. -/
def writeBit (config : Config.BitBang) (bit : Bool) : Exchange Unit := do
  setData bit
  halfPeriod config
  clockHigh config
  halfPeriod config
  setClock false

/-- Clock one bit in. -/
def readBit (config : Config.BitBang) : Exchange Bool := do
  setData true
  halfPeriod config
  clockHigh config
  let seen ← Wires.sample
  halfPeriod config
  setClock false
  return seen.data

/-- The bits of a byte, most significant first. -/
def bits (byte : UInt8) : List Bool :=
  [7, 6, 5, 4, 3, 2, 1, 0].map fun place => byte &&& ((1 : UInt8) <<< place) != 0

/-- Clock some bits out in order. -/
def writeBits (config : Config.BitBang) : List Bool → Exchange Unit
  | [] => return
  | bit :: rest => do
    writeBit config bit
    writeBits config rest

/-- Sample the data line up to `tries` times, half a period apart, until it is low. -/
def awaitAcknowledge (config : Config.BitBang) : (tries : Nat) → Wires Bool
  | 0 => return false
  | tries + 1 => do
    let seen ← Wires.sample
    if !seen.data then
      return true
    halfPeriod config
    awaitAcknowledge config tries

/-- Clock one byte out; the answer is whether the slave acknowledged it. -/
def writeByte (config : Config.BitBang) (byte : UInt8) : Exchange Bool := do
  writeBits config (bits byte)
  setData true
  halfPeriod config
  clockHigh config
  let acknowledged ← awaitAcknowledge config config.ackTimeout.toNat
  setClock false
  return acknowledged

/-- Clock some bits in behind those already there. -/
def readBits (config : Config.BitBang) : (count : Nat) → UInt8 → Exchange UInt8
  | 0, byte => return byte
  | count + 1, byte => do
    let bit ← readBit config
    readBits config count ((byte <<< 1) ||| bit.toUInt8)

/-- Clock one byte in and acknowledge it or not. -/
def readByte (config : Config.BitBang) (acknowledge : Bool) : Exchange UInt8 := do
  let byte ← readBits config 8 0
  writeBit config !acknowledge
  return byte

/-- Write one byte, which the slave has to acknowledge. -/
def send (config : Config.BitBang) (address : Address) (byte : UInt8) : Exchange Unit := do
  if !(← writeByte config byte) then
    throw (.nack address.number)

/-- Write some bytes in order. -/
def sendAll (config : Config.BitBang) (address : Address) : List UInt8 → Exchange Unit
  | [] => return
  | byte :: rest => do
    send config address byte
    sendAll config address rest

/-- Open a transfer in one direction. A ten-bit slave is addressed for writing first and then
turned around. -/
def select (config : Config.BitBang) (address : Address) (direction : Direction) :
    Exchange Unit := do
  start config
  match address, direction with
  | .ten _, .read =>
    sendAll config address (address.header .write)
    start config
    send config address address.turnaround
  | _, _ => sendAll config address (address.header direction)

/-- Read some bytes. Each is acknowledged but for the last one, which is only if more reading
`follows`. -/
def receive (config : Config.BitBang) : (count : Nat) → (follows : Bool) → Exchange Unit
  | 0, _ => return
  | count + 1, follows => do
    let byte ← readByte config (count != 0 || follows)
    modify fun master => { master with received := master.received ++ [byte] }
    receive config count follows

/-- The next phase reads. -/
def readsNext : List Phase → Bool
  | .read _ :: _ => true
  | _ => false

/-- Run the phases of a transaction. The slave is addressed again where the direction changes. -/
def runPhases (config : Config.BitBang) (address : Address) :
    List Phase → (previous : Option Direction) → Exchange Unit
  | [], _ => return
  | .write bytes :: rest, previous => do
    if previous ≠ some .write then
      select config address .write
    sendAll config address bytes
    runPhases config address rest (some .write)
  | .read count :: rest, previous => do
    if previous ≠ some .read then
      select config address .read
    receive config count (readsNext rest)
    runPhases config address rest (some .read)

/-- A transfer with the stop that ends it, whatever its outcome. -/
def closed (config : Config.BitBang) (exchange : Exchange Unit) : Exchange Unit :=
  ExceptT.mk do
    let outcome ← exchange.run
    stop config
    return outcome

/-- Run phases, then stop. -/
def transfer (config : Config.BitBang) (address : Address) (phases : List Phase) :
    Exchange Unit :=
  closed config (runPhases config address phases none)

/-- Write the byte of a pointer at one slave, read from another without a stop between them,
then stop. -/
def readBehind (config : Config.BitBang) (pointer : Address) (byte : UInt8) (address : Address)
    (offset : UInt8) (count : Nat) : Exchange Unit :=
  closed config do
    select config pointer .write
    send config pointer byte
    runPhases config address [.write [offset], .read count] none

/-- Release both lines, as they are before the first transfer. -/
def release : Wires Unit :=
  Wires.drive .released

/-- Take the pads at a base over and release their lines. -/
def attach (base : Register.Direct) : Pads.Realisation Unit := do
  Pads.claim base
  Pads.run base release

/-- The program of a transfer on released lines: its outcome, and the master that it leaves. -/
def perform (exchange : Exchange Unit) : Wires (Except Error Unit × Master) :=
  exchange.run.run {}

end BitBang

end Scanout.I2c
