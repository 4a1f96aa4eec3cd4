import Scanout.Config
import Scanout.Hardware
import Scanout.I2c.Address
import Scanout.I2c.Phase

/-!
# The hardware engine of the monitor bus

The engine moves at most a size field's worth of bytes in one transaction, so longer transfers
are cut into chunks, joined by repeated starts. Every chunk is kicked off and then confirmed by
polling the status. A failure stops the bus and resets the engine, and every transfer ends with a
stop, so the bus is never left started.

Reads are sub-addressed: every chunk sends the offset again. A transfer carries the offset from
the last byte written, or from where the read before it ended.
-/

set_option autoImplicit false
set_option relaxedAutoImplicit false

namespace Scanout.I2c

open Register

/-- The engine bound to one connector. -/
structure Controller where
  config : Config.Controller
  connector : UInt8
  deriving DecidableEq, Repr

/-- The course of a transfer: whether the bus is between a start and its stop, and the bytes that
have arrived. -/
structure Link where
  started : Bool := false
  received : List UInt8 := []
  deriving DecidableEq, Repr

namespace Controller

/-- A step of a transfer that cannot fail. -/
abbrev Step := StateT Link Hardware

/-- A step of a transfer that may fail on the bus. -/
abbrev Exchange := ExceptT Error Step

/-- Bind the engine to a connector; the configuration must be valid. -/
def bind? (config : Config.Controller) (connector : UInt8) : Except Error Controller := do
  config.validate
  return { config, connector }

/-- The connector's place in the start register. -/
def connectorBits (controller : Controller) : UInt32 :=
  (controller.connector.toUInt32 <<< i2cConnectorShift) &&& i2cConnectorMask

/-- Clear the status and pulse the stop condition. -/
def stop : Step Unit := do
  Hardware.write i2cStatus (i2cDone ||| i2cNack ||| i2cHalt)
  Hardware.write i2cStop 1
  Hardware.write i2cStop 0
  modify fun link => { link with started := false }

/-- Start the bus. An engine that is not enabled yet is first set up for its connector. -/
def start (controller : Controller) : Step Unit := do
  let control ← Hardware.read i2cControl
  if control &&& i2cEnabled = 0 then
    Hardware.update i2cControl 0 i2cEnabled
    stop
    Hardware.write i2cStart (i2cKick ||| controller.connectorBits)
    Hardware.update i2cSize i2cPrescaleMask 1
  Hardware.update i2cStart 0 i2cKick
  modify fun link => { link with started := true }

/-- Stop the bus and reset the engine. -/
def reset : Step Unit := do
  stop
  Hardware.update i2cControl 0 i2cReset

/-- Give the next transaction its byte count. -/
def setCount (count : Nat) : Hardware Unit :=
  Hardware.update i2cSize i2cCountMask ((count.toUInt32 <<< i2cCountShift) &&& i2cCountMask)

/-- Latch the acknowledge register again before a new transaction. -/
def latchAcknowledge : Hardware Unit := do
  let acknowledge ← Hardware.read i2cAcknowledge
  Hardware.write i2cAcknowledge acknowledge

/-- Queue bytes in order. -/
def queue : List UInt8 → Hardware Unit
  | [] => return
  | byte :: rest => do
    Hardware.write i2cData byte.toUInt32
    queue rest

/-- Take bytes that arrived, in order. -/
def take : (count : Nat) → Hardware (List UInt8)
  | 0 => return []
  | count + 1 => do
    let value ← Hardware.read i2cData
    let rest ← take count
    return value.toUInt8 :: rest

/-- Set the pending commands. -/
def go (commands : UInt32) : Hardware Unit :=
  Hardware.update i2cStart i2cCommandMask commands

/-- How polling the status ended. -/
inductive Verdict where
  | complete
  | refused
  | unexpected (status : UInt32)
  | undecided
  deriving DecidableEq, Repr

/-- Read the status up to `polls` times, waiting after each one that decides nothing. `done`
counts completions in a row and `nacks` all refusals so far. -/
def poll (config : Config.Controller) : (polls done nacks : Nat) → Hardware Verdict
  | 0, _, _ => return .undecided
  | polls + 1, done, nacks => do
    let status ← Hardware.read i2cStatus
    if status = i2cDone then
      if done + 1 = config.doneReads.toNat then
        return .complete
      Hardware.delay config.pollInterval
      poll config polls (done + 1) nacks
    else if status = i2cNack then
      if config.nackLimit.toNat < nacks + 1 then
        return .refused
      Hardware.delay config.pollInterval
      poll config polls 0 (nacks + 1)
    else if status = i2cPending then
      Hardware.delay config.pollInterval
      poll config polls 0 nacks
    else
      return .unexpected status

/-- Give a transfer up: note why, stop the bus and reset the engine. -/
def abandon (error : Error) (text : String) : Exchange Unit := do
  Hardware.note .warn text
  reset
  throw error

/-- Wait until the transaction is complete. -/
def wait (controller : Controller) (address : Address) : Exchange Unit := do
  let config := controller.config
  Hardware.write i2cStatus i2cPending
  match ← poll config config.pollLimit.toNat 0 0 with
  | .complete => Hardware.write i2cStatus i2cDone
  | .refused =>
    abandon (.nack address.number) ("i2c: no ack from " ++ Text.Hex.short address.number.toNat)
  | .unexpected status =>
    abandon (.bus status) ("i2c: unexpected status " ++ Text.Hex.short status.toNat)
  | .undecided =>
    abandon (.timeout config.pollLimit) (s!"i2c: timed out after {config.pollLimit} polls")

/-- Start a transaction of some bytes after the address, up to its kick. -/
def kick (controller : Controller) (address : Address) (count : Nat) (bytes : List UInt8) :
    Step Unit := do
  controller.start
  setCount count
  latchAcknowledge
  queue (address.header .write)
  queue bytes
  go (i2cDone ||| i2cNack)

/-- Write one chunk. -/
def writeChunk (controller : Controller) (address : Address) (bytes : List UInt8) :
    Exchange Unit := do
  controller.kick address bytes.length bytes
  controller.wait address

/-- Read one chunk from an offset: send the offset, turn the bus around and take the bytes. -/
def readChunk (controller : Controller) (address : Address) (offset : UInt8) (count : Nat) :
    Exchange Unit := do
  controller.kick address 1 [offset]
  controller.wait address
  queue [address.turnaround]
  setCount count
  go (i2cDone ||| i2cNack ||| i2cHalt)
  controller.wait address
  let bytes ← take count
  modify fun link => { link with received := link.received ++ bytes }

/-- Write some chunks in order. -/
def writeEach (controller : Controller) (address : Address) : List (List UInt8) → Exchange Unit
  | [] => return
  | bytes :: rest => do
    controller.writeChunk address bytes
    controller.writeEach address rest

/-- Write bytes, cut into chunks. Even no byte at all is one chunk, which addresses the slave. -/
def writeChunks (controller : Controller) (address : Address) (bytes : List UInt8) :
    Exchange Unit :=
  if bytes.isEmpty then controller.writeChunk address []
  else controller.writeEach address (cut (chunkSizes controller.config.chunk bytes.length) bytes)

/-- Read chunks of the given sizes, each from where the one before it ended. -/
def readEach (controller : Controller) (address : Address) :
    (sizes : List Nat) → (offset : UInt8) → Exchange Unit
  | [], _ => return
  | size :: sizes, offset => do
    controller.readChunk address offset size
    controller.readEach address sizes (offset + size.toUInt8)

/-- Read bytes from an offset, cut into chunks. -/
def readChunks (controller : Controller) (address : Address) (offset : UInt8) (count : Nat) :
    Exchange Unit :=
  controller.readEach address (chunkSizes controller.config.chunk count) offset

/-- Run the phases of a transaction, carrying the offset from one to the next. -/
def runPhases (controller : Controller) (address : Address) :
    List Phase → (offset : UInt8) → Exchange Unit
  | [], _ => return
  | .write bytes :: rest, offset => do
    controller.writeChunks address bytes
    controller.runPhases address rest (bytes.getLast?.getD offset)
  | .read count :: rest, offset => do
    controller.readChunks address offset count
    controller.runPhases address rest (offset + count.toUInt8)

/-- A transfer with the stop that ends it, whatever its outcome. -/
def closed (exchange : Exchange Unit) : Exchange Unit :=
  ExceptT.mk do
    let outcome ← exchange.run
    stop
    return outcome

/-- Write bytes, then stop. -/
def writeBytes (controller : Controller) (address : Address) (bytes : List UInt8) :
    Exchange Unit :=
  closed (controller.writeChunks address bytes)

/-- Read bytes from an offset, then stop. -/
def readAt (controller : Controller) (address : Address) (offset : UInt8) (count : Nat) :
    Exchange Unit :=
  closed (controller.readChunks address offset count)

/-- Run phases, then stop. -/
def transfer (controller : Controller) (address : Address) (phases : List Phase) :
    Exchange Unit :=
  closed (controller.runPhases address phases 0)

/-- Write the byte of a pointer at one slave, read from another without a stop between them,
then stop. -/
def readBehind (controller : Controller) (pointer : Address) (byte : UInt8) (address : Address)
    (offset : UInt8) (count : Nat) : Exchange Unit :=
  closed do
    controller.writeChunk pointer [byte]
    controller.readChunks address offset count

/-- The program of a transfer on a stopped bus: its outcome, and the link that it leaves. -/
def perform (exchange : Exchange Unit) : Hardware (Except Error Unit × Link) :=
  exchange.run.run {}

end Controller

end Scanout.I2c
