import Scanout.Edid
import Scanout.Proofs.I2c.Bits

/-!
The memory behind a connector as a machine on the two lines. It listens at two addresses, one for
an offset into the memory and one for the segment that the offset counts from, and moves only where
a line does: a start or a stop while the clock is high, otherwise the rising or the falling clock.
It pulls the data line low to acknowledge a byte and to send a zero.

The lemmas follow it through one pulse of the clock, and from there through the eight of a byte.
-/

set_option autoImplicit false
set_option relaxedAutoImplicit false

namespace Scanout.Edid

open I2c
open I2c.BitBang (bits shiftIn bitAt)

/-- What the memory does between two edges of the clock. -/
inductive Eeprom.Stage where
  | idle
  | address
  | addressAcknowledge
  | data
  | dataAcknowledge
  | send
  | sendAcknowledge
  deriving DecidableEq, Repr

/-- The memory's side of the bus. `levels` is what the master drives. -/
structure Eeprom where
  levels : Levels := .released
  pulls : Bool := false
  stage : Eeprom.Stage := .idle
  count : Nat := 0
  shift : UInt8 := 0
  segment : UInt8 := 0
  pointer : UInt8 := 0
  toSegment : Bool := false
  reading : Bool := false
  acknowledged : Bool := false
  deriving DecidableEq, Repr

/-- The byte at an offset of a segment. -/
def byteAt (memory : List UInt8) (segment offset : UInt8) : UInt8 :=
  memory.getD (segment.toNat * 256 + offset.toNat) 0

/-- The bytes from an offset on, as the memory counts its pointer up. -/
def bytesFrom (memory : List UInt8) (segment : UInt8) :
    (count : Nat) → (offset : UInt8) → List UInt8
  | 0, _ => []
  | count + 1, offset =>
    byteAt memory segment offset :: bytesFrom memory segment count (offset + 1)

namespace Eeprom

/-- The levels on the bus: a line is low where either side pulls it. -/
def lines (slave : Eeprom) : Levels :=
  ⟨slave.levels.clock, slave.levels.data && !slave.pulls⟩

/-- Show the bit that is next of the byte at the pointer. -/
def present (memory : List UInt8) (slave : Eeprom) : Eeprom :=
  { slave with pulls := !bitAt (byteAt memory slave.segment slave.pointer) slave.count }

/-- The clock rises: take a bit, or see whether the master acknowledges. -/
def rise (slave : Eeprom) : Eeprom :=
  match slave.stage with
  | .address | .data =>
    { slave with shift := shiftIn slave.shift slave.lines.data, count := slave.count + 1 }
  | .sendAcknowledge => { slave with acknowledged := !slave.levels.data }
  | _ => slave

/-- Listen for the next byte. -/
def listen (slave : Eeprom) : Eeprom :=
  { slave with pulls := false, stage := .data, count := 0, shift := 0 }

/-- The address byte is complete. -/
def addressed (slave : Eeprom) : Eeprom :=
  if slave.shift >>> 1 = memoryAddress then
    { slave with
      reading := slave.shift &&& 1 != 0, toSegment := false, pulls := true
      stage := .addressAcknowledge }
  else if slave.shift = segmentAddress <<< 1 then
    { slave with reading := false, toSegment := true, pulls := true, stage := .addressAcknowledge }
  else { slave with stage := .idle }

/-- A data byte is complete. -/
def stored (slave : Eeprom) : Eeprom :=
  if slave.toSegment then
    { slave with segment := slave.shift, pulls := true, stage := .dataAcknowledge }
  else { slave with pointer := slave.shift, pulls := true, stage := .dataAcknowledge }

/-- The clock falls. -/
def fall (memory : List UInt8) (slave : Eeprom) : Eeprom :=
  match slave.stage with
  | .idle => slave
  | .address => if slave.count = 8 then slave.addressed else slave
  | .data => if slave.count = 8 then slave.stored else slave
  | .addressAcknowledge =>
    if slave.reading then present memory { slave with stage := .send, count := 0 }
    else slave.listen
  | .dataAcknowledge => slave.listen
  | .send =>
    if slave.count + 1 = 8 then
      { slave with count := slave.count + 1, pulls := false, stage := .sendAcknowledge }
    else present memory { slave with count := slave.count + 1 }
  | .sendAcknowledge =>
    if slave.acknowledged then
      present memory { slave with pointer := slave.pointer + 1, stage := .send, count := 0 }
    else { slave with pointer := slave.pointer + 1, stage := .idle }

/-- The data line moves while the clock is high. A stop takes the segment back to the first. -/
def signal (slave : Eeprom) (data : Bool) : Eeprom :=
  let quiet := { slave with pulls := false, count := 0, shift := 0 }
  if data then { quiet with stage := .idle, segment := 0 } else { quiet with stage := .address }

/-- The lines have gone over from the levels before to those of the slave. -/
def react (memory : List UInt8) (before : Levels) (slave : Eeprom) : Eeprom :=
  match before.clock, slave.levels.clock with
  | true, true =>
    if before.data = slave.levels.data then slave else slave.signal slave.levels.data
  | false, true => slave.rise
  | true, false => slave.fall memory
  | false, false => slave

/-- The master drives the lines to new levels. -/
def follow (memory : List UInt8) (slave : Eeprom) (levels : Levels) : Eeprom :=
  { react memory slave.levels { slave with levels } with levels }

/-- The memory answers what is on the lines. -/
def handler (memory : List UInt8) : Handler WireAccess.signature Eeprom where
  answer
    | .drive levels, slave => ((), slave.follow memory levels)
    | .sample, slave => (slave.lines, slave)
    | .delay _, slave | .note _, slave => ((), slave)

/-- The memory rests: nothing is going on, and both lines are released. -/
structure AtRest (slave : Eeprom) : Prop where
  stage : slave.stage = .idle
  segment : slave.segment = 0
  levels : slave.levels = .released
  quiet : slave.pulls = false

/-- The memory waits at a segment and an offset for the first bit of a byte. -/
structure Awaits (stage : Stage) (segment offset : UInt8) (slave : Eeprom) : Prop where
  low : slave.levels.clock = false
  quiet : slave.pulls = false
  stage : slave.stage = stage
  count : slave.count = 0
  shift : slave.shift = 0
  segment : slave.segment = segment
  pointer : slave.pointer = offset

/-- The memory shows a bit of the byte at a segment and an offset. -/
structure Sends (memory : List UInt8) (segment offset : UInt8) (place : Nat) (slave : Eeprom) :
    Prop where
  low : slave.levels.clock = false
  stage : slave.stage = .send
  count : slave.count = place
  shows : slave.pulls = !bitAt (byteAt memory segment offset) place
  segment : slave.segment = segment
  pointer : slave.pointer = offset

/-- The memory has sent the byte at a segment and an offset. -/
structure Sent (segment offset : UInt8) (slave : Eeprom) : Prop where
  low : slave.levels.clock = false
  stage : slave.stage = .sendAcknowledge
  segment : slave.segment = segment
  pointer : slave.pointer = offset

/-- One pulse of the clock with the data line at a level: first while the clock is high, then after
it has fallen. -/
def raised (memory : List UInt8) (slave : Eeprom) (data : Bool) : Eeprom :=
  (slave.follow memory ⟨slave.levels.clock, data⟩).follow memory ⟨true, data⟩

def pulse (memory : List UInt8) (slave : Eeprom) (data : Bool) : Eeprom :=
  (slave.raised memory data).follow memory ⟨false, data⟩

/-- The memory with part of a byte taken. -/
def holding (slave : Eeprom) (data : Bool) (shift : UInt8) (count : Nat) : Eeprom :=
  { slave with levels := ⟨false, data⟩, shift, count }

section Pulse

variable {memory : List UInt8} {slave : Eeprom}

theorem raised_of_low (hlow : slave.levels.clock = false) (data : Bool) :
    slave.raised memory data =
      { rise { slave with levels := ⟨true, data⟩ } with levels := ⟨true, data⟩ } := by
  simp [raised, follow, react, hlow]

theorem pulse_eq (data : Bool) :
    slave.pulse memory data =
      { fall memory { slave.raised memory data with levels := ⟨false, data⟩ } with
        levels := ⟨false, data⟩ } := rfl

/-- A bit is taken while the byte has room for another. -/
theorem pulse_collecting (hlow : slave.levels.clock = false) (hquiet : slave.pulls = false)
    (hstage : slave.stage = .address ∨ slave.stage = .data) (hroom : slave.count + 1 < 8)
    (data : Bool) :
    slave.pulse memory data =
      slave.holding data (shiftIn slave.shift data) (slave.count + 1) := by
  have hcount : slave.count ≠ 7 := by omega
  rw [pulse_eq, raised_of_low hlow]
  rcases hstage with hstage | hstage <;>
    simp [rise, fall, lines, holding, hquiet, hstage, hcount]

/-- The eighth bit completes the byte, which the slave then acts on. -/
theorem pulse_complete (hlow : slave.levels.clock = false) (hquiet : slave.pulls = false)
    (hstage : slave.stage = .address ∨ slave.stage = .data) (hcount : slave.count = 7)
    (data : Bool) :
    slave.pulse memory data =
      { fall memory (slave.holding data (shiftIn slave.shift data) 8) with
        levels := ⟨false, data⟩ } := by
  rw [pulse_eq, raised_of_low hlow]
  rcases hstage with hstage | hstage <;>
    simp [rise, fall, lines, holding, hquiet, hstage, hcount]

variable (memory) in
theorem foldl_pulse_collecting (received : List Bool) (hlow : slave.levels.clock = false)
    (hquiet : slave.pulls = false) (hstage : slave.stage = .address ∨ slave.stage = .data)
    (hroom : slave.count + received.length < 8) :
    ∃ data, received.foldl (pulse memory) slave =
      slave.holding data (received.foldl shiftIn slave.shift) (slave.count + received.length) := by
  induction received generalizing slave with
  | nil =>
    refine ⟨slave.levels.data, ?_⟩
    rw [holding, ← hlow]
    rfl
  | cons bit rest ih =>
    rw [List.length_cons] at hroom
    rw [List.foldl_cons, pulse_collecting hlow hquiet hstage (by omega)]
    have hheld : (slave.holding bit (shiftIn slave.shift bit) (slave.count + 1)).levels.clock =
        false := rfl
    have hrest : slave.count + 1 + rest.length < 8 := by omega
    obtain ⟨data, hheld⟩ := ih hheld hquiet hstage hrest
    refine ⟨data, hheld.trans ?_⟩
    rw [List.length_cons, ← Nat.add_assoc, Nat.add_right_comm]
    rfl

variable (memory) in
theorem foldl_pulse_bits (byte : UInt8) (hlow : slave.levels.clock = false)
    (hquiet : slave.pulls = false) (hstage : slave.stage = .address ∨ slave.stage = .data)
    (hcount : slave.count = 0) (hshift : slave.shift = 0) :
    ∃ data, (bits byte).foldl (pulse memory) slave =
      { fall memory (slave.holding data byte 8) with levels := ⟨false, data⟩ } := by
  obtain ⟨early, last, hsplit, hlength⟩ :
      ∃ early last, bits byte = early ++ [last] ∧ early.length = 7 :=
    ⟨(bits byte).dropLast, bitAt byte 7, rfl, rfl⟩
  obtain ⟨data, hearly⟩ := foldl_pulse_collecting memory early hlow hquiet hstage (by omega)
  have hbyte : shiftIn (early.foldl shiftIn 0) last = byte := by
    have hbits := BitBang.foldl_shiftIn_bits byte
    rwa [hsplit, List.foldl_append] at hbits
  rw [hshift, hcount, hlength] at hearly
  have hheld : (slave.holding data (early.foldl shiftIn 0) 7).levels.clock = false := rfl
  refine ⟨last, ?_⟩
  rw [hsplit, List.foldl_append, hearly, List.foldl_cons, List.foldl_nil,
    pulse_complete hheld hquiet hstage rfl]
  show { fall memory (slave.holding last (shiftIn (early.foldl shiftIn 0) last) 8) with
    levels := ⟨false, last⟩ } = _
  rw [hbyte]

/-- The memory answers to its own address, in either direction. -/
theorem fall_memory (hstage : slave.stage = .address) (data reading : Bool) {byte : UInt8}
    (hbyte : byte >>> 1 = memoryAddress) (hreading : (byte &&& 1 != 0) = reading) :
    (slave.holding data byte 8).fall memory =
      { slave.holding data byte 8 with
        reading, toSegment := false, pulls := true, stage := .addressAcknowledge } := by
  subst hreading
  simp [fall, holding, addressed, hstage, hbyte]

/-- The memory answers to the address of its segment pointer. -/
theorem fall_segment (hstage : slave.stage = .address) (data : Bool) :
    (slave.holding data (segmentAddress <<< 1) 8).fall memory =
      { slave.holding data (segmentAddress <<< 1) 8 with
        reading := false, toSegment := true, pulls := true, stage := .addressAcknowledge } := by
  have hother : ¬ (segmentAddress <<< 1) >>> 1 = memoryAddress := by decide
  simp [fall, holding, addressed, hstage, hother]

theorem fall_data (hstage : slave.stage = .data) (data : Bool) (byte : UInt8) :
    (slave.holding data byte 8).fall memory = (slave.holding data byte 8).stored := by
  simp [fall, holding, hstage]

variable (memory) in
theorem raised_keeps (hopen : slave.levels.clock = true → slave.levels.data = true) :
    (slave.raised memory true).segment = slave.segment ∧
      (slave.raised memory true).pointer = slave.pointer := by
  by_cases hclock : slave.levels.clock = true
  · simp [raised, follow, react, hclock, hopen hclock]
  · rw [raised_of_low (Bool.eq_false_iff.mpr hclock)]
    unfold rise
    split <;> exact ⟨rfl, rfl⟩

/-- After a start the memory listens for its address; the segment and the offset stay. -/
theorem started (hopen : slave.levels.clock = true → slave.levels.data = true) :
    (((slave.raised memory true).follow memory ⟨true, false⟩).follow memory ⟨false, false⟩).Awaits
      .address slave.segment slave.pointer := by
  obtain ⟨hsegment, hpointer⟩ := raised_keeps memory hopen
  have hlevels : (slave.raised memory true).levels = ⟨true, true⟩ := rfl
  constructor <;> simp [follow, react, signal, fall, hlevels, hsegment, hpointer]

/-- A stop ends everything, whatever was going on. -/
theorem stopped : ((slave.raised memory false).follow memory ⟨true, true⟩).AtRest := by
  have hlevels : (slave.raised memory false).levels = ⟨true, false⟩ := rfl
  constructor <;> simp [follow, react, signal, hlevels, Levels.released]

/-- While the memory acknowledges, the rising clock does not move it. -/
theorem raised_acknowledging (hlow : slave.levels.clock = false)
    (hstage : slave.stage = .addressAcknowledge ∨ slave.stage = .dataAcknowledge) (data : Bool) :
    slave.raised memory data = { slave with levels := ⟨true, data⟩ } := by
  rw [raised_of_low hlow]
  rcases hstage with hstage | hstage <;> simp [rise, hstage]

variable {segment offset : UInt8} {place : Nat}

/-- While the clock is high the line shows the bit. -/
theorem Sends.lines (hsends : Sends memory segment offset place slave) :
    (slave.raised memory true).lines.data = bitAt (byteAt memory segment offset) place := by
  rw [raised_of_low hsends.low]
  simp [rise, Eeprom.lines, hsends.stage, hsends.shows]

theorem Sends.pulse (hsends : Sends memory segment offset place slave) (hplace : place + 1 < 8) :
    Sends memory segment offset (place + 1) (slave.pulse memory true) := by
  have hmore : place ≠ 7 := by omega
  rw [pulse_eq, raised_of_low hsends.low]
  constructor <;>
    simp [rise, fall, present, hsends.stage, hsends.count, hsends.segment, hsends.pointer, hmore]

theorem Sends.last (hsends : Sends memory segment offset 7 slave) :
    Sent segment offset (slave.pulse memory true) := by
  rw [pulse_eq, raised_of_low hsends.low]
  constructor <;> simp [rise, fall, hsends.stage, hsends.count, hsends.segment, hsends.pointer]

/-- A byte that the master acknowledges is followed by the next one. -/
theorem Sent.acknowledged (hsent : Sent segment offset slave) :
    Sends memory segment (offset + 1) 0 (slave.pulse memory false) := by
  rw [pulse_eq, raised_of_low hsent.low]
  constructor <;> simp [rise, fall, present, hsent.stage, hsent.segment, hsent.pointer]

end Pulse

end Eeprom

section Memory

variable {memory : List UInt8}

theorem length_bytesFrom (memory : List UInt8) (segment offset : UInt8) (count : Nat) :
    (bytesFrom memory segment count offset).length = count := by
  induction count generalizing offset with
  | zero => rfl
  | succ count ih => rw [bytesFrom, List.length_cons, ih]

/-- Within one segment the pointer does not wrap, and the bytes are consecutive. -/
theorem bytesFrom_eq {segment offset : UInt8} {count : Nat}
    (hsegment : offset.toNat + count ≤ 256)
    (hmemory : segment.toNat * 256 + offset.toNat + count ≤ memory.length) :
    bytesFrom memory segment count offset =
      (memory.drop (segment.toNat * 256 + offset.toNat)).take count := by
  induction count generalizing offset with
  | zero => simp [bytesFrom]
  | succ count ih =>
    have hhead : segment.toNat * 256 + offset.toNat < memory.length := by omega
    rw [bytesFrom, List.drop_eq_getElem_cons hhead, List.take_succ_cons, byteAt,
      List.getD_eq_getElem?_getD, List.getElem?_eq_getElem hhead, Option.getD_some]
    congr 1
    cases count with
    | zero => simp [bytesFrom]
    | succ count =>
      have hnext : (offset + 1).toNat = offset.toNat + 1 := by
        rw [UInt8.toNat_add]
        exact Nat.mod_eq_of_lt (by have : (1 : UInt8).toNat = 1 := rfl; omega)
      rw [ih (by omega) (by omega), hnext, Nat.add_assoc]

/-- The bytes of a block are those that its segment has from its offset on. -/
theorem bytesFrom_block {segments : Nat} (hmemory : memory.length = 256 * segments)
    {block : UInt8} (hblock : (block / 2).toNat < segments) :
    bytesFrom memory (block / 2) blockLength ((block % 2) * 128) =
      (memory.drop (blockLength * block.toNat)).take blockLength := by
  have hoffset : ((block % 2) * 128).toNat = block.toNat % 2 * 128 := by
    simp only [UInt8.toNat_mul, UInt8.toNat_mod, UInt8.toNat_ofNat, Nat.reducePow, Nat.reduceMod]
    omega
  have hsegment : (block / 2).toNat = block.toNat / 2 := rfl
  rw [hsegment] at hblock
  rw [bytesFrom_eq (by rw [hoffset, blockLength]; omega)
    (by rw [hsegment, hoffset, blockLength]; omega), hsegment, hoffset]
  congr 2
  rw [blockLength]
  omega

end Memory

end Scanout.Edid
