import Scanout.Proofs.Edid.Eeprom

/-!
Reading the memory line by line. Against this one slave nothing is left open, so what an exchange
comes to is an equation about its run (`Goes`, `Does`), and master and memory go edge by edge
through a bit, then bit by bit through a byte and byte by byte through a transfer.
-/

set_option autoImplicit false
set_option relaxedAutoImplicit false

namespace Scanout.Edid

open I2c I2c.BitBang

variable {α β : Type} {memory : List UInt8} {slave middle later : Eeprom}

/-- The step comes to a value and takes some bytes in; master and memory stay at the same levels. -/
def Goes (memory : List UInt8) (step : Step α) (slave : Eeprom) (value : α) (bytes : List UInt8)
    (later : Eeprom) : Prop :=
  ∀ received, (step.run ⟨slave.levels, received⟩).run (Eeprom.handler memory) slave =
    ((value, ⟨later.levels, received ++ bytes⟩), later)

/-- The exchange succeeds. -/
def Does (memory : List UInt8) (exchange : BitBang.Exchange α) (slave : Eeprom) (value : α)
    (bytes : List UInt8) (later : Eeprom) : Prop :=
  Goes memory exchange.run slave (.ok value) bytes later

theorem Goes.pure (value : α) : Goes memory (pure value) slave value [] slave := by
  intro received
  rw [List.append_nil]
  rfl

theorem Goes.bind {step : Step α} {rest : α → Step β} {value : α} {out : β}
    {early late : List UInt8} (hstep : Goes memory step slave value early middle)
    (hrest : Goes memory (rest value) middle out late later) :
    Goes memory (step >>= rest) slave out (early ++ late) later := by
  intro received
  rw [StateT.run_bind, Program.bind_eq, Program.run_bind, hstep received, ← List.append_assoc]
  exact hrest (received ++ early)

/-- A program over the lines that leaves them alone. -/
theorem Goes.lift {program : Wires α} {value : α}
    (hprogram : program.run (Eeprom.handler memory) slave = (value, slave)) :
    Goes memory (liftM program) slave value [] slave := by
  intro received
  show ((program.bind fun value ↦ .done (value, _)).run _ _) = _
  rw [Program.run_bind, hprogram, List.append_nil]
  rfl

theorem goes_halfPeriod (config : Config.BitBang) :
    Goes memory (liftM (halfPeriod config)) slave () [] slave :=
  .lift rfl

theorem goes_setData (high : Bool) :
    Goes memory (setData high) slave () [] (slave.follow memory ⟨slave.levels.clock, high⟩) := by
  intro received
  rw [List.append_nil]
  rfl

theorem goes_setClock (high : Bool) :
    Goes memory (setClock high) slave () [] (slave.follow memory ⟨high, slave.levels.data⟩) := by
  intro received
  rw [List.append_nil]
  rfl

namespace Does

theorem pure (value : α) : Does memory (pure value) slave value [] slave :=
  Goes.pure _

theorem bind {exchange : BitBang.Exchange α} {rest : α → BitBang.Exchange β} {value : α} {out : β}
    {early late : List UInt8} (hexchange : Does memory exchange slave value early middle)
    (hrest : Does memory (rest value) middle out late later) :
    Does memory (exchange >>= rest) slave out (early ++ late) later :=
  Goes.bind hexchange hrest

theorem step {step : Step α} {value : α} {bytes : List UInt8}
    (hstep : Goes memory step slave value bytes later) :
    Does memory (liftM step) slave value bytes later := by
  rw [← List.append_nil bytes]
  show Goes memory (step >>= fun value ↦ Pure.pure (Except.ok value)) slave _ _ later
  exact .bind hstep (.pure _)

theorem lift {program : Wires α} {value : α}
    (hprogram : program.run (Eeprom.handler memory) slave = (value, slave)) :
    Does memory (liftM program) slave value [] slave :=
  .step (.lift hprogram)

end Does

/-- The exchange succeeds, with bytes and a memory as the goal says. -/
def Brings (memory : List UInt8) (exchange : BitBang.Exchange Unit) (slave : Eeprom)
    (bytes : List UInt8) (goal : Eeprom → Prop) : Prop :=
  ∃ later, Does memory exchange slave () bytes later ∧ goal later

theorem Brings.bind {exchange : BitBang.Exchange Unit} {rest : Unit → BitBang.Exchange Unit}
    {early late : List UInt8} {goal final : Eeprom → Prop}
    (hexchange : Brings memory exchange slave early goal)
    (hrest : ∀ middle, goal middle → Brings memory (rest ()) middle late final) :
    Brings memory (exchange >>= rest) slave (early ++ late) final := by
  obtain ⟨middle, hearly, hgoal⟩ := hexchange
  obtain ⟨later, hlate, hfinal⟩ := hrest middle hgoal
  exact ⟨later, hearly.bind hlate, hfinal⟩

theorem does_halfPeriod (config : Config.BitBang) :
    Does memory (liftM (halfPeriod config)) slave () [] slave :=
  .lift rfl

/-- A transfer from released lines. -/
theorem Does.perform {exchange : BitBang.Exchange Unit} {bytes : List UInt8} (hrest : slave.AtRest)
    (hdoes : Does memory exchange slave () bytes later) :
    (BitBang.perform exchange).run (Eeprom.handler memory) slave =
      ((.ok (), ⟨later.levels, bytes⟩), later) := by
  have hrun := hdoes []
  rw [hrest.levels] at hrun
  exact hrun

theorem run_release (hrest : slave.AtRest) :
    release.run (Eeprom.handler memory) slave = ((), slave) := by
  obtain ⟨levels⟩ := slave
  obtain rfl : levels = .released := hrest.levels
  rfl

variable {config : Config.BitBang}

/-- A line that is low acknowledges at once. -/
theorem run_awaitAcknowledge (hack : 0 < config.ackTimeout) (hlow : slave.lines.data = false) :
    (awaitAcknowledge config config.ackTimeout.toNat).run (Eeprom.handler memory) slave =
      (true, slave) := by
  obtain ⟨tries, htries⟩ := Nat.exists_eq_add_one.mpr (UInt32.lt_iff_toNat_lt.mp hack)
  rw [htries]
  show (if !slave.lines.data then _ else _ : Wires Bool).run (Eeprom.handler memory) slave = _
  rw [hlow]
  rfl

section Exchanges

variable (hstretch : 0 < config.stretchTimeout)
include hstretch

/-- Nobody holds the clock, so the master sees it high at once. -/
theorem does_clockHigh :
    Does memory (clockHigh config) slave () [] (slave.follow memory ⟨true, slave.levels.data⟩) := by
  have hseen : (awaitClock config config.stretchTimeout.toNat).run (Eeprom.handler memory)
      (slave.follow memory ⟨true, slave.levels.data⟩) =
        (true, slave.follow memory ⟨true, slave.levels.data⟩) := by
    obtain ⟨tries, htries⟩ := Nat.exists_eq_add_one.mpr (UInt32.lt_iff_toNat_lt.mp hstretch)
    rw [htries]
    rfl
  exact .bind (.step (goes_setClock true)) (.bind (.lift hseen) (.pure ()))

theorem does_writeBit (bit : Bool) :
    Does memory (writeBit config bit) slave () [] (slave.pulse memory bit) :=
  .bind (.step (goes_setData bit)) (.bind (does_halfPeriod config)
    (.bind (does_clockHigh hstretch) (.bind (does_halfPeriod config)
      (.step (goes_setClock false)))))

theorem does_readBit :
    Does memory (readBit config) slave (slave.raised memory true).lines.data []
      (slave.pulse memory true) :=
  .bind (.step (goes_setData true)) (.bind (does_halfPeriod config)
    (.bind (does_clockHigh hstretch) (.bind (.lift rfl) (.bind (does_halfPeriod config)
      (.bind (.step (goes_setClock false)) (.pure _))))))

theorem does_writeBits (sent : List Bool) :
    Does memory (writeBits config sent) slave () [] (sent.foldl (Eeprom.pulse memory) slave) := by
  induction sent generalizing slave with
  | nil => exact .pure ()
  | cons bit rest ih => exact .bind (does_writeBit hstretch bit) ih

/-- The bits that are left of the byte that the memory shows. -/
theorem does_readBits {segment offset : UInt8} {place count : Nat} (byte : UInt8)
    (hplace : place + (count + 1) = 8) (hsends : slave.Sends memory segment offset place) :
    ∃ later, Does memory (readBits config (count + 1) byte) slave
        (((List.range' place (count + 1)).map (bitAt (byteAt memory segment offset))).foldl
          shiftIn byte) [] later ∧ later.Sent segment offset := by
  induction count generalizing place byte slave with
  | zero =>
    obtain rfl : place = 7 := by omega
    refine ⟨_, ?_, hsends.last⟩
    rw [List.range'_succ, List.map_cons, ← hsends.lines]
    exact .bind (does_readBit hstretch) (.pure _)
  | succ count ih =>
    obtain ⟨later, hrest, hsent⟩ := ih (shiftIn byte (slave.raised memory true).lines.data)
      (by omega) (hsends.pulse (by omega))
    refine ⟨later, ?_, hsent⟩
    rw [List.range'_succ, List.map_cons, List.foldl_cons, ← hsends.lines]
    exact .bind (does_readBit hstretch) hrest

/-- One byte from the memory. Where the master acknowledges it, the next one follows. -/
theorem does_readByte {segment offset : UInt8} (acknowledge : Bool)
    (hsends : slave.Sends memory segment offset 0) :
    ∃ later,
      Does memory (readByte config acknowledge) slave (byteAt memory segment offset) [] later ∧
      later.levels.clock = false ∧
      (acknowledge = true → later.Sends memory segment (offset + 1) 0) := by
  obtain ⟨middle, hbits, hsent⟩ := does_readBits hstretch 0 (by rfl : 0 + (7 + 1) = 8) hsends
  rw [← List.range_eq_range', ← bits_eq_map_bitAt, foldl_shiftIn_bits] at hbits
  refine ⟨_, .bind hbits (.bind (does_writeBit hstretch _) (.pure _)), rfl, ?_⟩
  rintro rfl
  exact hsent.acknowledged

/-- The bytes are acknowledged up to the last one, so the memory goes on sending up to there. -/
theorem receive_brings {segment offset : UInt8} (count : Nat)
    (hsends : slave.Sends memory segment offset 0) :
    Brings memory (receive config count false) slave (bytesFrom memory segment count offset)
      (fun later ↦ later.levels.clock = false) := by
  induction count generalizing slave offset with
  | zero => exact ⟨slave, .pure (), hsends.low⟩
  | succ count ih =>
    obtain ⟨middle, hbyte, hlow, hnext⟩ := does_readByte hstretch (count != 0 || false) hsends
    have htake : Does memory (modify fun master : Master =>
        { master with received := master.received ++ [byteAt memory segment offset] })
        middle () [byteAt memory segment offset] middle :=
      .step fun _ ↦ rfl
    cases count with
    | zero => exact ⟨middle, .bind hbyte (.bind htake (.pure ())), hlow⟩
    | succ count =>
      obtain ⟨later, hrest, hlow⟩ := ih (hnext rfl)
      exact ⟨later, .bind hbyte (.bind htake hrest), hlow⟩

/-- A byte is acknowledged where the memory pulls the line low once it is complete. -/
theorem send_brings (hack : 0 < config.ackTimeout) (address : Address) (byte : UInt8)
    {stage : Eeprom.Stage} {segment offset : UInt8} (hawaits : slave.Awaits stage segment offset)
    (hlistens : stage = .address ∨ stage = .data) {goal : Eeprom → Prop}
    (hgoal : ∀ data, ∃ reply : Eeprom, (slave.holding data byte 8).fall memory = reply ∧
      reply.pulls = true ∧
      (reply.stage = .addressAcknowledge ∨ reply.stage = .dataAcknowledge) ∧
      goal { Eeprom.fall memory { reply with levels := ⟨false, true⟩ } with
        levels := ⟨false, true⟩ }) :
    Brings memory (send config address byte) slave [] goal := by
  obtain ⟨data, hbits⟩ := Eeprom.foldl_pulse_bits memory byte hawaits.low hawaits.quiet
    (hawaits.stage ▸ hlistens) hawaits.count hawaits.shift
  obtain ⟨reply, hreply, hpulls, hstage, hgoal⟩ := hgoal data
  have hsent : Does memory (writeBits config (bits byte)) slave () []
      ((bits byte).foldl (Eeprom.pulse memory) slave) := does_writeBits hstretch _
  rw [hbits, hreply] at hsent
  obtain ⟨middle, hmiddle⟩ : ∃ middle : Eeprom, middle = { reply with levels := ⟨false, data⟩ } :=
    ⟨_, rfl⟩
  rw [← hmiddle] at hsent
  have hraised : middle.raised memory true = { reply with levels := ⟨true, true⟩ } := by
    rw [Eeprom.raised_acknowledging (by rw [hmiddle]) (by rw [hmiddle]; exact hstage), hmiddle]
  have hseen : (awaitAcknowledge config config.ackTimeout.toNat).run (Eeprom.handler memory)
      (middle.raised memory true) = (true, middle.raised memory true) := by
    refine run_awaitAcknowledge hack ?_
    simp [hraised, Eeprom.lines, hpulls]
  have hbyte : Does memory (writeByte config byte) slave true [] (middle.pulse memory true) :=
    .bind hsent (.bind (.step (goes_setData true)) (.bind (does_halfPeriod config)
      (.bind (does_clockHigh hstretch) (.bind (.lift hseen)
        (.bind (.step (goes_setClock false)) (.pure true))))))
  refine ⟨middle.pulse memory true, .bind hbyte (.pure ()), ?_⟩
  rw [Eeprom.pulse_eq, hraised]
  exact hgoal

theorem start_brings (hopen : slave.levels.clock = true → slave.levels.data = true) :
    Brings memory (start config) slave [] (Eeprom.Awaits .address slave.segment slave.pointer) :=
  ⟨_, .bind (.step (goes_setData true)) (.bind (does_clockHigh hstretch)
    (.bind (does_halfPeriod config) (.bind (.step (goes_setData false))
      (.bind (does_halfPeriod config) (.bind (.step (goes_setClock false))
        (does_halfPeriod config)))))), Eeprom.started hopen⟩

theorem goes_stop (memory : List UInt8) (slave : Eeprom) :
    ∃ later : Eeprom, Goes memory (stop config) slave () [] later ∧ later.AtRest :=
  ⟨_, .bind (goes_setData false) (.bind (goes_halfPeriod config) (.bind (does_clockHigh hstretch)
    (.bind (goes_halfPeriod config) (.bind (goes_setData true) (goes_halfPeriod config))))),
    Eeprom.stopped⟩

/-- The pointers stay over a start, and then one byte addresses a slave. -/
theorem select_brings (direction : Direction) {address : UInt8} (byte : UInt8)
    {goal : Eeprom → Prop}
    (hheader : (Address.seven address).header direction = [byte])
    (hopen : slave.levels.clock = true → slave.levels.data = true)
    (hsend : ∀ middle, middle.Awaits .address slave.segment slave.pointer →
      Brings memory (send config (.seven address) byte) middle [] goal) :
    Brings memory (select config (.seven address) direction) slave [] goal := by
  have hall : ∀ middle, middle.Awaits .address slave.segment slave.pointer →
      Brings memory (sendAll config (.seven address) ((Address.seven address).header direction))
        middle [] goal := by
    intro middle hmiddle
    rw [hheader]
    exact (hsend middle hmiddle).bind fun later hgoal ↦ ⟨later, .pure (), hgoal⟩
  cases direction <;> exact (start_brings hstretch hopen).bind hall

/-- The segment that is read last is forgotten with the stop. -/
theorem closed_does {exchange : BitBang.Exchange Unit} {bytes : List UInt8}
    (hexchange : Brings memory exchange slave bytes fun _ ↦ True) :
    ∃ later : Eeprom, Does memory (closed config exchange) slave () bytes later ∧
      later.AtRest := by
  obtain ⟨middle, hbytes, -⟩ := hexchange
  obtain ⟨later, hstop, hrest⟩ := goes_stop hstretch memory middle
  refine ⟨later, ?_, hrest⟩
  rw [← List.append_nil bytes]
  exact Goes.bind hbytes (hstop.bind (.pure _))

section Bytes

variable (hack : 0 < config.ackTimeout) {segment offset : UInt8} (address : Address)
include hack

/-- The memory answers to its own address for writing. -/
theorem send_write_brings (hawaits : slave.Awaits .address segment offset) :
    Brings memory (send config address 0xA0) slave []
      (fun later ↦ later.Awaits .data segment offset ∧ later.toSegment = false) := by
  refine send_brings hstretch hack address _ hawaits (.inl rfl) fun data ↦
    ⟨_, Eeprom.fall_memory hawaits.stage data false (by decide) (by decide), ?_⟩
  exact ⟨rfl, .inl rfl, ⟨rfl, rfl, rfl, rfl, rfl, hawaits.segment, hawaits.pointer⟩, rfl⟩

/-- The memory answers to the address of the segment pointer. -/
theorem send_pointer_brings (hawaits : slave.Awaits .address segment offset) :
    Brings memory (send config address 0x60) slave []
      (fun later ↦ later.Awaits .data segment offset ∧ later.toSegment = true) := by
  refine send_brings hstretch hack address _ hawaits (.inl rfl) fun data ↦
    ⟨_, Eeprom.fall_segment hawaits.stage data, ?_⟩
  exact ⟨rfl, .inl rfl, ⟨rfl, rfl, rfl, rfl, rfl, hawaits.segment, hawaits.pointer⟩, rfl⟩

/-- Addressed for reading, the memory begins to send where its pointers are. -/
theorem send_read_brings (hawaits : slave.Awaits .address segment offset) :
    Brings memory (send config address 0xA1) slave []
      (Eeprom.Sends memory segment offset 0) := by
  refine send_brings hstretch hack address _ hawaits (.inl rfl) fun data ↦
    ⟨_, Eeprom.fall_memory hawaits.stage data true (by decide) (by decide), ?_⟩
  refine ⟨rfl, .inl rfl, rfl, rfl, rfl, ?_, hawaits.segment, hawaits.pointer⟩
  rw [← hawaits.segment, ← hawaits.pointer]
  rfl

/-- A data byte goes to the pointer that was addressed. -/
theorem send_data_brings (byte : UInt8) {toSegment : Bool}
    (hawaits : slave.Awaits .data segment offset) (htarget : slave.toSegment = toSegment) :
    Brings memory (send config address byte) slave []
      (Eeprom.Awaits .data (if toSegment then byte else segment)
        (if toSegment then offset else byte)) := by
  refine send_brings hstretch hack address _ hawaits (.inr rfl) fun data ↦ ⟨_, rfl, ?_⟩
  rw [Eeprom.fall_data hawaits.stage, Eeprom.stored,
    show (slave.holding data byte 8).toSegment = toSegment from htarget]
  cases toSegment with
  | true => exact ⟨rfl, .inr rfl, rfl, rfl, rfl, rfl, rfl, rfl, hawaits.pointer⟩
  | false => exact ⟨rfl, .inr rfl, rfl, rfl, rfl, rfl, rfl, hawaits.segment, rfl⟩

/-- An offset is written and bytes are read from there, in the segment that the pointer is at. -/
theorem runPhases_brings (count : Nat)
    (hopen : slave.levels.clock = true → slave.levels.data = true) :
    Brings memory
      (runPhases config (.seven memoryAddress) [.write [offset], .read count] none) slave
      (bytesFrom memory slave.segment count offset) (fun _ ↦ True) := by
  have hwrite : Brings memory (select config (.seven memoryAddress) .write) slave []
      (fun later ↦ later.Awaits .data slave.segment slave.pointer ∧ later.toSegment = false) :=
    select_brings hstretch .write 0xA0 (by decide) hopen fun middle hawaits ↦
      send_write_brings hstretch hack _ hawaits
  rw [runPhases, if_pos (by decide)]
  refine hwrite.bind fun first ⟨hawaits, htarget⟩ ↦ ?_
  rw [sendAll, sendAll]
  have hoffset : Brings memory (do send config (.seven memoryAddress) offset; return) first []
      (Eeprom.Awaits .data slave.segment offset) :=
    (send_data_brings hstretch hack _ offset hawaits htarget).bind fun second hsecond ↦
      ⟨second, .pure (), hsecond⟩
  refine hoffset.bind fun second hsecond ↦ ?_
  have hread : Brings memory (select config (.seven memoryAddress) .read) second []
      (Eeprom.Sends memory slave.segment offset 0) := by
    refine select_brings hstretch .read 0xA1 (by decide) (by simp [hsecond.low])
      fun middle hawaits ↦ ?_
    rw [hsecond.segment, hsecond.pointer] at hawaits
    exact send_read_brings hstretch hack _ hawaits
  rw [runPhases, if_pos (by decide)]
  refine hread.bind fun third hsends ↦ ?_
  rw [← List.append_nil (bytesFrom memory slave.segment count offset)]
  exact (receive_brings hstretch count hsends).bind fun last _ ↦ ⟨last, .pure (), trivial⟩

theorem transfer_does (memory : List UInt8) (offset : UInt8) (count : Nat) (hrest : slave.AtRest) :
    ∃ later : Eeprom, Does memory
        (transfer config (.seven memoryAddress) [.write [offset], .read count]) slave ()
        (bytesFrom memory 0 count offset) later ∧ later.AtRest := by
  have hopen : slave.levels.clock = true → slave.levels.data = true := by
    simp [hrest.levels, Levels.released]
  rw [← hrest.segment]
  exact closed_does hstretch (runPhases_brings hstretch hack count hopen)

theorem readBehind_does (memory : List UInt8) (segment offset : UInt8) (count : Nat)
    (hrest : slave.AtRest) :
    ∃ later : Eeprom, Does memory
        (readBehind config (.seven segmentAddress) segment (.seven memoryAddress) offset count)
        slave () (bytesFrom memory segment count offset) later ∧ later.AtRest := by
  have hopen : slave.levels.clock = true → slave.levels.data = true := by
    simp [hrest.levels, Levels.released]
  have hpointer : Brings memory (select config (.seven segmentAddress) .write) slave []
      (fun later ↦ later.Awaits .data slave.segment slave.pointer ∧ later.toSegment = true) :=
    select_brings hstretch .write 0x60 (by decide) hopen fun middle hawaits ↦
      send_pointer_brings hstretch hack _ hawaits
  refine closed_does hstretch (hpointer.bind ?_)
  rintro first ⟨hawaits, htarget⟩
  refine (send_data_brings hstretch hack _ segment hawaits htarget).bind fun second hsecond ↦ ?_
  have hopen : second.levels.clock = true → second.levels.data = true := by simp [hsecond.low]
  have hsegment : second.segment = segment := hsecond.segment
  rw [← hsegment]
  exact runPhases_brings hstretch hack count hopen

end Bytes

section Blocks

variable (hack : 0 < config.ackTimeout)
include hack

theorem run_readFirst (memory : List UInt8) (offset : UInt8) (count : Nat) (hrest : slave.AtRest) :
    ∃ later : Eeprom,
      (readFirst (Bus.ofBitBang config) offset count).run (Eeprom.handler memory) slave =
        (.ok (bytesFrom memory 0 count offset), later) ∧ later.AtRest := by
  obtain ⟨later, hdoes, hlater⟩ := transfer_does hstretch hack memory offset count hrest
  refine ⟨later, ?_, hlater⟩
  have hbuffers : Phase.buffers [.write [offset], .read count] (bytesFrom memory 0 count offset) =
      [bytesFrom memory 0 count offset] := by
    have hread := Phase.buffers_read (length_bytesFrom memory 0 offset count) [] []
    rwa [List.append_nil] at hread
  simp only [readFirst, Bus.ofBitBang, Program.bind_eq, Program.run_bind, hdoes.perform hrest]
  simp [answer, hbuffers, Except.map]

theorem run_readSegment (memory : List UInt8) (segment offset : UInt8) (count : Nat)
    (hrest : slave.AtRest) :
    ∃ later : Eeprom,
      ((Bus.ofBitBang config).readSegment segment offset count).run (Eeprom.handler memory) slave =
        (.ok (bytesFrom memory segment count offset), later) ∧ later.AtRest := by
  obtain ⟨later, hdoes, hlater⟩ := readBehind_does hstretch hack memory segment offset count hrest
  refine ⟨later, ?_, hlater⟩
  simp only [Bus.ofBitBang, Segment.ofBitBang, Program.bind_eq, Program.run_bind,
    hdoes.perform hrest]
  simp [Except.map, Phase.fill_of_length (length_bytesFrom _ _ _ _)]

variable {segments : Nat} (hmemory : memory.length = 256 * segments)
include hmemory

/-- Reading a block comes to its bytes and leaves the memory at rest. -/
theorem run_readBlock {block : UInt8} (hblock : (block / 2).toNat < segments)
    (hrest : slave.AtRest) :
    ∃ later : Eeprom, (readBlock (Bus.ofBitBang config) block).run (Eeprom.handler memory) slave =
        (.ok ((memory.drop (blockLength * block.toNat)).take blockLength), later) ∧
      later.AtRest := by
  rw [← bytesFrom_block hmemory hblock, readBlock]
  split
  · rename_i hfirst
    have hzero : block / 2 = 0 := by
      refine UInt8.toNat_inj.mp ?_
      rw [UInt8.toNat_div]
      exact Nat.div_eq_of_lt (UInt8.lt_iff_toNat_lt.mp hfirst)
    obtain ⟨later, hread, hlater⟩ :=
      run_readFirst hstretch hack memory (block % 2 * 128) blockLength hrest
    refine ⟨later, ?_, hlater⟩
    rw [hzero]
    simp only [Program.bind_eq, Program.run_bind, hread]
    rfl
  · obtain ⟨later, hread, hlater⟩ :=
      run_readSegment hstretch hack memory (block / 2) (block % 2 * 128) blockLength hrest
    refine ⟨later, ?_, hlater⟩
    simp only [Program.bind_eq, Program.run_bind, hread]
    rfl

/-- Any blocks in any order: each comes to its bytes, and the memory is at rest after it. -/
theorem run_mapM_readBlock {blocks : List UInt8}
    (hblocks : ∀ block ∈ blocks, (block / 2).toNat < segments) (hrest : slave.AtRest) :
    ∃ later : Eeprom,
      (blocks.mapM (readBlock (Bus.ofBitBang config))).run (Eeprom.handler memory) slave =
        (blocks.map fun block ↦
          .ok ((memory.drop (blockLength * block.toNat)).take blockLength), later) ∧
      later.AtRest := by
  induction blocks generalizing slave with
  | nil => exact ⟨slave, rfl, hrest⟩
  | cons block rest ih =>
    obtain ⟨hblock, hmore⟩ := List.forall_mem_cons.mp hblocks
    obtain ⟨middle, hfirst, hmiddle⟩ := run_readBlock hstretch hack hmemory hblock hrest
    obtain ⟨later, hothers, hlater⟩ := ih hmore hmiddle
    refine ⟨later, ?_, hlater⟩
    rw [List.mapM_cons, Program.bind_eq, Program.run_bind, hfirst, Program.bind_eq,
      Program.run_bind, hothers]
    rfl

end Blocks

end Exchanges

/-- Once the lines are taken over, any blocks can be read in any order. Each read comes to the
bytes of its block, and since this holds of every list of blocks, the memory is at rest with its
segment pointer at zero after every one of them. -/
theorem readBlocks_returns_memory {memory : List UInt8} {segments : Nat}
    (hmemory : memory.length = 256 * segments) {config : Config.BitBang}
    (hack : 0 < config.ackTimeout) (hstretch : 0 < config.stretchTimeout) {blocks : List UInt8}
    (hblocks : ∀ block ∈ blocks, (block / 2).toNat < segments) {slave : Eeprom}
    (hrest : slave.AtRest) :
    ∃ later : Eeprom,
      (release.bind fun _ ↦ blocks.mapM (readBlock (Bus.ofBitBang config))).run
          (Eeprom.handler memory) slave =
        (blocks.map fun block ↦ .ok ((memory.drop (128 * block.toNat)).take 128), later) ∧
      later.AtRest := by
  rw [Program.run_bind, run_release hrest]
  exact run_mapM_readBlock hstretch hack hmemory hblocks hrest

/-- Two segments, read from the second back to the first. -/
theorem readBlocks_returns_memory_twoSegments :
    ∃ later : Eeprom,
      (release.bind fun _ ↦ [3, 0, 2].mapM (readBlock (Bus.ofBitBang {}))).run
          (Eeprom.handler ((List.range 512).map UInt8.ofNat)) {} =
        ([3, 0, 2].map fun block : UInt8 ↦
          .ok ((((List.range 512).map UInt8.ofNat).drop (128 * block.toNat)).take 128), later) ∧
      later.AtRest := by
  have hmemory : ((List.range 512).map UInt8.ofNat).length = 256 * 2 := by simp
  have hblocks : ∀ block ∈ ([3, 0, 2] : List UInt8), (block / 2).toNat < 2 := by
    simp only [List.forall_mem_cons]
    exact ⟨by decide, by decide, by decide, by simp⟩
  have hrest : Eeprom.AtRest {} := ⟨rfl, rfl, rfl, rfl⟩
  exact readBlocks_returns_memory hmemory (by decide) (by decide) hblocks hrest

end Scanout.Edid
