import Scanout.Proofs.I2c.Phase
import Scanout.Proofs.I2c.Transaction

/-!
A write loses nothing and sends nothing twice. Its transactions are as many as it takes for the
bytes, and one where there are none; each is the slave's address with a payload behind it, and the
payloads in order are the bytes (`writeBytes_lossless`). The count of each is in the size register
when it is kicked off, and nothing else there has changed but the prescale of an engine that was set
up.
-/

set_option autoImplicit false
set_option relaxedAutoImplicit false

namespace Scanout.I2c

open Register

/-- What goes into the transactions of a write. -/
def payloads (chunk : Nat) (bytes : List UInt8) : List (List UInt8) :=
  if bytes.isEmpty then [[]] else cut (chunkSizes chunk bytes.length) bytes

/-- The transaction that is due for a payload. -/
def Due.write (address : Address) (payload : List UInt8) : Due :=
  .kick (address.header .write ++ payload) payload.length (i2cDone ||| i2cNack)

theorem flatten_payloads (chunk : Nat) (bytes : List UInt8) :
    (payloads chunk bytes).flatten = bytes := by
  unfold payloads
  split
  · rename_i hnone
    rw [List.isEmpty_iff.mp hnone]
    rfl
  · exact flatten_cut (Nat.le_of_eq (chunkSizes_total chunk bytes.length).symm)

theorem length_payloads {chunk : Nat} (hchunk : 0 < chunk) (bytes : List UInt8) :
    (payloads chunk bytes).length = max 1 (chunkCount chunk bytes.length) := by
  unfold payloads
  split
  · rename_i hnone
    rw [List.isEmpty_iff.mp hnone, List.length_nil, chunkCount_zero hchunk]
    rfl
  · rename_i hsome
    have hlength : 0 < bytes.length := by
      simpa [List.length_pos_iff] using hsome
    rw [length_cut, length_chunkSizes hchunk, chunkCount_cons hchunk hlength]
    omega

theorem length_le_of_mem_payloads {chunk : Nat} (hchunk : 0 < chunk) (bytes : List UInt8) :
    ∀ payload ∈ payloads chunk bytes, payload.length ≤ chunk := by
  unfold payloads
  split
  · simp
  · exact length_le_of_mem_cut (le_of_mem_chunkSizes hchunk _) bytes

namespace Move

theorem writeChunks_eq_flatMap (chunk : Nat) (address : Address) (bytes : List UInt8) :
    writeChunks chunk address bytes = (payloads chunk bytes).flatMap (writeChunk address) := by
  unfold writeChunks payloads
  split <;> rfl

/-- A transaction is due for each payload. -/
theorem dues_writeChunks (chunk : Nat) (address : Address) (bytes : List UInt8) :
    (writeChunks chunk address bytes).flatMap dues =
      (payloads chunk bytes).map (Due.write address) := by
  rw [writeChunks_eq_flatMap, List.flatMap_assoc]
  exact List.map_eq_flatMap.symm

end Move

namespace Controller

/-- Whatever the registers answer, if every wait of a write is complete and the size register
remembers what it is given, the write succeeds. Its transactions are one for each of as many
payloads as it takes for the bytes, at least one; the payloads make up the bytes and fit a chunk.
Each transaction has its count in the size register and finds the rest of it kept. -/
theorem writeBytes_lossless (controller : Controller) (address : Address) (bytes : List UInt8)
    (link : Link) (hvalid : controller.config.validate = .ok ()) {σ : Type}
    (handler : Handler Access.signature σ) (state : σ) (size : UInt32) :
    let program := (controller.writeBytes address bytes).run.run link
    let trace := program.trace handler state
    let chunk := controller.config.chunk
    let deeds := ({ size } : Staging).deeds trace
    (∀ statuses ∈ waits trace, verdict controller.config statuses = .complete) →
    Remembers i2cSize size trace →
    (program.run handler state).1.1 = .ok () ∧
      (∃ payloads : List (List UInt8),
        payloads.length = max 1 ((bytes.length + chunk - 1) / chunk) ∧
        payloads.flatten = bytes ∧ (∀ payload ∈ payloads, payload.length ≤ chunk) ∧
        List.Forall₂ Due.Fits (payloads.map (Due.write address)) deeds) ∧
      chunk ≤ 15 ∧ (∀ deed ∈ deeds, deed.Kept size) ∧
      (({ size } : Staging).after trace).queued = [] := by
  intro program trace chunk deeds hwaits hsize
  obtain ⟨hchunk, hlimit⟩ := chunk_of_validate hvalid
  have hplays : (((Transfer.writeBytes address bytes).exchange controller).run.run link).Plays
      trace (program.run handler state).1 := Program.plays_trace handler program state
  obtain ⟨hok, ⟨hdeeds, hspent, hkept⟩, -⟩ :=
    fulfilled_of_complete hplays hwaits hvalid { size } rfl
  rw [Transfer.moves, Move.dues_writeChunks] at hdeeds
  exact ⟨hok, ⟨payloads chunk bytes, length_payloads hchunk bytes, flatten_payloads chunk bytes,
    length_le_of_mem_payloads hchunk bytes, hdeeds⟩, hlimit, (hkept size (.start size) hsize).1,
    hspent⟩

/-- Five bytes to a ten-bit slave in chunks of two, the last one short, with a size register that
is full of bits. -/
theorem writeBytes_lossless_short :
    let controller : Controller := ⟨{ chunk := 2 }, 1⟩
    let file := RegisterFile.completing.write i2cSize.offset 0xABCDEF12
    let program := (controller.writeBytes (.ten 0x2A5) [1, 2, 3, 4, 5]).run.run {}
    let trace := program.trace RegisterFile.port file
    let deeds := ({ size := 0xABCDEF12 } : Staging).deeds trace
    controller.config.validate = .ok () ∧
      (∀ statuses ∈ waits trace, verdict controller.config statuses = .complete) ∧
      Remembers i2cSize 0xABCDEF12 trace ∧
      (program.run RegisterFile.port file).1.1 = .ok () ∧
      (∃ payloads : List (List UInt8),
        payloads.length = max 1 (([1, 2, 3, 4, 5].length + 2 - 1) / 2) ∧
        payloads.flatten = [1, 2, 3, 4, 5] ∧ (∀ payload ∈ payloads, payload.length ≤ 2) ∧
        List.Forall₂ Due.Fits (payloads.map (Due.write (.ten 0x2A5))) deeds) ∧
      (∀ deed ∈ deeds, deed.Kept 0xABCDEF12) ∧
      (({ size := 0xABCDEF12 } : Staging).after trace).queued = [] := by
  intro controller file program trace deeds
  have hvalid : controller.config.validate = .ok () := rfl
  have hwaits : ∀ statuses ∈ waits trace, verdict controller.config statuses = .complete := by
    decide +kernel
  have hsize : Remembers i2cSize 0xABCDEF12 trace :=
    (file.remembers_trace (by decide) (by decide) program).1
  obtain ⟨hok, hpayloads, -, hkept, hspent⟩ := writeBytes_lossless controller (.ten 0x2A5)
    [1, 2, 3, 4, 5] {} hvalid RegisterFile.port file 0xABCDEF12 hwaits hsize
  exact ⟨hvalid, hwaits, hsize, hok, hpayloads, hkept, hspent⟩

end Controller

end Scanout.I2c
