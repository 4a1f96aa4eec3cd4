import Scanout.Proofs.I2c.Framing
import Scanout.Proofs.I2c.Marks
import Scanout.Proofs.I2c.Phase

/-!
A read behind the segment pointer is one transaction. The pointer falls back to zero at every stop,
so there must be none between the byte that moves it and the last byte that is read; on either
transport there is only the one at the end (`readSegment_stops_once`). The hardware engine is seen
through the marks of its moves, the line-by-line master through the starts and stops of its frame.
-/

set_option autoImplicit false
set_option relaxedAutoImplicit false

namespace Scanout

open Register

namespace I2c

/-- No move pulses a stop. -/
theorem Move.stop_not_mem_marks (move : Move) (value : UInt32) : .stop value ∉ move.marks := by
  cases move <;> simp [marks]

theorem Move.stop_not_mem_flatMap (moves : List Move) (value : UInt32) :
    .stop value ∉ moves.flatMap marks := by
  rw [List.mem_flatMap]
  rintro ⟨move, -, hmem⟩
  exact move.stop_not_mem_marks value hmem

theorem Move.count_get_marks (move : Move) : move.marks.count .get = move.taken := by
  cases move <;> simp [marks, taken, List.count_eq_zero]

/-!
Starts and stops among the symbols are those among the signs.
-/

/-- What the lines show by a change of the data line while the clock is high. -/
inductive Condition where
  | start
  | stop
  deriving DecidableEq, Repr

def Symbol.condition? : Symbol → Option Condition
  | start => some .start
  | stop => some .stop
  | pulse _ _ => none

def Sign.condition? : Sign → Option Condition
  | start => some .start
  | stop => some .stop
  | put _ | get _ => none

theorem Sign.Shows.condition? {sign : Sign} {symbol : Symbol} (hshows : sign.Shows symbol) :
    symbol.condition? = sign.condition? := by
  cases sign <;> cases symbol <;> first | rfl | exact hshows.elim

theorem conditions_of_shown {signs : List Sign} {symbols : List Symbol}
    (hshown : List.Forall₂ Sign.Shows signs symbols) :
    symbols.filterMap Symbol.condition? = signs.filterMap Sign.condition? := by
  induction hshown with
  | nil => rfl
  | cons hsign _ ih => rw [List.filterMap_cons, List.filterMap_cons, hsign.condition?, ih]

theorem count_start (symbols : List Symbol) :
    symbols.count .start = (symbols.filterMap Symbol.condition?).count .start := by
  rw [List.count_filterMap]
  refine List.countP_congr fun symbol _ ↦ ?_
  cases symbol <;> simp [Symbol.condition?]

namespace Frame

@[simp] theorem conditions_written (byte : UInt8) :
    (written byte).filterMap Sign.condition? = [] := rfl

@[simp] theorem conditions_fetchedAll (bytes : List UInt8) (follows : Bool) :
    (fetchedAll bytes follows).filterMap Sign.condition? = [] := by
  induction bytes with
  | nil => rfl
  | cons byte rest ih =>
    rw [fetchedAll, List.filterMap_append, ih]
    rfl

end Frame

end I2c

namespace Edid

open I2c

/-- The frame of a read behind the segment pointer, but for the stop: the pointer is addressed and
written, the memory is addressed and given the offset, and the memory is addressed to be read. -/
def segmentFrame (segment offset : UInt8) (data : List UInt8) : List Sign :=
  .start :: Frame.written 0x60 ++ Frame.written segment ++
    .start :: Frame.written 0xA0 ++ Frame.written offset ++
      .start :: Frame.written 0xA1 ++ Frame.fetchedAll data false

theorem conditions_segmentFrame (segment offset : UInt8) (data : List UInt8) :
    (segmentFrame segment offset data).filterMap Sign.condition? = [.start, .start, .start] := by
  simp [segmentFrame, Sign.condition?]

/-- The line-by-line master shows the frame of the read and then a stop. -/
theorem segment_frame (config : Config.BitBang) (segment offset : UInt8) (count : Nat) {σ : Type}
    (handler : Handler WireAccess.signature σ) (state : σ) {master : Master}
    (hok : ((BitBang.perform (Segment.ofBitBang config segment offset count)).run
      handler state).1 = (.ok (), master)) :
    ∃ symbols, observe ((BitBang.perform (Segment.ofBitBang config segment offset count)).trace
        handler state) = symbols ++ [.stop] ∧
      List.Forall₂ Sign.Shows (segmentFrame segment offset (Phase.fill count master.received))
        symbols := by
  have hmoved : BitBang.Frames BitBang.Open
      (fun _ bytes signs ↦ signs = segmentFrame segment offset (Phase.fill count bytes))
      (do
        BitBang.select config (.seven segmentAddress) .write
        BitBang.send config (.seven segmentAddress) segment
        BitBang.runPhases config (.seven memoryAddress) [.write [offset], .read count] none) := by
    refine .bind (BitBang.select_frames config (.seven segmentAddress) .write) ?_
    rintro _ _ _ ⟨rfl, rfl⟩
    refine .bind (BitBang.send_frames config _ segment) ?_
    rintro _ _ _ ⟨rfl, rfl⟩
    have hread := BitBang.runPhases_frames config (.seven memoryAddress)
      [.write [offset], .read count] none (fun hnone ↦ nomatch hnone)
    refine hread.narrow.mono ?_
    rintro _ bytes _ rfl
    have hpointer : Frame.opening (.seven segmentAddress) .write = .start :: Frame.written 0x60 :=
      rfl
    have hmemory : Frame.opening (.seven memoryAddress) .write = .start :: Frame.written 0xA0 := rfl
    have hagain : Frame.opening (.seven memoryAddress) .read = .start :: Frame.written 0xA1 := rfl
    simp [segmentFrame, Frame.body, Frame.turn, hpointer, hmemory, hagain, Phase.buffers,
      BitBang.readsNext]
  obtain ⟨_, symbols, rfl, hshown, hsymbols⟩ := hmoved.performed config handler state hok
  exact ⟨symbols, hsymbols, hshown⟩

/-- On the hardware engine, which has to remember its control register, a read behind the segment
pointer that succeeds has no stop from the pointer to the last byte taken, one pulse after it, and
one before it only where the engine was disabled. On the lines it is three starts and one stop. -/
theorem readSegment_stops_once (segment offset : UInt8) (count : Nat) :
    (∀ (controller : I2c.Controller) (link : Link) (σ : Type)
      (handler : Handler Access.signature σ) (state : σ) (control : UInt32),
      let program := (Segment.ofController controller segment offset count).run.run link
      (program.run handler state).1.1 = .ok () →
        Remembers i2cControl control (program.trace handler state) →
          ∃ middle, marks (program.trace handler state) =
              (if control &&& i2cEnabled = 0 then stopPulse else []) ++
                [.put 0x60, .put segment.toUInt32] ++ middle ++ stopPulse ∧
            (∀ value, .stop value ∉ middle) ∧ middle.count .get = count) ∧
    ∀ (config : Config.BitBang) (σ : Type) (handler : Handler WireAccess.signature σ) (state : σ)
      (master : Master),
      let program := BitBang.perform (Segment.ofBitBang config segment offset count)
      (program.run handler state).1 = (.ok (), master) →
        ∃ symbols, observe (program.trace handler state) = symbols ++ [.stop] ∧
          .stop ∉ symbols ∧ symbols.count .start = 3 ∧
            List.Forall₂ Sign.Shows
              (segmentFrame segment offset (Phase.fill count master.received)) symbols := by
  constructor
  · intro controller link σ handler state control program hok hcontrol
    have hplays : (((Transfer.readSegment segment offset count).exchange controller).run.run
        link).Plays (program.trace handler state) (.ok (), (program.run handler state).1.2) := by
      rw [← hok]
      exact Program.plays_trace handler program state
    have hmarks := Controller.marks_of_exchange hplays hcontrol
    have haddress : (.seven segmentAddress : Address).header .write = [0x60] := rfl
    refine ⟨(Move.readEach (.seven memoryAddress)
        (chunkSizes controller.config.chunk count) offset).flatMap Move.marks, hmarks.trans ?_,
      Move.stop_not_mem_flatMap _,
      (Move.count_readEach Move.marks .get Move.count_get_marks ..).trans (chunkSizes_total ..)⟩
    simp [Transfer.moves, Controller.prelude, Move.writeChunk, Move.marks, haddress]
  · intro config σ handler state master program hok
    obtain ⟨symbols, hobserve, hshown⟩ :=
      segment_frame config segment offset count handler state hok
    have hconditions : symbols.filterMap Symbol.condition? = [.start, .start, .start] :=
      (conditions_of_shown hshown).trans (conditions_segmentFrame _ _ _)
    refine ⟨symbols, hobserve, fun hstop ↦ ?_, ?_, hshown⟩
    · have hmem : Condition.stop ∈ symbols.filterMap Symbol.condition? :=
        List.mem_filterMap.mpr ⟨.stop, hstop, rfl⟩
      rw [hconditions] at hmem
      exact absurd hmem (by decide)
    · rw [count_start, hconditions]
      rfl

/-- A disabled engine reads three bytes in two chunks, and the master reads one from lines that are
held low. -/
theorem readSegment_stops_once_held :
    (∃ middle, marks (((Segment.ofController ⟨{ chunk := 2 }, 1⟩ 1 0x80 3).run.run {}).trace
          RegisterFile.port .completing) =
        stopPulse ++ [.put 0x60, .put 1] ++ middle ++ stopPulse ∧
      (∀ value, .stop value ∉ middle) ∧ middle.count .get = 3) ∧
    ∃ symbols, observe ((BitBang.perform (Segment.ofBitBang {} 1 0x80 1)).trace
        BitBang.heldData ()) = symbols ++ [.stop] ∧
      .stop ∉ symbols ∧ symbols.count .start = 3 ∧
        List.Forall₂ Sign.Shows (segmentFrame 1 0x80 [0]) symbols :=
  ⟨(readSegment_stops_once 1 0x80 3).1 ⟨{ chunk := 2 }, 1⟩ {} _ RegisterFile.port .completing 0
      (by decide +kernel) (RegisterFile.completing.remembers_trace (by decide) (by decide) _).1,
    (readSegment_stops_once 1 0x80 1).2 {} _ BitBang.heldData () { received := [0] }
      (by decide +kernel)⟩

end Edid

end Scanout
