import Scanout.Proofs.Checked
import Scanout.Proofs.Register.Packed
import Scanout.Timing.Axis

/-!
The encoding of a raster loses nothing. `Axis.decode_registers` is the round trip through the four
registers of an axis, and `Axis.toMode_of_ofMode` the one through the counting from the sync pulse;
together they read a programmed mode back from the hardware. The differences and the sum that an
axis is made of fit sixteen bits because the parts of a mode that passes stand in order.

The other way round, registers that may hold anything are read as an axis and written again
(`Axis.registers_decode`). Nothing has to stand in order there, since reading wraps.
-/

set_option autoImplicit false
set_option relaxedAutoImplicit false

namespace Scanout

open Register

namespace Mode

theorem flaw?_of_validate {mode : Mode} (hvalid : mode.validate = .ok ()) : mode.flaw? = none := by
  rw [validate] at hvalid
  split at hvalid
  · cases hvalid
  · assumption

/-- The clock of a mode that passes is in range. -/
theorem clock_of_validate {mode : Mode} (hvalid : mode.validate = .ok ()) :
    minClock ≤ mode.clock ∧ mode.clock ≤ maxClock := by
  have hnone := flaw?_of_validate hvalid
  rw [flaw?] at hnone
  split at hnone
  · cases hnone
  split at hnone
  · cases hnone
  · rename_i hrange
    rwa [not_or, UInt32.not_lt, UInt32.not_lt] at hrange

theorem clock_ne_zero {mode : Mode} (hvalid : mode.validate = .ok ()) : mode.clock ≠ 0 := by
  intro hzero
  have hle := (clock_of_validate hvalid).1
  rw [hzero] at hle
  exact absurd hle (by decide)

/-- What passing means for the parts of a mode. -/
theorem parts_of_validate {mode : Mode} (hvalid : mode.validate = .ok ()) :
    mode.h.Ordered ∧ mode.v.Ordered ∧ minActive ≤ mode.h.display ∧ minActive ≤ mode.v.display := by
  have hnone := flaw?_of_validate hvalid
  rw [flaw?] at hnone
  split at hnone
  · cases hnone
  split at hnone
  · cases hnone
  split at hnone
  · cases hnone
  split at hnone
  · cases hnone
  split at hnone
  · cases hnone
  rename_i hh hv hsmall
  rw [Decidable.not_not] at hh hv
  rw [not_or, UInt16.not_lt, UInt16.not_lt] at hsmall
  exact ⟨hh, hv, hsmall⟩

end Mode

namespace Polarity

@[simp] theorem ofRegister_register (polarity : Polarity) :
    ofRegister polarity.register = polarity := by
  cases polarity <;> decide

/-- The lowest bit of a polarity register is all that counts. -/
theorem register_ofRegister (value : UInt32) : (ofRegister value).register = value % 2 := by
  have hbit : value &&& 1 = value % 2 := by
    rw [← UInt32.toNat_inj, UInt32.toNat_and, UInt32.toNat_mod]
    exact Nat.and_two_pow_sub_one_eq_mod value.toNat 1
  rw [ofRegister, hbit]
  have hparity : value % 2 = 0 ∨ value % 2 = 1 := by
    rw [← UInt32.toNat_inj, ← UInt32.toNat_inj, UInt32.toNat_mod]
    exact Nat.mod_two_eq_zero_or_one value.toNat
  rcases hparity with heven | hodd
  · rw [heven]
    rfl
  · rw [hodd]
    rfl

end Polarity

namespace Timing.Axis

variable {mode : Mode.Axis} {polarity : Polarity} {axis : Axis}

/-- The positions that one axis of a mode gets, none of which wraps. -/
theorem of_ofMode (hof : ofMode mode polarity = .ok axis) :
    mode.syncStart ≤ mode.total ∧ mode.syncStart ≤ mode.syncStop ∧
      axis = { active := mode.display, total := mode.total,
               blankStart := mode.total - mode.syncStart + mode.display,
               blankStop := mode.total - mode.syncStart, syncStart := 0,
               syncStop := mode.syncStop - mode.syncStart, polarity } := by
  obtain ⟨blankStop, hblankStop, hof⟩ := Except.bind_eq_ok.mp hof
  obtain ⟨blankStart, hblankStart, hof⟩ := Except.bind_eq_ok.mp hof
  obtain ⟨syncStop, hsyncStop, hof⟩ := Except.bind_eq_ok.mp hof
  obtain ⟨htotal, rfl⟩ := Checked.sub16_eq_ok.mp hblankStop
  obtain ⟨-, rfl⟩ := Checked.add16_eq_ok.mp hblankStart
  obtain ⟨hsync, rfl⟩ := Checked.sub16_eq_ok.mp hsyncStop
  cases hof
  exact ⟨htotal, hsync, rfl⟩

/-- An axis whose parts stand in order can be counted from its sync pulse. -/
theorem exists_ofMode (hordered : mode.Ordered) (polarity : Polarity) :
    ∃ axis, ofMode mode polarity = .ok axis := by
  obtain ⟨-, hdisplay, hsync, hstop, -⟩ := hordered
  have hstart : mode.syncStart ≤ mode.total := UInt16.le_trans hsync hstop
  have hblankStop : Checked.sub16 mode.total mode.syncStart = .ok (mode.total - mode.syncStart) :=
    Checked.sub16_eq_ok.mpr ⟨hstart, rfl⟩
  have hblankStart : Checked.add16 (mode.total - mode.syncStart) mode.display =
      .ok (mode.total - mode.syncStart + mode.display) := by
    rw [Checked.add16_eq_ok, UInt16.toNat_sub_of_le _ _ hstart]
    have hbound := mode.total.toNat_lt
    rw [UInt16.le_iff_toNat_le] at hdisplay hstart
    exact ⟨by simp only [UInt16.size]; omega, rfl⟩
  have hsyncStop : Checked.sub16 mode.syncStop mode.syncStart =
      .ok (mode.syncStop - mode.syncStart) :=
    Checked.sub16_eq_ok.mpr ⟨hsync, rfl⟩
  simp only [ofMode, hblankStop, hblankStart, hsyncStop, bind, Except.bind]
  exact ⟨_, rfl⟩

/-- The four registers of an axis of a mode read back as that axis. -/
theorem decode_registers (hof : ofMode mode polarity = .ok axis) :
    decode (axis.total.toUInt32 - 1) ⟨axis.blankRegister⟩ ⟨axis.syncRegister⟩
      axis.polarity.register = axis := by
  obtain ⟨-, -, rfl⟩ := of_ofMode hof
  have htotal : (mode.total.toUInt32 - 1).toUInt16 + 1 = mode.total := by
    rw [UInt32.toUInt16_sub, UInt16.toUInt16_toUInt32]
    exact UInt16.sub_add_cancel mode.total 1
  have hactive : mode.total - mode.syncStart + mode.display - (mode.total - mode.syncStart) =
      mode.display := by
    rw [UInt16.add_comm, UInt16.add_sub_cancel]
  show decode _ (Span.of _ _) (Span.of _ _) _ = _
  simp only [decode, Span.start_of, Span.stop_of, htotal, hactive, Polarity.ofRegister_register]

/-- The axis of a mode is turned back into that axis of the mode. -/
theorem toMode_of_ofMode (hof : ofMode mode polarity = .ok axis) : axis.toMode = .ok mode := by
  obtain ⟨htotal, hsync, rfl⟩ := of_ofMode hof
  have hstart : Checked.sub16 mode.total (mode.total - mode.syncStart) = .ok mode.syncStart := by
    have hback : mode.total - (mode.total - mode.syncStart) = mode.syncStart := by grind
    rw [Checked.sub16_eq_ok]
    exact ⟨UInt16.le_iff_toNat_le.mpr (by rw [UInt16.toNat_sub_of_le _ _ htotal]; omega), hback⟩
  have hwidth : Checked.sub16 (mode.syncStop - mode.syncStart) 0 =
      .ok (mode.syncStop - mode.syncStart) := by
    rw [Checked.sub16_eq_ok]
    exact ⟨UInt16.zero_le, UInt16.sub_zero _⟩
  have hstop : Checked.add16 mode.syncStart (mode.syncStop - mode.syncStart) =
      .ok mode.syncStop := by
    have hback : mode.syncStart + (mode.syncStop - mode.syncStart) = mode.syncStop := by grind
    rw [Checked.add16_eq_ok, UInt16.toNat_sub_of_le _ _ hsync]
    have hbound := mode.syncStop.toNat_lt
    have hle := UInt16.le_iff_toNat_le.mp hsync
    exact ⟨by simp only [UInt16.size]; omega, hback⟩
  simp only [toMode, hstart, hwidth, hstop, bind, Except.bind]
  rfl

/-- The positions of an axis are those of a mode over the natural numbers, its registers are exact,
and both read back as what they were made of. -/
structure RoundTrips (mode : Mode.Axis) (axis : Axis) : Prop where
  active : axis.active = mode.display
  total : axis.total = mode.total
  blankStop : axis.blankStop.toNat + mode.syncStart.toNat = mode.total.toNat
  blankStart : axis.blankStart.toNat = axis.blankStop.toNat + mode.display.toNat
  syncStart : axis.syncStart = 0
  syncStop : axis.syncStop.toNat + mode.syncStart.toNat = mode.syncStop.toNat
  /-- Both spans are packed without being cut. -/
  blank : axis.blankRegister.toNat = axis.blankStart.toNat + 65536 * axis.blankStop.toNat
  sync : axis.syncRegister.toNat = axis.syncStart.toNat + 65536 * axis.syncStop.toNat
  registers : ∃ total, axis.totalRegister = .ok total ∧ total.toNat + 1 = axis.total.toNat ∧
    decode total ⟨axis.blankRegister⟩ ⟨axis.syncRegister⟩ axis.polarity.register = axis
  mode : axis.toMode = .ok mode

/-- An axis of a mode whose parts stand in order loses nothing. -/
theorem roundTrips_of_ofMode (hordered : mode.Ordered) (hof : ofMode mode polarity = .ok axis) :
    RoundTrips mode axis := by
  have hdecode := decode_registers hof
  have hmode := toMode_of_ofMode hof
  obtain ⟨blankStop, hblankStop, hof⟩ := Except.bind_eq_ok.mp hof
  obtain ⟨blankStart, hblankStart, hof⟩ := Except.bind_eq_ok.mp hof
  obtain ⟨syncStop, hsyncStop, hof⟩ := Except.bind_eq_ok.mp hof
  cases hof
  have hpositive : 0 < mode.total.toNat :=
    Nat.lt_of_le_of_lt (Nat.zero_le _) (UInt16.lt_iff_toNat_lt.mp hordered.2.2.2.2)
  have htotal : mode.total ≠ 0 := by
    rintro hzero
    rw [hzero] at hpositive
    exact absurd hpositive (by decide)
  have hone : (1 : UInt32) ≤ mode.total.toUInt32 := by
    rw [UInt32.le_iff_toNat_le, UInt16.toNat_toUInt32]
    exact hpositive
  refine {
    active := rfl
    total := rfl
    blankStop := Checked.toNat_sub16 hblankStop
    blankStart := Checked.toNat_add16 hblankStart
    syncStart := rfl
    syncStop := Checked.toNat_sub16 hsyncStop
    blank := ?_
    sync := ?_
    registers := ⟨mode.total.toUInt32 - 1, if_neg htotal, ?_, hdecode⟩
    mode := hmode }
  · show (Span.of _ _).raw.toNat = _
    rw [Span.toNat_raw, Span.start_of, Span.stop_of]
  · show (Span.of _ _).raw.toNat = _
    rw [Span.toNat_raw, Span.start_of, Span.stop_of]
  · rw [UInt32.toNat_sub_of_le _ _ hone, UInt16.toNat_toUInt32]
    exact Nat.sub_add_cancel hpositive

/-- Any register values are written back as they were read, but for the bits that no register has. A
total of all ones is read as zero, and has no register. -/
theorem registers_decode (total blank sync polarity : UInt32)
    (htotal : total.toNat % 65536 ≠ 0xFFFF) :
    let axis := decode total ⟨blank⟩ ⟨sync⟩ polarity
    axis.totalRegister = .ok (total % 65536) ∧ axis.blankRegister = blank ∧
      axis.syncRegister = sync ∧ axis.polarity.register = polarity % 2 := by
  have hsum : (total.toUInt16 + 1).toNat = total.toNat % 65536 + 1 := by
    rw [UInt16.toNat_add, UInt32.toNat_toUInt16]
    exact Nat.mod_eq_of_lt (by simp only [UInt16.toNat_one]; omega)
  have hne : total.toUInt16 + 1 ≠ 0 := by
    intro hzero
    rw [hzero] at hsum
    cases hsum
  have hregister : (total.toUInt16 + 1).toUInt32 - 1 = total % 65536 := by
    have hone : (1 : UInt32) ≤ (total.toUInt16 + 1).toUInt32 := by
      rw [UInt32.le_iff_toNat_le, UInt16.toNat_toUInt32, hsum]
      exact Nat.le_add_left 1 _
    rw [← UInt32.toNat_inj, UInt32.toNat_sub_of_le _ _ hone, UInt16.toNat_toUInt32, hsum,
      UInt32.toNat_mod]
    rfl
  refine ⟨?_, ?_, ?_, Polarity.register_ofRegister polarity⟩
  · exact (if_neg hne).trans (congrArg Except.ok hregister)
  · exact congrArg Span.raw (Span.of_start_stop ⟨blank⟩)
  · exact congrArg Span.raw (Span.of_start_stop ⟨sync⟩)

end Timing.Axis

/-- The raster of a mode is made of its axes, and the mode has passed. -/
theorem Timing.of_ofMode {mode : Mode} {timing : Timing} (hof : Timing.ofMode mode = .ok timing) :
    mode.validate = .ok () ∧
      Axis.ofMode mode.h (.ofNegative (mode.has Mode.negativeHSync)) = .ok timing.h ∧
      Axis.ofMode mode.v (.ofNegative (mode.has Mode.negativeVSync)) = .ok timing.v := by
  obtain ⟨_, hvalid, hof⟩ := Except.bind_eq_ok.mp hof
  obtain ⟨h, hh, hof⟩ := Except.bind_eq_ok.mp hof
  obtain ⟨v, hv, hof⟩ := Except.bind_eq_ok.mp hof
  cases hof
  exact ⟨Failure.ofError_eq_ok.mp hvalid, Failure.ofFault_eq_ok.mp hh,
    Failure.ofFault_eq_ok.mp hv⟩

/-- A mode that passes has a raster. -/
theorem Timing.exists_ofMode {mode : Mode} (hvalid : mode.validate = .ok ()) :
    ∃ timing, Timing.ofMode mode = .ok timing := by
  obtain ⟨horizontal, vertical, -, -⟩ := Mode.parts_of_validate hvalid
  obtain ⟨h, hh⟩ := Axis.exists_ofMode horizontal (.ofNegative (mode.has Mode.negativeHSync))
  obtain ⟨v, hv⟩ := Axis.exists_ofMode vertical (.ofNegative (mode.has Mode.negativeVSync))
  refine ⟨⟨h, v⟩, ?_⟩
  simp only [ofMode, hvalid, hh, hv]
  rfl

/-- Any mode at all has a raster or a flaw. -/
theorem Timing.ofMode_faultless (mode : Mode) : Faultless (Timing.ofMode mode) := by
  cases hvalid : mode.validate with
  | error flaw =>
    rw [Timing.ofMode, hvalid]
    exact .error flaw
  | ok _ =>
    obtain ⟨timing, htiming⟩ := exists_ofMode hvalid
    rw [htiming]
    exact .ok timing

/-- Timing registers lose nothing in either direction: a mode that passes is read back from its
registers, and registers are written back as they were read. -/
theorem Timing.raster_round_trip :
    (∀ mode : Mode, mode.validate = .ok () →
      ∃ timing, Timing.ofMode mode = .ok timing ∧ Axis.RoundTrips mode.h timing.h ∧
        Axis.RoundTrips mode.v timing.v) ∧
      ∀ total blank sync polarity : UInt32, total.toNat % 65536 ≠ 0xFFFF →
        let axis := Axis.decode total ⟨blank⟩ ⟨sync⟩ polarity
        axis.totalRegister = .ok (total % 65536) ∧ axis.blankRegister = blank ∧
          axis.syncRegister = sync ∧ axis.polarity.register = polarity % 2 := by
  refine ⟨fun mode hvalid ↦ ?_, Axis.registers_decode⟩
  obtain ⟨timing, htiming⟩ := exists_ofMode hvalid
  obtain ⟨horizontal, vertical, -, -⟩ := Mode.parts_of_validate hvalid
  obtain ⟨-, hh, hv⟩ := Timing.of_ofMode htiming
  exact ⟨timing, htiming, Axis.roundTrips_of_ofMode horizontal hh,
    Axis.roundTrips_of_ofMode vertical hv⟩

/-- A mode whose totals are the largest there are. -/
def Mode.widest : Mode where
  clock := 400000
  h := ⟨65534, 65534, 65535, 65535⟩
  v := ⟨128, 128, 65535, 65535⟩
  flags := Mode.negativeHSync

/-- The largest totals still fit, and so do registers with all bits set that they may have. -/
theorem Timing.raster_round_trip_widest :
    (Mode.widest.validate = .ok () ∧ ∃ timing, Timing.ofMode Mode.widest = .ok timing ∧
      Axis.RoundTrips Mode.widest.h timing.h ∧ Axis.RoundTrips Mode.widest.v timing.v) ∧
      (0xFFFFFFFE : UInt32).toNat % 65536 ≠ 0xFFFF ∧
        let axis := Axis.decode 0xFFFFFFFE ⟨0xFFFFFFFF⟩ ⟨0xFFFFFFFF⟩ 0xFFFFFFFF
        axis.totalRegister = .ok (0xFFFFFFFE % 65536) ∧ axis.blankRegister = 0xFFFFFFFF ∧
          axis.syncRegister = 0xFFFFFFFF ∧ axis.polarity.register = 0xFFFFFFFF % 2 :=
  ⟨⟨rfl, raster_round_trip.1 Mode.widest rfl⟩, by decide,
    raster_round_trip.2 0xFFFFFFFE 0xFFFFFFFF 0xFFFFFFFF 0xFFFFFFFF (by decide)⟩

end Scanout
