import Scanout.Register.Packed

/-!
Reading the fields of packed registers back. A field that was set reads as the value it was given,
cut to its mask, and as before when a field that covers none of its bits was set. For the registers
of two halves and for the PLLs this makes every getter the left inverse of its setter.
-/

set_option autoImplicit false
set_option relaxedAutoImplicit false

namespace Scanout.Register

/-- Masking a union masks its parts. -/
theorem or_and_distrib (first second mask : UInt32) :
    (first ||| second) &&& mask = (first &&& mask) ||| (second &&& mask) :=
  UInt32.toBitVec_inj.mp BitVec.and_or_distrib_right

/-- Bits that were set are set. -/
theorem set_and_self (raw bits : UInt32) : (raw ||| bits) &&& bits = bits := by
  apply UInt32.toBitVec_inj.mp
  ext i hi
  simpa using Or.inr

/-- Bits that were cleared are clear. -/
theorem cleared_and_self (raw bits : UInt32) : (raw &&& ~~~bits) &&& bits = 0 := by
  rw [UInt32.and_assoc, UInt32.not_and_self, UInt32.and_zero]

/-- Clearing and setting other bits leaves what a mask reads. -/
theorem updated_and_of_disjoint {mask clear set : UInt32} (hclear : clear &&& mask = 0)
    (hset : set &&& mask = 0) (raw : UInt32) :
    ((raw &&& ~~~clear) ||| set) &&& mask = raw &&& mask := by
  have hkept : ~~~clear &&& mask = mask := by
    apply UInt32.toBitVec_inj.mp
    ext i hi
    have hbit := congrArg (·.toBitVec[i]) ((UInt32.and_comm mask clear).trans hclear)
    simpa using hbit
  rw [or_and_distrib, hset, UInt32.or_zero, UInt32.and_assoc, hkept]

namespace Field

/-- A field is not affected by setting one that covers none of its bits. -/
theorem get_set_of_disjoint {width : Nat} (read changed : Field width) (raw value : BitVec width)
    (hdisjoint : read.cover &&& changed.cover = 0) :
    read.get (changed.set raw value) = read.get raw := by
  ext i hi
  rw [get, get, BitVec.getElem_and, BitVec.getElem_and, BitVec.getElem_ushiftRight,
    BitVec.getElem_ushiftRight]
  cases hmask : read.mask[i] with
  | false => rw [Bool.and_false, Bool.and_false]
  | true =>
    by_cases hinside : read.offset + i < width
    · have hread : read.cover.getLsbD (read.offset + i) = true := by
        rw [cover, BitVec.getLsbD_shiftLeft, Nat.add_sub_cancel_left,
          BitVec.getLsbD_eq_getElem hi, hmask]
        simpa using hinside
      have hoff : changed.cover.getLsbD (read.offset + i) = false := by
        have hboth := congrArg (·.getLsbD (read.offset + i)) hdisjoint
        simpa [BitVec.getLsbD_and, hread] using hboth
      rw [getLsbD_set_of_outside changed raw value _ hoff]
    · rw [BitVec.getLsbD_of_ge _ _ (by omega), BitVec.getLsbD_of_ge _ _ (by omega)]

theorem get32_set32_of_disjoint (read changed : Field 32) (raw value : UInt32)
    (hdisjoint : read.cover &&& changed.cover = 0) :
    read.get32 (changed.set32 raw value) = read.get32 raw :=
  congrArg UInt32.ofBitVec (read.get_set_of_disjoint changed _ _ hdisjoint)

/-- A field reads as what it was set to, if the mask and the word hold that. -/
theorem get32_set32 (field : Field 32) (raw value : UInt32)
    (hfits : value.toBitVec &&& field.mask &&& (BitVec.allOnes 32 >>> field.offset) =
      value.toBitVec) :
    field.get32 (field.set32 raw value) = value := by
  rw [get32, set32, get_set, hfits]

end Field

/-- A mask of the lowest bits keeps a value that has no others. -/
theorem and_low (bits : Nat) {value : BitVec 32} (hbits : bits ≤ 32)
    (hbound : value.toNat < 1 <<< bits) : value &&& BitVec.ofNat 32 (1 <<< bits - 1) = value := by
  rw [Nat.one_shiftLeft] at hbound ⊢
  have hpow : 2 ^ bits ≤ 2 ^ 32 := Nat.pow_le_pow_right (by decide) hbits
  apply BitVec.eq_of_toNat_eq
  rw [BitVec.toNat_and, BitVec.toNat_ofNat, Nat.mod_eq_of_lt (by omega),
    Nat.and_two_pow_sub_one_eq_mod, Nat.mod_eq_of_lt hbound]

theorem half_lt (value : UInt16) : value.toUInt32.toBitVec.toNat < 1 <<< 16 :=
  value.toNat_lt

@[simp] theorem lowHalf_get_set (raw : UInt32) (value : UInt16) :
    lowHalf.get32 (lowHalf.set32 raw value.toUInt32) = value.toUInt32 := by
  refine lowHalf.get32_set32 raw _ ?_
  have hmask : value.toUInt32.toBitVec &&& lowHalf.mask = value.toUInt32.toBitVec :=
    and_low 16 (by decide) (half_lt value)
  rw [hmask]
  exact BitVec.and_allOnes

@[simp] theorem highHalf_get_set (raw : UInt32) (value : UInt16) :
    highHalf.get32 (highHalf.set32 raw value.toUInt32) = value.toUInt32 := by
  refine highHalf.get32_set32 raw _ ?_
  have hmask : value.toUInt32.toBitVec &&& 0xFFFF#32 = value.toUInt32.toBitVec :=
    and_low 16 (by decide) (half_lt value)
  rw [show highHalf.mask = 0xFFFF#32 from rfl, hmask]
  exact hmask

@[simp] theorem lowHalf_get_set_high (raw value : UInt32) :
    lowHalf.get32 (highHalf.set32 raw value) = lowHalf.get32 raw :=
  lowHalf.get32_set32_of_disjoint highHalf raw value (by decide)

@[simp] theorem highHalf_get_set_low (raw value : UInt32) :
    highHalf.get32 (lowHalf.set32 raw value) = highHalf.get32 raw :=
  highHalf.get32_set32_of_disjoint lowHalf raw value (by decide)

@[simp] theorem Point.x_of (x y : UInt16) : (Point.of x y).x = x := by
  simp [Point.of, Point.x, Point.setX, Point.setY]

@[simp] theorem Point.y_of (x y : UInt16) : (Point.of x y).y = y := by
  simp [Point.of, Point.y, Point.setY]

@[simp] theorem Span.start_of (start stop : UInt16) : (Span.of start stop).start = start := by
  simp [Span.of, Span.start, Span.setStart, Span.setStop]

@[simp] theorem Span.stop_of (start stop : UInt16) : (Span.of start stop).stop = stop := by
  simp [Span.of, Span.stop, Span.setStop]

/-- The low half of a word is what is left of it below 65536. -/
theorem toNat_lowHalf (raw : UInt32) : (lowHalf.get32 raw).toNat = raw.toNat % 65536 := by
  show (raw.toBitVec >>> 0 &&& 0xFFFF#32).toNat = _
  rw [BitVec.toNat_and, BitVec.toNat_ushiftRight]
  exact Nat.and_two_pow_sub_one_eq_mod raw.toNat 16

/-- The high half of a word is how often it contains 65536. -/
theorem toNat_highHalf (raw : UInt32) : (highHalf.get32 raw).toNat = raw.toNat / 65536 := by
  have hword := raw.toNat_lt
  show (raw.toBitVec >>> 16 &&& 0xFFFF#32).toNat = _
  rw [BitVec.toNat_and, BitVec.toNat_ushiftRight, Nat.shiftRight_eq_div_pow]
  refine (Nat.and_two_pow_sub_one_eq_mod (raw.toNat / 65536) 16).trans ?_
  omega

/-- The raw value of a span is its start, and its end in units of 65536. -/
theorem Span.toNat_raw (span : Span) :
    span.raw.toNat = span.start.toNat + 65536 * span.stop.toNat := by
  have hword := span.raw.toNat_lt
  rw [start, stop, UInt32.toNat_toUInt16, UInt32.toNat_toUInt16, toNat_lowHalf, toNat_highHalf]
  omega

/-- A span is made of its two ends. -/
@[simp] theorem Span.of_start_stop (span : Span) : Span.of span.start span.stop = span := by
  have hraw : (Span.of span.start span.stop).raw = span.raw := by
    rw [← UInt32.toNat_inj, toNat_raw, toNat_raw, start_of, stop_of]
  exact congrArg Span.mk hraw

/-- The window begins with the unit of its first byte. -/
theorem Aperture.toNat_base_covering (base size : UInt32) :
    (covering base size).base.toNat = base.toNat / 65536 := by
  have hword := base.toNat_lt
  rw [Aperture.base, covering, setTop, lowHalf_get_set_high, setBase, lowHalf_get_set,
    UInt16.toUInt16_toUInt32, UInt32.toNat_toUInt16, UInt32.toNat_shiftRight,
    Nat.shiftRight_eq_div_pow, show (16 : UInt32).toNat % 32 = 16 from rfl]
  omega

/-- The last unit is kept in sixteen bits. -/
theorem Aperture.toNat_top_covering (base size : UInt32) :
    (covering base size).top.toNat = ((base.toNat + size.toNat) / 65536 - 1) % 65536 := by
  rw [Aperture.top, covering, setTop, highHalf_get_set, UInt16.toUInt16_toUInt32]
  exact UInt16.toNat_ofNat'

/-- The multiplier is read back as it was. -/
@[simp] theorem Feedback.multiplier_set (feedback : Feedback) (value : UInt8) :
    (feedback.setMultiplier value).multiplier = value := by
  have hbound : value.toUInt32.toBitVec.toNat < 1 <<< 8 := value.toNat_lt
  have hget : Feedback.field.get32 (Feedback.field.set32 feedback.raw value.toUInt32) =
      value.toUInt32 := by
    refine Feedback.field.get32_set32 feedback.raw _ ?_
    have hmask : value.toUInt32.toBitVec &&& Feedback.field.mask = value.toUInt32.toBitVec :=
      and_low 8 (by decide) hbound
    rw [hmask]
    exact and_low 16 (by decide) (Nat.lt_trans hbound (by decide))
  rw [Feedback.multiplier, Feedback.setMultiplier, hget, UInt8.toUInt8_toUInt32]

end Scanout.Register
