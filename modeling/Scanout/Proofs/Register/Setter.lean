import Mathlib.Algebra.GroupWithZero.Nat
import Scanout.Proofs.Register.Packed

/-!
Setters change their own field and nothing else. A field inside its word is a lens (`Field.Lawful`):
it reads back as what was set, cut to the mask and to the bits above its offset, and setting it
leaves every bit that it does not cover.

A packed register is a word with a few `Part`s, each with the getter and the setter that the
register has for it. Their covers are disjoint, so after any calls of setters a part holds what it
was last given (`Part.get_setAll`), bits of no part are as they were, and since a word is told from
these alone, the order of calls for different parts does not matter (`setAll_congr`).
-/

set_option autoImplicit false
set_option relaxedAutoImplicit false

namespace Scanout.Register

namespace Field

variable {width : Nat}

/-- The bits left above an offset, as a mask. -/
theorem allOnes_ushiftRight (width offset : Nat) :
    BitVec.allOnes width >>> offset = BitVec.ofNat width (2 ^ (width - offset) - 1) := by
  refine BitVec.eq_of_getLsbD_eq fun i hi ↦ ?_
  rw [BitVec.getLsbD_ushiftRight, BitVec.getLsbD_allOnes, BitVec.getLsbD_ofNat,
    Nat.testBit_two_pow_sub_one, decide_eq_true hi, Bool.true_and, decide_eq_decide]
  omega

/-- A covered bit of a word is a bit of the field's value. -/
theorem getLsbD_of_covered (field : Field width) (raw : BitVec width) {i : Nat}
    (hcovered : field.cover.getLsbD i = true) :
    raw.getLsbD i = (field.get raw).getLsbD (i - field.offset) := by
  rw [cover, BitVec.getLsbD_shiftLeft, Bool.and_eq_true, Bool.and_eq_true, Bool.not_eq_true',
    decide_eq_false_iff_not] at hcovered
  obtain ⟨⟨-, habove⟩, hmask⟩ := hcovered
  rw [get, BitVec.getLsbD_and, hmask, Bool.and_true, BitVec.getLsbD_ushiftRight,
    Nat.add_sub_cancel' (Nat.le_of_not_lt habove)]

/-- A field never holds more than its mask. -/
theorem toNat_get32_le (field : Field 32) (raw : UInt32) :
    (field.get32 raw).toNat ≤ field.mask.toNat := by
  show ((raw.toBitVec >>> field.offset) &&& field.mask).toNat ≤ _
  rw [BitVec.toNat_and]
  exact Nat.and_le_right

/-- The laws of a field as a lens on its word. -/
structure Lawful (field : Field width) : Prop where
  /-- A field that was set reads as the value, cut to the mask and to the bits above the offset,
  and the bits that it does not cover are as they were. -/
  changed : ∀ raw value, ∃ after, field.setChecked raw value = .ok after ∧
    field.getChecked after =
        .ok (value &&& field.mask &&& BitVec.ofNat width (2 ^ (width - field.offset) - 1)) ∧
      ∀ i, field.cover.getLsbD i = false → after.getLsbD i = raw.getLsbD i
  /-- Setting a field to what it reads changes nothing. -/
  kept : ∀ raw, ∃ value, field.getChecked raw = .ok value ∧ field.setChecked raw value = .ok raw
  /-- Fields that cover no common bit may be set in either order. -/
  comm : ∀ other : Field width, other.offset < width → field.cover &&& other.cover = 0 →
    ∀ raw first second,
      (field.setChecked raw first >>= fun after ↦ other.setChecked after second) =
        other.setChecked raw second >>= fun after ↦ field.setChecked after first

theorem getChecked_eq {field : Field width} (hinside : field.offset < width)
    (raw : BitVec width) : field.getChecked raw = .ok (field.get raw) :=
  if_pos hinside

theorem setChecked_eq {field : Field width} (hinside : field.offset < width)
    (raw value : BitVec width) : field.setChecked raw value = .ok (field.set raw value) :=
  if_pos hinside

theorem lawful {field : Field width} (hinside : field.offset < width) : field.Lawful where
  changed raw value := by
    refine ⟨field.set raw value, setChecked_eq hinside raw value, ?_,
      field.getLsbD_set_of_outside raw value⟩
    rw [getChecked_eq hinside, get_set, allOnes_ushiftRight]
  kept raw := by
    refine ⟨field.get raw, getChecked_eq hinside raw, ?_⟩
    rw [setChecked_eq hinside, set_get]
  comm other hother hdisjoint raw first second := by
    rw [setChecked_eq hinside, setChecked_eq hother]
    show other.setChecked (field.set raw first) second =
      field.setChecked (other.set raw second) first
    rw [setChecked_eq hinside, setChecked_eq hother,
      field.set_comm other raw first second hdisjoint]

end Field

inductive Packing where
  | point
  | span
  | aperture
  | feedback
  | clockSource
  deriving DecidableEq, Repr

namespace Packing

/-- The type of a packed register. -/
abbrev Word : Packing → Type
  | point => Point
  | span => Span
  | aperture => Aperture
  | feedback => Feedback
  | clockSource => ClockSource

/-- The value of a packed register as the device has it. -/
def raw : (packing : Packing) → packing.Word → UInt32
  | point, word => Point.raw word
  | span, word => Span.raw word
  | aperture, word => Aperture.raw word
  | feedback, word => Feedback.raw word
  | clockSource, word => ClockSource.raw word

theorem raw_injective (packing : Packing) : Function.Injective packing.raw := by
  cases packing <;> rintro ⟨first⟩ ⟨second⟩ heq <;> exact congrArg _ heq

end Packing

/-- The fields of each packed register. -/
inductive Part : Packing → Type where
  | x : Part .point
  | y : Part .point
  | start : Part .span
  | stop : Part .span
  | base : Part .aperture
  | top : Part .aperture
  | multiplier : Part .feedback
  | first : Part .clockSource
  | second : Part .clockSource
  deriving DecidableEq, Repr

namespace Part

variable {packing : Packing}

/-- What a part's getter answers and its setter takes. -/
abbrev Value : Part packing → Type
  | x | y | start | stop | base | top => UInt16
  | multiplier | first | second => UInt8

def field : Part packing → Field 32
  | x | stop | top => highHalf
  | y | start | base => lowHalf
  | multiplier => Feedback.field
  | first => ClockSource.firstField
  | second => ClockSource.secondField

def get : (part : Part packing) → packing.Word → part.Value
  | x, word => Point.x word
  | y, word => Point.y word
  | start, word => Span.start word
  | stop, word => Span.stop word
  | base, word => Aperture.base word
  | top, word => Aperture.top word
  | multiplier, word => Feedback.multiplier word
  | first, word => ClockSource.first word
  | second, word => ClockSource.second word

def set : (part : Part packing) → packing.Word → part.Value → packing.Word
  | x, word, value => Point.setX word value
  | y, word, value => Point.setY word value
  | start, word, value => Span.setStart word value
  | stop, word, value => Span.setStop word value
  | base, word, value => Aperture.setBase word value
  | top, word, value => Aperture.setTop word value
  | multiplier, word, value => Feedback.setMultiplier word value
  | first, word, value => ClockSource.setFirst word value
  | second, word, value => ClockSource.setSecond word value

def widen : (part : Part packing) → part.Value → UInt32
  | x, value | y, value | start, value | stop, value | base, value | top, value =>
    UInt16.toUInt32 value
  | multiplier, value | first, value | second, value => UInt8.toUInt32 value

/-- As much of a value as a part can hold: all of it, but for the choice between two PLLs. -/
def fit : (part : Part packing) → part.Value → part.Value
  | x, value | y, value | start, value | stop, value | base, value | top, value => value
  | multiplier, value => value
  | first, value | second, value => value &&& (1 : UInt8)

section Laws

variable (part : Part packing) (word : packing.Word) (value : part.Value)

theorem raw_set :
    packing.raw (part.set word value) = part.field.set32 (packing.raw word) (part.widen value) := by
  cases part <;> rfl

/-- A getter answers all bits of its field. -/
theorem widen_get : part.widen (part.get word) = part.field.get32 (packing.raw word) := by
  have hvalue := part.field.toNat_get32_le (packing.raw word)
  have hhalf : ∀ {value : UInt32}, value.toNat ≤ 0xFFFF → value.toUInt16.toUInt32 = value :=
    fun hbound ↦ (UInt32.toUInt32_toUInt16 _).trans
      (UInt32.mod_eq_of_lt (Nat.lt_succ_of_le hbound))
  have hbyte : ∀ {value : UInt32}, value.toNat ≤ 0xFF → value.toUInt8.toUInt32 = value :=
    fun hbound ↦ (UInt32.toUInt32_toUInt8 _).trans
      (UInt32.mod_eq_of_lt (Nat.lt_succ_of_le hbound))
  cases part with
  | x | y | start | stop | base | top => exact hhalf hvalue
  | multiplier => exact hbyte hvalue
  | first | second => exact hbyte (Nat.le_trans hvalue (by decide))

theorem widen_injective : Function.Injective part.widen := by
  intro first second heq
  cases part with
  | x | y | start | stop | base | top => exact UInt16.toUInt32_inj.mp heq
  | multiplier | first | second => exact UInt8.toUInt32_inj.mp heq

theorem widen_fit :
    (part.widen (part.fit value)).toBitVec = (part.widen value).toBitVec &&& part.field.mask := by
  cases part with
  | x | y | start | stop | base | top => exact (and_low 16 (by decide) (half_lt value)).symm
  | multiplier =>
    have hbound : (UInt8.toUInt32 value).toBitVec.toNat < 1 <<< 8 := UInt8.toNat_lt value
    exact (and_low 8 (by decide) hbound).symm
  | first | second => exact congrArg UInt32.toBitVec (UInt8.toUInt32_and value 1)

/-- A part holds what it was set to. -/
theorem get_set_self : part.get (part.set word value) = part.fit value := by
  have hmask : part.field.mask &&& (BitVec.allOnes 32 >>> part.field.offset) = part.field.mask := by
    cases part <;> decide
  refine part.widen_injective (UInt32.toBitVec_inj.mp ?_)
  rw [widen_get, raw_set, widen_fit, Field.get32, Field.set32, Field.get_set, BitVec.and_assoc,
    hmask]

/-- No bit belongs to two parts. -/
theorem cover_disjoint {other : Part packing} (hother : other ≠ part) :
    other.field.cover &&& part.field.cover = 0 := by
  cases part <;> cases other <;> first | exact absurd rfl hother | decide

/-- A part is as it was when another one is set. -/
theorem get_set_of_ne {other : Part packing} (hother : other ≠ part) :
    other.get (part.set word value) = other.get word := by
  refine other.widen_injective ?_
  rw [widen_get, widen_get, raw_set,
    other.field.get32_set32_of_disjoint part.field _ _ (cover_disjoint part hother)]

/-- So is a bit outside the part that is set. -/
theorem getLsbD_raw_set {i : Nat} (houtside : part.field.cover.getLsbD i = false) :
    (packing.raw (part.set word value)).toBitVec.getLsbD i =
      (packing.raw word).toBitVec.getLsbD i := by
  rw [raw_set]
  exact part.field.getLsbD_set_of_outside _ _ i houtside

end Laws

end Part

/-- A call of a setter. -/
structure Call (packing : Packing) where
  part : Part packing
  value : part.Value

variable {packing : Packing}

/-- What calls of setters make of a word, in order. -/
def setAll : List (Call packing) → packing.Word → packing.Word
  | [], word => word
  | call :: rest, word => setAll rest (call.part.set word call.value)

/-- The last value that some calls give to a part. -/
def Part.last (part : Part packing) : List (Call packing) → Option part.Value
  | [] => none
  | call :: rest =>
    (part.last rest).or (if heq : call.part = part then some (heq ▸ call.value) else none)

/-- A part holds the last value that it was given, and its first one if it was given none. -/
theorem Part.get_setAll (part : Part packing) (calls : List (Call packing))
    (word : packing.Word) :
    part.get (setAll calls word) = ((part.last calls).map part.fit).getD (part.get word) := by
  induction calls generalizing word with
  | nil => rfl
  | cons call rest ih =>
    obtain ⟨changed, value⟩ := call
    rw [setAll, ih, last]
    cases part.last rest with
    | some final => rfl
    | none =>
      by_cases heq : changed = part
      · subst heq
        rw [dif_pos rfl]
        exact changed.get_set_self word value
      · rw [dif_neg heq]
        exact changed.get_set_of_ne word value (Ne.symm heq)

/-- A bit outside the parts that are set is as it was. -/
theorem getLsbD_raw_setAll {calls : List (Call packing)} {i : Nat}
    (houtside : ∀ call ∈ calls, call.part.field.cover.getLsbD i = false) (word : packing.Word) :
    (packing.raw (setAll calls word)).toBitVec.getLsbD i =
      (packing.raw word).toBitVec.getLsbD i := by
  induction calls generalizing word with
  | nil => rfl
  | cons call rest ih =>
    rw [List.forall_mem_cons] at houtside
    rw [setAll, ih houtside.2, call.part.getLsbD_raw_set word call.value houtside.1]

/-- A word is told from its parts and from the bits outside them. -/
theorem Packing.eq_of_parts {first second : packing.Word}
    (hparts : ∀ part : Part packing, part.get first = part.get second)
    (houtside : ∀ i, (∀ part : Part packing, part.field.cover.getLsbD i = false) →
      (packing.raw first).toBitVec.getLsbD i = (packing.raw second).toBitVec.getLsbD i) :
    first = second := by
  refine packing.raw_injective (UInt32.toBitVec_inj.mp (BitVec.eq_of_getLsbD_eq fun i _ ↦ ?_))
  by_cases hcovered : ∃ part : Part packing, part.field.cover.getLsbD i = true
  · obtain ⟨part, hpart⟩ := hcovered
    have hheld : part.field.get32 (packing.raw first) = part.field.get32 (packing.raw second) := by
      rw [← part.widen_get, ← part.widen_get, hparts part]
    rw [part.field.getLsbD_of_covered _ hpart, part.field.getLsbD_of_covered _ hpart]
    exact congrArg (fun held ↦ held.toBitVec.getLsbD (i - part.field.offset)) hheld
  · exact houtside i fun part ↦ Bool.eq_false_iff.mpr fun hpart ↦ hcovered ⟨part, hpart⟩

/-- Only the last call for each part counts, so calls for different parts may change places. -/
theorem setAll_congr {calls others : List (Call packing)}
    (hlast : ∀ part : Part packing, part.last others = part.last calls) (word : packing.Word) :
    setAll others word = setAll calls word := by
  refine Packing.eq_of_parts (fun part ↦ ?_) fun i houtside ↦ ?_
  · rw [part.get_setAll, part.get_setAll, hlast part]
  · rw [getLsbD_raw_setAll (fun call _ ↦ houtside call.part),
      getLsbD_raw_setAll (fun call _ ↦ houtside call.part)]

/-- Fields are lenses, and setters of a packed register change their own part only. From any word
and after any calls, each part holds the last value that it was given, as far as it can hold it, and
its first one if it was given none; a bit outside the parts that were set is as it was; and calls
that give each part the same last value come to the same word, in whatever order they are made. -/
theorem fields_lawful :
    (∀ {width : Nat} (field : Field width), field.offset < width → field.Lawful) ∧
      ∀ {packing : Packing} (word : packing.Word) (calls : List (Call packing)),
        (∀ part : Part packing,
          part.get (setAll calls word) = ((part.last calls).map part.fit).getD (part.get word)) ∧
        (∀ i, (∀ call ∈ calls, call.part.field.cover.getLsbD i = false) →
          (packing.raw (setAll calls word)).toBitVec.getLsbD i =
            (packing.raw word).toBitVec.getLsbD i) ∧
        ∀ others : List (Call packing),
          (∀ part : Part packing, part.last others = part.last calls) →
            setAll others word = setAll calls word :=
  ⟨fun _ hinside ↦ Field.lawful hinside, fun word calls ↦
    ⟨fun part ↦ part.get_setAll calls word, fun _ houtside ↦ getLsbD_raw_setAll houtside word,
      fun _ hlast ↦ setAll_congr hlast word⟩⟩

/-- A field whose mask sticks out of its byte, and the clock choices of a word of ones that are set
in two orders. -/
theorem fields_lawful_clipped :
    let clipped : Field 8 := ⟨6, 0xFF⟩
    let ones : ClockSource := ⟨0xFFFFFFFF⟩
    let calls : List (Call .clockSource) := [⟨.first, 1⟩, ⟨.second, 2⟩, ⟨.first, 4⟩]
    let others : List (Call .clockSource) := [⟨.first, 4⟩, ⟨.second, 2⟩]
    clipped.offset < 8 ∧ clipped.Lawful ∧
      ((setAll calls ones).first = 0 ∧ (setAll calls ones).second = 0) ∧
        (setAll calls ones).raw.toBitVec.getLsbD 5 = true ∧
          setAll others ones = setAll calls ones := by
  intro clipped ones calls others
  obtain ⟨hlast, houtside, horder⟩ := fields_lawful.2 ones calls
  have hlawful : clipped.Lawful := fields_lawful.1 clipped (by decide)
  refine ⟨by decide, hlawful, ⟨hlast .first, hlast .second⟩, ?_, ?_⟩
  · exact (houtside 5 (by decide)).trans (by decide)
  · exact horder others fun part ↦ by cases part <;> rfl

end Scanout.Register
