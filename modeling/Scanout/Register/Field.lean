import Scanout.Fault

/-!
# Fields of a register word

A field is an offset and an unshifted mask. `get` extracts it and `set` replaces it, truncating
the new value to the mask; `getChecked` and `setChecked` refuse an offset that is not inside the
word. `get_set`, `set_get`, `getElem_set` and `set_comm` are the lens laws.
-/

set_option autoImplicit false
set_option relaxedAutoImplicit false

namespace Scanout.Register

/-- Where a field sits in a word of `width` bits. -/
structure Field (width : Nat) where
  offset : Nat
  mask : BitVec width
  deriving DecidableEq, Repr

namespace Field

variable {width : Nat}

/-- The bits of the word that the field covers. -/
def cover (field : Field width) : BitVec width :=
  field.mask <<< field.offset

/-- The field's value in a word. -/
def get (field : Field width) (raw : BitVec width) : BitVec width :=
  (raw >>> field.offset) &&& field.mask

/-- The word with the field replaced by the masked value. -/
def set (field : Field width) (raw value : BitVec width) : BitVec width :=
  (raw &&& ~~~field.cover) ||| ((value &&& field.mask) <<< field.offset)

/-- `get`, refusing a shift by the width of the word or more. -/
def getChecked (field : Field width) (raw : BitVec width) : Except Fault (BitVec width) :=
  if field.offset < width then .ok (field.get raw) else .error .rightShift

/-- `set`, refusing a shift by the width of the word or more. -/
def setChecked (field : Field width) (raw value : BitVec width) : Except Fault (BitVec width) :=
  if field.offset < width then .ok (field.set raw value) else .error .leftShift

/-- Reading a field back gives the value cut to the mask and to the bits left above the
offset. -/
theorem get_set (field : Field width) (raw value : BitVec width) :
    field.get (field.set raw value) =
      value &&& field.mask &&& (BitVec.allOnes width >>> field.offset) := by
  ext i hi
  have hnot : ¬field.offset + i < field.offset := by omega
  simp only [get, set, cover, BitVec.getElem_and, BitVec.getElem_ushiftRight,
    BitVec.getLsbD_or, BitVec.getLsbD_and, BitVec.getLsbD_not, BitVec.getLsbD_shiftLeft,
    BitVec.getLsbD_allOnes, BitVec.getLsbD_eq_getElem hi, Nat.add_sub_cancel_left]
  by_cases hoffset : field.offset + i < width <;>
    by_cases hmask : field.mask[i] <;> simp [hoffset, hmask, hnot]

/-- Writing back what was read changes nothing. -/
theorem set_get (field : Field width) (raw : BitVec width) :
    field.set raw (field.get raw) = raw := by
  ext i hi
  simp only [get, set, cover, BitVec.getElem_and, BitVec.getElem_or, BitVec.getElem_not,
    BitVec.getElem_shiftLeft]
  by_cases hoffset : i < field.offset
  · simp [hoffset]
  · have hsum : field.offset + (i - field.offset) = i := by omega
    have hbelow : i - field.offset < width := by omega
    by_cases hmask : field.mask[i - field.offset] <;>
      simp [hoffset, hmask, hsum, hi]

/-- A bit that the field covers comes from the shifted value, any other from the word. -/
theorem getElem_set (field : Field width) (raw value : BitVec width) (i : Nat) (hi : i < width) :
    (field.set raw value)[i] =
      if field.cover[i] then (value <<< field.offset)[i] else raw[i] := by
  simp only [set, cover, BitVec.getElem_or, BitVec.getElem_and, BitVec.getElem_not,
    BitVec.getElem_shiftLeft]
  by_cases hoffset : i < field.offset
  · simp [hoffset]
  · cases field.mask[i - field.offset] <;> simp [hoffset]

/-- A bit that the field does not cover is kept. -/
theorem getLsbD_set_of_outside (field : Field width) (raw value : BitVec width) (i : Nat)
    (houtside : field.cover.getLsbD i = false) :
    (field.set raw value).getLsbD i = raw.getLsbD i := by
  by_cases hi : i < width
  · rw [BitVec.getLsbD_eq_getElem hi] at houtside
    rw [BitVec.getLsbD_eq_getElem hi, BitVec.getLsbD_eq_getElem hi, getElem_set, houtside]
    exact if_neg Bool.false_ne_true
  · rw [BitVec.getLsbD_of_ge _ _ (by omega), BitVec.getLsbD_of_ge _ _ (by omega)]

/-- Fields that cover no common bit may be set in either order. -/
theorem set_comm (first second : Field width) (raw a b : BitVec width)
    (hdisjoint : first.cover &&& second.cover = 0) :
    second.set (first.set raw a) b = first.set (second.set raw b) a := by
  ext i hi
  have hbit : (first.cover[i] && second.cover[i]) = false := by
    rw [← BitVec.getElem_and, hdisjoint]
    exact BitVec.getElem_zero hi
  rw [getElem_set, getElem_set, getElem_set, getElem_set]
  cases hfirst : first.cover[i] <;> cases hsecond : second.cover[i]
  · rfl
  · rfl
  · rfl
  · rw [hfirst, hsecond] at hbit
    cases hbit

end Field

end Scanout.Register
