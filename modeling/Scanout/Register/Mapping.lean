import Scanout.Error

/-!
# Mapped register regions

A mapped region of some length in bytes, as the words that fit in it. An access must be aligned
to a word and lie inside the region; anything else is a fault.
-/

set_option autoImplicit false
set_option relaxedAutoImplicit false

namespace Scanout.Register

/-- A mapped region: its length in bytes, and its words. -/
structure Mapping where
  length : Nat
  words : Array UInt32
  deriving DecidableEq, Repr

namespace Mapping

/-- A region of zeros. A region that is absent or empty is not mapped. -/
def ofLength? (isPresent : Bool) (length : Nat) : Except Error Mapping :=
  if !isPresent ∨ length = 0 then .error .notMapped
  else .ok { length, words := Array.replicate (length / 4) 0 }

/-- The position of the word at an offset. -/
def word (mapping : Mapping) (offset : UInt32) : Except Fault Nat :=
  if offset.toNat % 4 = 0 ∧ offset.toNat + 4 ≤ mapping.length then .ok (offset.toNat / 4)
  else .error (.outsideMapping offset.toNat mapping.length)

/-- The word at an offset. -/
def read (mapping : Mapping) (offset : UInt32) : Except Fault UInt32 := do
  return mapping.words.getD (← mapping.word offset) 0

/-- The region with another word at an offset. -/
def write (mapping : Mapping) (offset value : UInt32) : Except Fault Mapping := do
  let position ← mapping.word offset
  return { mapping with words := mapping.words.setIfInBounds position value }

end Mapping

end Scanout.Register
