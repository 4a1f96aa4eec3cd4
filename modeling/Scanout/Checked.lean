import Scanout.Fault

/-!
# Checked arithmetic

Sums, differences and products of words, each with its overflow check. The functions on `Nat`
take the number of values of the width as their first argument; `add16` and `sub16` work on
sixteen-bit words directly. Each answers `.ok` exactly when the value over the naturals exists
and fits.
-/

set_option autoImplicit false
set_option relaxedAutoImplicit false

namespace Scanout.Checked

/-- The sum, if it is below `limit`. -/
def add (limit a b : Nat) : Except Fault Nat :=
  if a + b < limit then .ok (a + b) else .error .addition

/-- The difference, if it is not negative. -/
def sub (a b : Nat) : Except Fault Nat :=
  if b ≤ a then .ok (a - b) else .error .subtraction

/-- The product, if it is below `limit`. -/
def mul (limit a b : Nat) : Except Fault Nat :=
  if a * b < limit then .ok (a * b) else .error .multiplication

/-- The value moved into the interval, which must not be empty. -/
def clamp (value lower upper : Nat) : Except Fault Nat :=
  if lower ≤ upper then .ok (max lower (min value upper))
  else .error (.emptyInterval lower upper)

/-- The sum of two sixteen-bit words. -/
def add16 (a b : UInt16) : Except Fault UInt16 :=
  if a.toNat + b.toNat < UInt16.size then .ok (a + b) else .error .addition

/-- The difference of two sixteen-bit words. -/
def sub16 (a b : UInt16) : Except Fault UInt16 :=
  if b ≤ a then .ok (a - b) else .error .subtraction

/-- The sum of two thirty-two-bit words. -/
def add32 (a b : UInt32) : Except Fault UInt32 :=
  if a.toNat + b.toNat < UInt32.size then .ok (a + b) else .error .addition

end Scanout.Checked
