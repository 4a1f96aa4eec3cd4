/-!
# Hexadecimal text

Lowercase digits, the usual `0x` form, and the form padded with zeros to a total width that
counts the `0x`. `parse` reads digits of either case.
-/

set_option autoImplicit false
set_option relaxedAutoImplicit false

namespace Scanout.Text.Hex

/-- The lowercase digits of a number, at least one. -/
def digits (n : Nat) : String :=
  String.ofList (Nat.toDigits 16 n)

/-- The number with its `0x`. -/
def short (n : Nat) : String :=
  "0x" ++ digits n

/-- The number with its `0x`, zeros put in to reach `width` characters in all. -/
def padded (width n : Nat) : String :=
  let body := Nat.toDigits 16 n
  "0x" ++ String.ofList (List.replicate (width - 2 - body.length) '0' ++ body)

/-- The value of a digit of either case. -/
def digitValue (c : Char) : Option Nat :=
  if '0' ≤ c ∧ c ≤ '9' then some (c.toNat - '0'.toNat)
  else if 'a' ≤ c ∧ c ≤ 'f' then some (c.toNat - 'a'.toNat + 10)
  else if 'A' ≤ c ∧ c ≤ 'F' then some (c.toNat - 'A'.toNat + 10)
  else none

/-- One byte as two digits. -/
def byte (b : UInt8) : String :=
  let body := Nat.toDigits 16 b.toNat
  String.ofList (List.replicate (2 - body.length) '0' ++ body)

end Scanout.Text.Hex
