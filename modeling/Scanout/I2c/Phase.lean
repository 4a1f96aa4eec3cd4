/-!
# Phases of a transaction

A transaction is a list of phases, each writing some bytes or reading a number of them. `buffers`
deals the bytes that arrived out to the read phases; what has not arrived is zero.
-/

set_option autoImplicit false
set_option relaxedAutoImplicit false

namespace Scanout.I2c

/-- One phase of a transaction with a slave. -/
inductive Phase where
  | write (bytes : List UInt8)
  | read (length : Nat)
  deriving DecidableEq, Repr

namespace Phase

/-- The first `length` bytes, zeros standing in for those that are missing. -/
def fill (length : Nat) (received : List UInt8) : List UInt8 :=
  (received.take length).rightpad length 0

/-- The buffer of each read phase, given all bytes that arrived in order. -/
def buffers : List Phase → (received : List UInt8) → List (List UInt8)
  | [], _ => []
  | write _ :: rest, received => buffers rest received
  | read length :: rest, received =>
    fill length received :: buffers rest (received.drop length)

theorem fill_length (length : Nat) (received : List UInt8) :
    (fill length received).length = length := by
  simp only [fill, List.rightpad, List.length_append, List.length_take, List.length_replicate]
  omega

theorem fill_of_length {length : Nat} {received : List UInt8} (hlength : received.length = length) :
    fill length received = received := by
  subst hlength
  simp [fill, List.rightpad]

/-- A read phase takes as many bytes as it asks for and leaves the others to the phases after it. -/
theorem buffers_read {length : Nat} {early : List UInt8} (hlength : early.length = length)
    (rest : List Phase) (late : List UInt8) :
    buffers (.read length :: rest) (early ++ late) = early :: buffers rest late := by
  subst hlength
  simp [buffers, fill, List.rightpad]

end Phase

/-- The sizes of the chunks that a number of bytes is cut into: full ones, then the rest. -/
def chunkSizes (chunk count : Nat) : List Nat :=
  List.replicate (count / chunk) chunk ++
    if count % chunk = 0 then [] else [count % chunk]

/-- The bytes cut into consecutive pieces of the given sizes. -/
def cut : (sizes : List Nat) → (bytes : List UInt8) → List (List UInt8)
  | [], _ => []
  | size :: sizes, bytes => bytes.take size :: cut sizes (bytes.drop size)

end Scanout.I2c
