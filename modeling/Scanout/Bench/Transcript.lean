import Scanout.Bench

/-!
# Transcripts

What a bench recorded, as text. A short record is shown line by line; a long one by its length, a
fingerprint of all its lines, and both its ends.
-/

set_option autoImplicit false
set_option relaxedAutoImplicit false

namespace Scanout.Bench

/-- A record as text. -/
inductive Transcript where
  | whole (lines : List String)
  | digest (count : Nat) (fingerprint : String) (head tail : List String)
  deriving DecidableEq, Repr

namespace Transcript

/-- The most lines that are shown one by one. -/
def limit : Nat := 250

/-- The lines shown at either end of a digest. -/
def margin : Nat := 40

/-- One step of the sixty-four-bit hash. -/
def mix (hash : UInt64) (byte : UInt8) : UInt64 :=
  (hash ^^^ byte.toUInt64) * 0x100000001B3

/-- The hash of some lines, each with the line feed that ends it. -/
def hash (lines : List String) : UInt64 :=
  lines.foldl (fun hash line => mix (line.toUTF8.foldl mix hash) 0x0A) 0xCBF29CE484222325

/-- A hash in sixteen hexadecimal digits. -/
def hashText (hash : UInt64) : String :=
  let text := Text.Hex.digits hash.toNat
  String.ofList (List.replicate (16 - text.length) '0') ++ text

/-- The transcript of some events. -/
def of (events : Array Event) : Transcript :=
  let lines := events.toList.map Event.text
  if limit < lines.length then
    .digest lines.length (hashText (hash lines)) (lines.take margin)
      (lines.drop (lines.length - margin))
  else .whole lines

end Transcript

/-- The bench with nothing recorded yet. -/
def cleared (bench : Bench) : Bench :=
  { bench with events := #[], entries := #[] }

end Scanout.Bench
