import Scanout.Command.Complaint
import Scanout.Timing.Cvt
import Scanout.Timing.Dmt

/-!
# Names on the command line

How modes, outputs and hexadecimal numbers are written. A mode is `WIDTHxHEIGHT@HZ`, and 60 Hz
where no rate is given; the rate is read before the size.
-/

set_option autoImplicit false
set_option relaxedAutoImplicit false

namespace Scanout.Command

/-- The text in front of the first character that passes a test, and what follows it. -/
def splitAt (test : Char → Bool) : List Char → Option (List Char × List Char)
  | [] => none
  | c :: rest =>
    if test c then some ([], rest)
    else (splitAt test rest).map fun (front, back) => (c :: front, back)

/-- The text without any number of copies of a two-character mark in front. -/
def stripMark (first second : Char) : List Char → List Char
  | a :: b :: rest => if a = first ∧ b = second then stripMark first second rest else a :: b :: rest
  | body => body

/-- A hexadecimal number of thirty-two bits, with or without marks. -/
def hexNumber (text : String) : Except Complaint UInt32 :=
  let body := stripMark '0' 'X' (stripMark '0' 'x' text.toList)
  match Text.Number.parse 16 UInt32.size body with
  | .ok value => .ok value.toUInt32
  | .error flaw => .error (.badHex text flaw)

/-- The output of a name, in letters of either case. -/
def outputNamed (name : String) : Except Complaint Output.Id :=
  let upper := String.ofList (name.toList.map Char.toUpper)
  match [("DAC1", Output.Id.dac1), ("DAC2", .dac2), ("TMDS1", .tmds1), ("TMDS2", .tmds2),
    ("LVDS", .lvds)].lookup upper with
  | some id => .ok id
  | none => .error (.unknownOutput name)

/-- The outputs of some names, or the first complaint. -/
def outputsNamed : List String → Except Complaint (List Output.Id)
  | [] => .ok []
  | name :: rest => do
    let id ← outputNamed name
    let ids ← outputsNamed rest
    return id :: ids

/-- A size and refresh rate as they were written. -/
structure Size where
  width : UInt16
  height : UInt16
  hz : UInt32
  deriving DecidableEq, Repr

/-- Read a size and refresh rate. -/
def size (text : String) : Except Complaint Size := do
  let (front, hz) ←
    match splitAt (· = '@') text.toList with
    | some (front, rate) =>
      match Text.Number.parse 10 UInt32.size rate with
      | .ok hz => pure (front, hz)
      | .error flaw => throw (.badRefresh text flaw)
    | none => pure (text.toList, 60)
  let (left, right) ←
    match splitAt (fun c => c = 'x' ∨ c = 'X') front with
    | some sides => pure sides
    | none => throw (.badSize text)
  let width ← (Text.Number.parse 10 UInt16.size left).mapError (Complaint.badWidth text)
  let height ← (Text.Number.parse 10 UInt16.size right).mapError (Complaint.badHeight text)
  return { width := width.toUInt16, height := height.toUInt16, hz := hz.toUInt32 }

/-- The mode of a text, computed or looked up among the standard ones. -/
def modeNamed (text : String) (cvt : Bool) : Except Complaint Mode := do
  let size ← size text
  if cvt then
    return Mode.computed size.width size.height size.hz
  match Mode.standard? size.width size.height size.hz with
  | some mode => return mode
  | none => throw (.notStandard text)

end Scanout.Command
