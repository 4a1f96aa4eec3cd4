import Scanout.Error
import Scanout.Text.Number

/-!
# What a command may complain about

Everything that stops a command whose arguments could be read, in words. Where a complaint has a
cause, the cause follows it.
-/

set_option autoImplicit false
set_option relaxedAutoImplicit false

namespace Scanout.Command

/-- Why a command stopped. -/
inductive Complaint where
  | badHex (text : String) (flaw : Text.Number.Flaw)
  | deviceTooWide
  | noPipe (number : UInt8)
  | unknownOutput (name : String)
  | badRefresh (text : String) (flaw : Text.Number.Flaw)
  | badSize (text : String)
  | badWidth (text : String) (flaw : Text.Number.Flaw)
  | badHeight (text : String) (flaw : Text.Number.Flaw)
  | notStandard (text : String)
  | memoryTooLarge
  | bus (cause : I2c.Error)
  | mode (flaw : Mode.Flaw)
  | display (error : Error)
  | fault (reason : Fault)
  deriving DecidableEq, Repr

namespace Complaint

/-- The complaint in words. -/
def message : Complaint → String
  | badHex text flaw => "bad hex number '" ++ text ++ "': " ++ flaw.message
  | deviceTooWide => "PCI device ID is 16 bits: " ++ Text.Number.Flaw.tooLarge.message
  | noPipe number => s!"no CRTC {number}, expected 1 or 2"
  | unknownOutput name => "unknown output '" ++ name ++ "'"
  | badRefresh text flaw => "bad refresh in '" ++ text ++ "': " ++ flaw.message
  | badSize text => "expected WIDTHxHEIGHT, got '" ++ text ++ "'"
  | badWidth text flaw => "bad width in '" ++ text ++ "': " ++ flaw.message
  | badHeight text flaw => "bad height in '" ++ text ++ "': " ++ flaw.message
  | notStandard text => text ++ " is not a DMT mode (try --cvt)"
  | memoryTooLarge => "video memory size does not fit 32 bits"
  | bus cause => cause.message
  | mode flaw => flaw.message
  | display error => error.chain
  | fault reason => reason.message

/-- The complaint as a line of standard error. -/
def line (complaint : Complaint) : String :=
  "Error: " ++ complaint.message

/-- A failure of the display engine as a complaint. -/
def ofFailure : Failure Error → Complaint
  | .error cause => display cause
  | .fault reason => fault reason

/-- A failure to lay a mode out as a complaint. -/
def ofFlaw : Failure Mode.Flaw → Complaint
  | .error flaw => mode flaw
  | .fault reason => fault reason

/-- The exit code of a command that stopped with the complaint. -/
def exitCode : Complaint → UInt32
  | fault _ => 101
  | _ => 1

end Complaint

end Scanout.Command
