import Scanout.Command.Run

/-!
# Command line

Prints what a command yields. A complaint goes to standard error and decides the exit code; a
command line that cannot be read is answered with the usage.
-/

set_option autoImplicit false
set_option relaxedAutoImplicit false

open Scanout

/-- How the command line is used. -/
def usageText : String :=
  "usage: scanout [-q] chips | pll KHZ | timing [--cvt] MODE | modeset [options] MODE\n" ++
    "options: --chip HEX --crtc N -o OUTPUT --bpp N --cvt --fb-base HEX --vram-mib N\n" ++
    "         --i2c-chunk N --restore"

/-- Run the command line. -/
def main (arguments : List String) : IO UInt32 := do
  match Command.interpret arguments with
  | .error .usage =>
    IO.eprintln usageText
    return 2
  | .error .help =>
    IO.println usageText
    return 0
  | .ok job =>
    let outcome := Command.run job
    for line in outcome.lines do
      IO.println line
    match outcome.complaint with
    | none => return 0
    | some complaint =>
      IO.eprintln complaint.line
      return complaint.exitCode
