import Scanout.Timing.Mode

/-!
# Standard modes

The monitor timing standard's modes at 60 Hz, found by size and refresh rate.
-/

set_option autoImplicit false
set_option relaxedAutoImplicit false

namespace Scanout.Mode

/-- Both sync pulses negative. -/
def bothNegative : UInt32 := negativeHSync ||| negativeVSync

/-- Both sync pulses positive. -/
def bothPositive : UInt32 := positiveHSync ||| positiveVSync

/-- The standard modes. -/
def standard : List Mode :=
  [⟨25175, ⟨640, 656, 752, 800⟩, ⟨480, 490, 492, 525⟩, bothNegative⟩,
    ⟨40000, ⟨800, 840, 968, 1056⟩, ⟨600, 601, 605, 628⟩, bothPositive⟩,
    ⟨65000, ⟨1024, 1048, 1184, 1344⟩, ⟨768, 771, 777, 806⟩, bothNegative⟩,
    ⟨108000, ⟨1280, 1328, 1440, 1688⟩, ⟨1024, 1025, 1028, 1066⟩, bothPositive⟩,
    ⟨162000, ⟨1600, 1664, 1856, 2160⟩, ⟨1200, 1201, 1204, 1250⟩, bothPositive⟩]

/-- The standard mode of a size and refresh rate. -/
def standard? (width height : UInt16) (hz : UInt32) : Option Mode :=
  standard.find? fun mode =>
    mode.h.display = width ∧ mode.v.display = height ∧ mode.refresh = hz

end Scanout.Mode
