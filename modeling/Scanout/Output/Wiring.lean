import Scanout.Output.Id
import Scanout.Register.Ddc
import Scanout.Timing.Mode

/-!
# Wiring of outputs

How each output of a board reaches its monitor, and the fixed panel behind it, if there is one.
Desktop boards carry two digital connectors; mobile boards drive a panel from the second
transmitter's block.
-/

set_option autoImplicit false
set_option relaxedAutoImplicit false

namespace Scanout.Output

open Register

/-- How the monitor of an output is reached. -/
inductive Ddc where
  /-- Through the hardware engine, on one of its connectors. -/
  | hardware (connector : UInt8)
  /-- Line by line, on the pads at this base. -/
  | pads (base : Direct)
  /-- Not at all. -/
  | none
  deriving DecidableEq, Repr

/-- A wired output. -/
structure Wiring where
  id : Id
  ddc : Ddc
  /-- The mode of a fixed panel, to which every mode on this output is scaled. -/
  panel : Option Mode := Option.none
  deriving DecidableEq, Repr

/-- The outputs of a desktop board. -/
def desktop : List Wiring :=
  [⟨.dac1, .pads padVga, none⟩, ⟨.tmds1, .hardware 1, none⟩, ⟨.dac2, .pads padSecondary, none⟩,
    ⟨.tmds2, .pads padDvi, none⟩]

/-- The outputs of a mobile board. -/
def mobile : List Wiring :=
  [⟨.dac1, .pads padVga, none⟩, ⟨.tmds1, .hardware 1, none⟩, ⟨.dac2, .pads padSecondary, none⟩,
    ⟨.lvds, .pads padPanel, none⟩]

end Scanout.Output
