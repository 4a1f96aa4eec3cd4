import Scanout.Register.Encoder

/-!
# Output identities

An output is an analog converter, a digital transmitter or the panel link, with an instance
number. `Id.block` says which encoder block drives it: the second transmitter and every panel
link share one, and two different outputs on one block cannot both be driven.
-/

set_option autoImplicit false
set_option relaxedAutoImplicit false

namespace Scanout.Output

open Register

/-- Signal path of an output. -/
inductive Kind where
  | dac
  | tmds
  | lvds
  deriving DecidableEq, Repr

/-- Signal path and instance number. -/
structure Id where
  kind : Kind
  number : UInt8
  deriving DecidableEq, Repr

namespace Id

/-- The first analog converter. -/
def dac1 : Id := ⟨.dac, 1⟩

/-- The second analog converter. -/
def dac2 : Id := ⟨.dac, 2⟩

/-- The first digital transmitter. -/
def tmds1 : Id := ⟨.tmds, 1⟩

/-- The second digital transmitter. -/
def tmds2 : Id := ⟨.tmds, 2⟩

/-- The panel link. -/
def lvds : Id := ⟨.lvds, 1⟩

/-- The encoder block that drives the output. -/
def block (id : Id) : EncoderBlock :=
  match id.kind with
  | .dac => if id.number = 2 then .dac2 else .dac1
  | .tmds => if id.number = 2 then .lvtm else .tmdsA
  | .lvds => .lvtm

/-- A register of the output's block. -/
def register (id : Id) (register : BlockRegister) : Direct :=
  id.block.register register

/-- Two different outputs on one block. -/
def sharesBlockWith (id other : Id) : Bool :=
  id ≠ other ∧ id.block = other.block

/-- The output's written name. A device has one panel link, so it carries no number. -/
def name (id : Id) : String :=
  match id.kind with
  | .dac => s!"DAC{id.number}"
  | .tmds => s!"TMDS{id.number}"
  | .lvds => "LVDS"

end Id

end Scanout.Output
