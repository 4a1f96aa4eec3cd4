import Scanout.Display.Request
import Scanout.Proofs.Checked

/-!
What is cached of a device right after it was bound: nothing is on, nothing was saved, and the
outputs are those of its usual board. From then on each pipe's view stays with its pipe; `Wired` is
all that operations ever need of that.

`desktop` is one such device, and `desktopRequest` a mode that it accepts.
-/

set_option autoImplicit false
set_option relaxedAutoImplicit false

namespace Scanout.Display

/-- Each pipe's view is a view of that pipe. -/
def Wired (display : Display) : Prop :=
  ∀ pipe, (display.pipe pipe).pipe = pipe

/-- The same device, with the same pipe behind each view. -/
structure SameDevice (origin display : Display) : Prop where
  device : display.device = origin.device
  pipe : ∀ pipe, (display.pipe pipe).pipe = (origin.pipe pipe).pipe

theorem SameDevice.refl (display : Display) : display.SameDevice display :=
  ⟨rfl, fun _ ↦ rfl⟩

theorem SameDevice.trans {origin middle display : Display} (hfirst : origin.SameDevice middle)
    (hsecond : middle.SameDevice display) : origin.SameDevice display where
  device := hsecond.device.trans hfirst.device
  pipe pipe := (hsecond.pipe pipe).trans (hfirst.pipe pipe)

theorem SameDevice.wired {origin display : Display} (hsame : origin.SameDevice display)
    (hwired : origin.Wired) : display.Wired :=
  fun pipe ↦ (hsame.pipe pipe).trans (hwired pipe)

/-- A device that was just bound with some outputs: its configuration was checked, nothing is on,
and nothing was saved. -/
structure Bound (adapter : Adapter) (config : Config) (wirings : List Output.Wiring)
    (display : Display) : Prop where
  chip : Chip.lookup adapter.device = .ok display.device.chip
  tuned : display.device.config = config
  valid : config.controller.validate = .ok ()
  pipe : ∀ pipe, display.pipe pipe = { pipe }
  outputs : display.outputs = (wirings.take outputLimit).map fun wiring ↦ { wiring }
  saved : display.saved = none

theorem bound_of_attachWith {adapter : Adapter} {config : Config} {wirings : List Output.Wiring}
    {display : Display} (hattach : attachWith adapter config wirings = .ok display) :
    Bound adapter config wirings display := by
  obtain ⟨chip, hchip, hattach⟩ := Except.bind_eq_ok.mp hattach
  obtain ⟨_, hvalid, hattach⟩ := Except.bind_eq_ok.mp hattach
  cases hattach
  exact ⟨hchip, rfl, Except.mapError_eq_ok.mp hvalid, fun pipe ↦ by cases pipe <;> rfl, rfl, rfl⟩

namespace Bound

variable {adapter : Adapter} {config : Config} {wirings : List Output.Wiring} {display : Display}
  (hbound : Bound adapter config wirings display)
include hbound

theorem wired : ∀ view ∈ display.outputs, view.wiring ∈ wirings := by
  rw [hbound.outputs]
  intro view hview
  obtain ⟨wiring, hwiring, rfl⟩ := List.mem_map.mp hview
  exact List.mem_of_mem_take hwiring

theorem off : ∀ view ∈ display.outputs, view.power = .off := by
  rw [hbound.outputs]
  intro view hview
  obtain ⟨wiring, -, rfl⟩ := List.mem_map.mp hview
  rfl

theorem inactive : ∀ view ∈ display.outputs, view.isActive = false := by
  intro view hview
  rw [Output.View.isActive, hbound.off view hview]
  rfl

end Bound

/-- A device that was just bound with the outputs of its usual board. -/
structure Fresh (display : Display) : Prop where
  pipe : ∀ pipe, display.pipe pipe = { pipe }
  outputs : display.outputs = (boardOutputs display.device.chip).map fun wiring ↦ { wiring }
  saved : display.saved = none

theorem Fresh.wired {display : Display} (hfresh : display.Fresh) : display.Wired := by
  intro pipe
  rw [hfresh.pipe]

/-- No board has more outputs than a device can have. -/
theorem take_boardOutputs (chip : Chip) :
    (boardOutputs chip).take outputLimit = boardOutputs chip := by
  unfold boardOutputs
  cases chip.mobile <;> rfl

theorem fresh_of_attach {adapter : Adapter} {config : Config} {display : Display}
    (hattach : attach adapter config = .ok display) : display.Fresh := by
  obtain ⟨chip, hchip, hattach⟩ := Except.bind_eq_ok.mp hattach
  have hbound := bound_of_attachWith hattach
  have hsame : chip = display.device.chip := Except.ok.inj (hchip.symm.trans hbound.chip)
  refine ⟨hbound.pipe, ?_, hbound.saved⟩
  rw [hbound.outputs, take_boardOutputs, hsame]

/-- A desktop board with 256 MiB of video memory at address zero. -/
def desktop : Display where
  device := { chip := ⟨0x7146, "RV515", .rv515, false⟩, config := {} }
  first := { pipe := .first }
  second := { pipe := .second }
  outputs := Output.desktop.map fun wiring ↦ { wiring }
  saved := none
  base := 0
  size := 0x10000000

theorem attach_desktop : attach ⟨0x7146, 0, 0x10000000⟩ {} = .ok desktop := rfl

/-- A mode of 1024 by 768 pixels on an analog and a digital output. -/
def desktopRequest : Request :=
  .of { clock := 65000, h := ⟨1024, 1048, 1184, 1344⟩, v := ⟨768, 771, 777, 806⟩,
        flags := Mode.negativeHSync ||| Mode.negativeVSync } [.dac1, .tmds2]

end Scanout.Display
