import Scanout.Display.Operation
import Scanout.Proofs.Display.Board
import Scanout.Proofs.Display.Plan
import Scanout.Proofs.RegisterFile

/-!
The window of the memory controller, held against the surfaces that are accepted. A surface is
accepted if it ends inside video memory, and that is reckoned with natural numbers. The window keeps
the last unit of video memory in sixteen bits, so it is exact for video memory that ends no later
than the address space does, and it then covers every accepted surface. Past that the last unit
wraps to one below the first, and no surface is covered (`mapMemory_covers_iff`). `tall` is a board
of that kind.
-/

set_option autoImplicit false
set_option relaxedAutoImplicit false

namespace Scanout

open Register

namespace Display

/-- Video memory is some whole units of 64 KiB. -/
structure Aligned (display : Display) : Prop where
  base : display.base.toNat % 65536 = 0
  size : display.size.toNat % 65536 = 0
  nonempty : 0 < display.size

variable {display : Display} {pipe : Pipe} {request : Request} {plan : Pipe.Plan}

namespace Aligned

variable (haligned : display.Aligned)
include haligned

/-- The window begins where video memory does. -/
theorem base_covering :
    (Aperture.covering display.base display.size).base.toNat * 65536 = display.base.toNat := by
  have hbase := haligned.base
  rw [Aperture.toNat_base_covering]
  omega

/-- Up to the end of the address space, the window ends where video memory does. -/
theorem top_covering (hfits : display.base.toNat + display.size.toNat ≤ UInt32.size) :
    ((Aperture.covering display.base display.size).top.toNat + 1) * 65536 =
      display.base.toNat + display.size.toNat := by
  obtain ⟨hbase, hsize, hnonempty⟩ := haligned
  rw [UInt32.lt_iff_toNat_lt, UInt32.toNat_zero] at hnonempty
  rw [UInt32.size] at hfits
  rw [Aperture.toNat_top_covering]
  omega

/-- Past the end of the address space, the window ends before video memory begins. -/
theorem top_covering_lt (hpast : UInt32.size < display.base.toNat + display.size.toNat) :
    ((Aperture.covering display.base display.size).top.toNat + 1) * 65536 <
      display.base.toNat := by
  have hword := display.size.toNat_lt
  obtain ⟨hbase, hsize, -⟩ := haligned
  rw [UInt32.size] at hpast
  rw [Aperture.toNat_top_covering]
  omega

end Aligned

/-- The memory controller is given the window before anything else happens. -/
theorem trace_mapMemory {σ : Type} (handler : Handler Access.signature σ) (state : σ) :
    ∃ rest, (mapMemory.start display).trace handler state =
      Event.writes (RegisterFile.controllerWrites display.device.aperture
        (Aperture.covering display.base display.size).raw) ++ rest :=
  ⟨_, rfl⟩

/-- The memory controller is given a window that begins no later than an accepted surface, and it
covers the surface exactly if video memory ends inside the address space. -/
theorem mapMemory_covers_iff (haligned : display.Aligned)
    (hplan : display.plan pipe request = .ok plan) {σ : Type}
    (handler : Handler Access.signature σ) (state : σ) :
    ∃ window : Aperture,
      (∃ rest, (mapMemory.start display).trace handler state = Event.writes
        (RegisterFile.controllerWrites display.device.aperture window.raw) ++ rest) ∧
      window.base.toNat * 65536 ≤ plan.surface.location.toNat ∧
      (plan.surface.location.toNat + plan.surface.pitch.toNat * plan.surface.height.toNat *
            plan.surface.format.bytesPerPixel ≤ (window.top.toNat + 1) * 65536 ↔
        display.base.toNat + display.size.toNat ≤ UInt32.size) := by
  obtain ⟨hinside, hlocation, hpitch, hheight, -⟩ := (accepted_of_plan hplan).placed
  refine ⟨_, trace_mapMemory handler state, ?_, fun htop ↦ ?_, fun hfits ↦ ?_⟩
  · rw [haligned.base_covering, hlocation]
    exact Nat.le_add_right _ _
  · refine Nat.le_of_not_lt fun hpast ↦ ?_
    have hbelow := haligned.top_covering_lt hpast
    omega
  · rw [haligned.top_covering hfits, hlocation, hpitch, hheight, UInt16.toNat_toUInt32,
      UInt16.toNat_toUInt32]
    exact hinside

/-- A desktop board maps all of what it accepts. -/
theorem mapMemory_covers_desktop :
    desktop.Aligned ∧ ∃ plan, desktop.plan .first desktopRequest = .ok plan ∧
      ∃ window : Aperture,
        (∃ rest, (mapMemory.start desktop).trace RegisterFile.port .cleared = Event.writes
          (RegisterFile.controllerWrites desktop.device.aperture window.raw) ++ rest) ∧
        window.base.toNat * 65536 ≤ plan.surface.location.toNat ∧
        plan.surface.location.toNat + plan.surface.pitch.toNat * plan.surface.height.toNat *
          plan.surface.format.bytesPerPixel ≤ (window.top.toNat + 1) * 65536 := by
  have haligned : desktop.Aligned := ⟨by decide, by decide, by decide⟩
  obtain ⟨plan, hplan⟩ : ∃ plan, desktop.plan .first desktopRequest = .ok plan :=
    Except.exists_of_isOk (by decide +kernel)
  obtain ⟨window, hwritten, hbase, hcovers⟩ :=
    mapMemory_covers_iff haligned hplan RegisterFile.port .cleared
  exact ⟨haligned, plan, hplan, window, hwritten, hbase, hcovers.mpr (by decide)⟩

/-- A desktop board with 2 GiB of video memory from the last quarter of the address space. -/
def tall : Display :=
  { desktop with base := 0xC0000000, size := 0x80000000 }

/-- Such a board accepts a mode, and its window then runs from unit C000 up to unit 3FFF. -/
theorem tall_not_covered :
    tall.Aligned ∧ ∃ plan, tall.plan .first desktopRequest = .ok plan ∧
      (∃ rest, (mapMemory.start tall).trace RegisterFile.port .cleared = Event.writes
        (RegisterFile.controllerWrites tall.device.aperture 0x3FFFC000) ++ rest) ∧
      ¬plan.surface.location.toNat + plan.surface.pitch.toNat * plan.surface.height.toNat *
        plan.surface.format.bytesPerPixel ≤
          ((⟨0x3FFFC000⟩ : Aperture).top.toNat + 1) * 65536 := by
  obtain ⟨plan, hplan⟩ : ∃ plan, tall.plan .first desktopRequest = .ok plan :=
    Except.exists_of_isOk (by decide +kernel)
  refine ⟨⟨by decide, by decide, by decide⟩, plan, hplan, trace_mapMemory _ _, fun htop ↦ ?_⟩
  have hlocation := (accepted_of_plan hplan).placed.location
  have hbelow : ((⟨0x3FFFC000⟩ : Aperture).top.toNat + 1) * 65536 < tall.base.toNat := by decide
  omega

end Display

end Scanout
