import Scanout.Display.Request
import Scanout.Proofs.Checked
import Scanout.Proofs.Timing

/-!
What is known of a request that was accepted. `Accepted` lists the checks that passed and where
every part of the plan comes from; the rest of the module draws the bounds from it that keep the
programmed values from wrapping.
-/

set_option autoImplicit false
set_option relaxedAutoImplicit false

namespace Scanout

open Register

/-- An accepted request, with what it is going to program. -/
structure Display.Accepted (display : Display) (pipe : Pipe) (request : Request)
    (plan : Pipe.Plan) : Prop where
  routing : display.checkRouting pipe request.outputs = .ok ()
  mode : request.mode.validate = .ok ()
  timing : Timing.ofMode (display.scanMode request) = .ok plan.timing
  format : Surface.Format.ofDepth? request.depth = some plan.surface.format
  surface : display.planSurface request plan.surface.format = .ok plan.surface
  viewport : Display.checkViewport request = .ok ()
  pll : Pll.synthesize display.device.chip.generation.pllLimits
    (display.scanMode request).clock = .ok plan.pll
  x : plan.x = request.x
  y : plan.y = request.y
  width : plan.width = request.mode.h.display
  height : plan.height = request.mode.v.display

/-- The end of a surface is exact: nothing wraps on the way to its register. -/
theorem Pipe.toNat_surfaceStop {surface : Surface} {stop : UInt32}
    (hstop : Pipe.surfaceStop surface = .ok stop) :
    stop.toNat = surface.location.toNat +
      surface.pitch.toNat * surface.height.toNat * surface.format.bytesPerPixel := by
  obtain ⟨bytes, hbytes, hstop⟩ := Except.bind_eq_ok.mp hstop
  obtain ⟨length, hlength, hsum⟩ := Except.bind_eq_ok.mp (Failure.ofFault_eq_ok.mp hbytes)
  obtain ⟨pixels, hpixels, hlength⟩ := Except.bind_eq_ok.mp hlength
  obtain ⟨-, rfl⟩ := Checked.mul_eq_ok.mp hpixels
  obtain ⟨-, rfl⟩ := Checked.mul_eq_ok.mp hlength
  obtain ⟨-, rfl⟩ := Checked.add_eq_ok.mp hsum
  split at hstop
  · rename_i hfits
    cases hstop
    exact UInt32.toNat_ofNat_of_lt' hfits
  · cases hstop

namespace Display

variable {display : Display} {pipe : Pipe} {request : Request} {plan : Pipe.Plan}

/-- Where an accepted surface lies: inside video memory and inside the address space. -/
structure Placed (display : Display) (request : Request) (surface : Surface) : Prop where
  inside : display.base.toNat + request.offset.toNat +
    request.width.toNat * request.height.toNat * surface.format.bytesPerPixel ≤
      display.base.toNat + display.size.toNat
  location : surface.location.toNat = display.base.toNat + request.offset.toNat
  pitch : surface.pitch = request.width.toUInt32
  height : surface.height = request.height.toUInt32
  fits : ∃ stop, Pipe.surfaceStop surface = .ok stop

theorem placed_of_planSurface {format : Surface.Format} {surface : Surface}
    (hplan : display.planSurface request format = .ok surface) :
    surface.format = format ∧ Placed display request surface := by
  rw [planSurface] at hplan
  dsimp only at hplan
  split at hplan
  · cases hplan
  split at hplan
  · cases hplan
  rename_i hlimit hspace
  obtain ⟨stop, hstop, hplan⟩ := Except.bind_eq_ok.mp hplan
  cases hplan
  refine ⟨rfl, Nat.not_lt.mp hlimit, ?_, rfl, rfl, stop, hstop⟩
  exact UInt32.toNat_ofNat_of_lt' (Nat.not_le.mp hspace)

theorem accepted_of_plan (hplan : display.plan pipe request = .ok plan) :
    display.Accepted pipe request plan := by
  rw [Display.plan] at hplan
  obtain ⟨_, hrouting, hplan⟩ := Except.bind_eq_ok.mp hplan
  dsimp only at hplan
  split at hplan
  · cases hplan
  obtain ⟨_, hmode, hplan⟩ := Except.bind_eq_ok.mp hplan
  obtain ⟨timing, htiming, hplan⟩ := Except.bind_eq_ok.mp hplan
  split at hplan
  case h_2 => cases hplan
  case h_1 format hformat =>
    obtain ⟨_, ⟨⟩, hplan⟩ := Except.bind_eq_ok.mp hplan
    obtain ⟨surface, hsurface, hplan⟩ := Except.bind_eq_ok.mp hplan
    obtain ⟨_, hviewport, hplan⟩ := Except.bind_eq_ok.mp hplan
    obtain ⟨pll, hpll, hplan⟩ := Except.bind_eq_ok.mp hplan
    cases hplan
    obtain ⟨rfl, -⟩ := placed_of_planSurface hsurface
    exact {
      routing := Failure.ofError_eq_ok.mp hrouting
      mode := Except.mapError_eq_ok.mp (Failure.ofError_eq_ok.mp hmode)
      timing := Except.mapError_eq_ok.mp htiming
      format := hformat
      surface := hsurface
      viewport := Failure.ofError_eq_ok.mp hviewport
      pll := hpll
      x := rfl
      y := rfl
      width := rfl
      height := rfl }

/-- What is checked of the first output of a list, and that the rest is checked as well. -/
theorem checkRouting_cons {id : Output.Id} {rest : List Output.Id}
    (hrouting : display.checkRouting pipe (id :: rest) = .ok ()) :
    (∃ view, display.output? id = some view) ∧
      (∀ other ∈ rest, id.sharesBlockWith other = false) ∧ display.isBusy id = false ∧
        display.checkRouting pipe rest = .ok () := by
  rw [checkRouting] at hrouting
  split at hrouting
  · cases hrouting
  rename_i hexists
  split at hrouting
  · cases hrouting
  rename_i halone
  split at hrouting
  · cases hrouting
  rename_i hfree
  rw [Option.isNone_iff_eq_none, ← ne_eq, Option.ne_none_iff_exists'] at hexists
  refine ⟨hexists, fun other hother ↦ ?_, Bool.eq_false_iff.mpr hfree, hrouting⟩
  exact Bool.eq_false_iff.mpr (List.find?_eq_none.mp halone other hother)

theorem exists_output_of_checkRouting {ids : List Output.Id}
    (hrouting : display.checkRouting pipe ids = .ok ()) :
    ∀ id ∈ ids, ∃ view, display.output? id = some view := by
  induction ids with
  | nil => simp
  | cons id rest ih =>
    obtain ⟨hexists, -, -, hrest⟩ := checkRouting_cons hrouting
    rw [List.forall_mem_cons]
    exact ⟨hexists, ih hrest⟩

/-- No output of a checked list is on a block that drives another. -/
theorem free_of_checkRouting {ids : List Output.Id}
    (hrouting : display.checkRouting pipe ids = .ok ()) :
    ∀ id ∈ ids, display.isBusy id = false := by
  induction ids with
  | nil => simp
  | cons id rest ih =>
    obtain ⟨-, -, hfree, hrest⟩ := checkRouting_cons hrouting
    rw [List.forall_mem_cons]
    exact ⟨hfree, ih hrest⟩

/-- No two outputs of a checked list share a block. -/
theorem eq_of_checkRouting {ids : List Output.Id}
    (hrouting : display.checkRouting pipe ids = .ok ()) :
    ∀ first ∈ ids, ∀ second ∈ ids, first.block = second.block → first = second := by
  induction ids with
  | nil => simp
  | cons id rest ih =>
    obtain ⟨-, halone, -, hrest⟩ := checkRouting_cons hrouting
    have hapart : ∀ other ∈ rest, id.block = other.block → id = other := by
      intro other hother hblock
      have hshares := halone other hother
      rw [Output.Id.sharesBlockWith, decide_eq_false_iff_not] at hshares
      exact Decidable.not_not.mp fun hne ↦ hshares ⟨hne, hblock⟩
    intro first hfirst second hsecond hblock
    rcases List.mem_cons.mp hfirst with rfl | hearlier <;>
      rcases List.mem_cons.mp hsecond with rfl | hlater
    · rfl
    · exact hapart second hlater hblock
    · exact (hapart first hearlier hblock.symm).symm
    · exact ih hrest first hearlier second hlater hblock

namespace Accepted

variable (haccepted : display.Accepted pipe request plan)
include haccepted

theorem exists_output : ∀ id ∈ request.outputs, ∃ view, display.output? id = some view :=
  exists_output_of_checkRouting haccepted.routing

theorem apart : ∀ first ∈ request.outputs, ∀ second ∈ request.outputs,
    first.block = second.block → first = second :=
  eq_of_checkRouting haccepted.routing

theorem free : ∀ id ∈ request.outputs, display.isBusy id = false :=
  free_of_checkRouting haccepted.routing

theorem placed : Placed display request plan.surface :=
  (placed_of_planSurface haccepted.surface).2

/-- Both totals have a register value. -/
theorem totals : plan.timing.h.total ≠ 0 ∧ plan.timing.v.total ≠ 0 := by
  obtain ⟨hvalid, hh, hv⟩ := Timing.of_ofMode haccepted.timing
  obtain ⟨horizontal, vertical, -, -⟩ := Mode.parts_of_validate hvalid
  obtain ⟨-, -, hh⟩ := Timing.Axis.of_ofMode hh
  obtain ⟨-, -, hv⟩ := Timing.Axis.of_ofMode hv
  have hne : ∀ axis : Mode.Axis, axis.Ordered → axis.total ≠ 0 := by
    rintro axis ⟨-, -, -, -, hless⟩ hzero
    rw [hzero] at hless
    exact absurd hless UInt16.not_lt_zero
  rw [hh, hv]
  exact ⟨hne _ horizontal, hne _ vertical⟩

/-- The visible area is at least as large as the bias of its end registers, and ends inside the
surface. -/
theorem visible :
    Pipe.viewportBias ≤ plan.width.toNat ∧ Pipe.viewportBias ≤ plan.height.toNat ∧
      plan.x.toNat + plan.width.toNat ≤ request.width.toNat ∧
      plan.y.toNat + plan.height.toNat ≤ request.height.toNat := by
  obtain ⟨-, -, hwidth, hheight⟩ := Mode.parts_of_validate haccepted.mode
  have hviewport := haccepted.viewport
  rw [checkViewport] at hviewport
  split at hviewport
  · cases hviewport
  rename_i hinside
  rw [not_or, Nat.not_lt, Nat.not_lt] at hinside
  rw [haccepted.width, haccepted.height, haccepted.x, haccepted.y]
  exact ⟨hwidth, hheight, hinside⟩

end Accepted

end Display

end Scanout
