import Scanout.Proofs.Display.Board
import Scanout.Proofs.Display.Program
import Scanout.Proofs.RegisterFile

/-!
Fixed panels. A mode set drives the outputs that it names with the mode of the first panel among
them, and every output that it does not name stays on the pipe that it was fed from. Panels are
therefore driven with their own modes as long as every request names the panels that its pipe is
already driving, and none of another mode (`applied_native`). `rescan_not_native` is a request that
leaves one out.
-/

set_option autoImplicit false
set_option relaxedAutoImplicit false

namespace Scanout.Display

/-- Every panel that is being driven is driven with the raster of its own mode. -/
def Native (display : Display) : Prop :=
  ∀ view ∈ display.outputs, view.isActive = true → ∀ mode pipe, view.wiring.panel = some mode →
    view.source = some pipe →
      ∃ timing, Timing.ofMode mode = .ok timing ∧ (display.pipe pipe).timing = some timing

/-- The modes of the panels that a request names, in its order. -/
def panels (display : Display) (request : Request) : List Mode :=
  (request.outputs.filterMap display.output?).filterMap fun view ↦ view.wiring.panel

/-- The request names every panel that the pipe is driving, and only panels of one mode. -/
structure CoversPanels (display : Display) (pipe : Pipe) (request : Request) : Prop where
  driven : ∀ view ∈ display.outputs, view.isActive = true → view.source = some pipe →
    view.wiring.panel.isSome = true → view.id ∈ request.outputs
  alike : ∀ first ∈ display.panels request, ∀ second ∈ display.panels request, first = second

variable {display : Display} {pipe : Pipe} {request : Request} {plan : Pipe.Plan}

theorem scanMode_eq (display : Display) (request : Request) :
    display.scanMode request = (display.panels request).head?.getD request.mode := by
  rw [scanMode, panels, List.head?_filterMap]

/-- A request that names a panel is scanned out in the panel's mode. -/
theorem CoversPanels.scanMode (hcovers : display.CoversPanels pipe request) {id : Output.Id}
    {view : Output.View} {mode : Mode} (hid : id ∈ request.outputs)
    (hfound : display.output? id = some view) (hpanel : view.wiring.panel = some mode) :
    display.scanMode request = mode := by
  have hnamed : mode ∈ display.panels request :=
    List.mem_filterMap.mpr ⟨view, List.mem_filterMap.mpr ⟨id, hid, hfound⟩, hpanel⟩
  rw [scanMode_eq]
  cases hpanels : display.panels request with
  | nil =>
    rw [hpanels] at hnamed
    cases hnamed
  | cons first rest =>
    refine hcovers.alike first ?_ mode hnamed
    rw [hpanels]
    exact List.mem_cons_self

/-- What mode sets keep: besides the panels' modes, each view is of its pipe, and an output that is
wired twice is on once at most. -/
structure Scaled (display : Display) : Prop where
  wired : display.Wired
  firstOnly : Output.FirstOnly display.outputs
  native : display.Native

theorem Scaled.scanning (hscaled : display.Scaled) (haccepted : display.Accepted pipe request plan)
    (hcovers : display.CoversPanels pipe request) :
    (display.scanning pipe request.outputs plan).Scaled := by
  have hfirst : Output.FirstOnly (display.scanning pipe request.outputs plan).outputs := by
    refine Output.FirstOnly.changeEach (fun view ↦ (view.routed pipe).switched true) (fun _ ↦ rfl)
      ?_ request.outputs
    rw [outputs_setPipe]
    exact hscaled.firstOnly.changeEach (fun view ↦ view.switched false) (fun _ ↦ rfl) _
  refine ⟨fun other ↦ ?_, hfirst, fun view hview hactive mode source hpanel hsource ↦ ?_⟩
  · by_cases hother : other = pipe
    · rw [hother, pipe_scanning]
      exact hscaled.wired pipe
    · rw [pipe_scanning_of_ne hother]
      exact hscaled.wired other
  by_cases hid : view.id ∈ request.outputs
  · -- A panel that the request names: its mode is the one that is scanned out.
    have hfound : (display.scanning pipe request.outputs plan).output? view.id = some view :=
      hfirst.find?_eq hview hactive
    rw [output?_scanning, Option.map_eq_some_iff] at hfound
    obtain ⟨before, hbefore, hchanged⟩ := hfound
    rw [if_pos hid] at hchanged
    subst hchanged
    cases hsource
    refine ⟨plan.timing, ?_, by rw [pipe_scanning]; rfl⟩
    rw [← hcovers.scanMode hid hbefore hpanel]
    exact haccepted.timing
  · -- Any other output is as it was, so it is fed from the other pipe.
    have hkept : view ∈ display.outputs := by
      have hrest : view ∈ (display.scanning pipe request.outputs plan).outputs.filter
          fun view ↦ view.id ∉ request.outputs := List.mem_filter.mpr ⟨hview, by simpa using hid⟩
      rw [filter_scanning] at hrest
      exact (List.mem_filter.mp hrest).1
    have hother : source ≠ pipe := by
      rintro rfl
      exact hid (hcovers.driven view hkept hactive hsource (by rw [hpanel]; rfl))
    rw [pipe_scanning_of_ne hother]
    exact hscaled.native view hkept hactive mode source hpanel hsource

/-- The states that are reached from another one by mode sets that succeed, and whose requests cover
the panels that are being driven. -/
inductive Applied (origin : Display) : Display → Prop where
  | start : Applied origin origin
  | applyMode {display : Display} (happlied : Applied origin display) (pipe : Pipe)
    (request : Request) (hcovers : display.CoversPanels pipe request) (file : RegisterFile)
    (hok : (((applyMode pipe request).start display).run RegisterFile.port file).1.1 = .ok ()) :
    Applied origin (((applyMode pipe request).start display).run RegisterFile.port file).1.2

theorem Scaled.applied (hscaled : display.Scaled) {state : Display}
    (happlied : Applied display state) : state.Scaled := by
  induction happlied with
  | start => exact hscaled
  | applyMode _ pipe request hcovers file hok ih =>
    obtain ⟨plan, hplan, hleft⟩ :=
      (applyMode_scanning (ih.wired pipe)).returns RegisterFile.port file hok
    rw [hleft]
    exact ih.scanning (accepted_of_plan hplan) hcovers

theorem scaled_of_attachWith {adapter : Adapter} {config : Config} {wirings : List Output.Wiring}
    (hattach : attachWith adapter config wirings = .ok display) : display.Scaled := by
  have hbound := bound_of_attachWith hattach
  refine ⟨fun pipe ↦ by rw [hbound.pipe], ?_, fun view hview hactive ↦ ?_⟩
  · exact List.pairwise_of_forall_mem_list fun _ _ later hlater _ ↦ hbound.off later hlater
  · rw [hbound.inactive view hview] at hactive
    cases hactive

/-- On any board, and after any mode sets that succeeded, a panel that is on is driven with the
raster of its own mode, as long as every request named the panels that its pipe was driving, and
none of another mode. -/
theorem applied_native {adapter : Adapter} {config : Config} {wirings : List Output.Wiring}
    {display state : Display} (hattach : attachWith adapter config wirings = .ok display)
    (happlied : Applied display state) : state.Native :=
  ((scaled_of_attachWith hattach).applied happlied).native

/-- A device with a panel of 1024 by 768 pixels and an analog output. -/
def laptop : Display where
  device := desktop.device
  first := { pipe := .first }
  second := { pipe := .second }
  outputs := [{ wiring := ⟨.lvds, .none, some desktopRequest.mode⟩ },
    { wiring := ⟨.dac1, .none, none⟩ }]
  saved := none
  base := 0
  size := 0x10000000

theorem attachWith_laptop : attachWith ⟨0x7146, 0, 0x10000000⟩ {}
    [⟨.lvds, .none, some desktopRequest.mode⟩, ⟨.dac1, .none, none⟩] = .ok laptop := rfl

/-- A request for 640 by 480 pixels. -/
def smallRequest (outputs : List Output.Id) : Request :=
  .of { clock := 25175, h := ⟨640, 656, 752, 800⟩, v := ⟨480, 490, 492, 525⟩,
        flags := Mode.negativeHSync ||| Mode.negativeVSync } outputs

/-- A small mode on the panel, then on both outputs, then on the analog output from the other
pipe. -/
theorem applied_native_laptop :
    let panel := (((applyMode .first (smallRequest [.lvds])).start laptop).run RegisterFile.port
      .cleared).1.2
    let both := (((applyMode .first (smallRequest [.dac1, .lvds])).start panel).run
      RegisterFile.port .cleared).1.2
    let apart := (((applyMode .second (smallRequest [.dac1])).start both).run
      RegisterFile.port .cleared).1.2
    apart.outputs.map Output.View.isActive = [true, true] ∧ apart.Native := by
  intro panel both apart
  have hpanel : Applied laptop panel :=
    .applyMode .start .first _ ⟨by decide +kernel, by decide +kernel⟩ .cleared
      (Except.eq_ok (by decide +kernel))
  have hboth : Applied laptop both :=
    .applyMode hpanel .first _ ⟨by decide +kernel, by decide +kernel⟩ .cleared
      (Except.eq_ok (by decide +kernel))
  have hapart : Applied laptop apart :=
    .applyMode hboth .second _ ⟨by decide +kernel, by decide +kernel⟩ .cleared
      (Except.eq_ok (by decide +kernel))
  exact ⟨by decide +kernel, applied_native attachWith_laptop hapart⟩

/-- A mode set on the pipe of a panel that does not name the panel leaves it with the raster of
another mode. -/
theorem rescan_not_native :
    let panel := ((applyMode .first (smallRequest [.lvds])).start laptop).run RegisterFile.port
      .cleared
    let rescan := ((applyMode .first (smallRequest [.dac1])).start panel.1.2).run RegisterFile.port
      .cleared
    attachWith ⟨0x7146, 0, 0x10000000⟩ {}
        [⟨.lvds, .none, some desktopRequest.mode⟩, ⟨.dac1, .none, none⟩] = .ok laptop ∧
      panel.1.1 = .ok () ∧ rescan.1.1 = .ok () ∧ ¬rescan.1.2.Native := by
  intro panel rescan
  refine ⟨attachWith_laptop, by decide +kernel, by decide +kernel, fun hnative ↦ ?_⟩
  obtain ⟨timing, hmode, hcached⟩ := hnative
    { wiring := ⟨.lvds, .none, some desktopRequest.mode⟩, power := .on, source := some .first }
    (by decide +kernel) rfl desktopRequest.mode .first rfl rfl
  have hraster : (rescan.1.2.pipe .first).timing = (Timing.ofMode desktopRequest.mode).toOption := by
    rw [hcached, hmode]
    rfl
  exact absurd hraster (by decide +kernel)

end Scanout.Display
